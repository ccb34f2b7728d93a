import Linkage.Proofs.Setup
import Linkage.SystemLookup
import Mathlib.Data.List.Forall2

/-!
# Two set-ups side by side

Some things must not matter to a set-up, such as the spelling of a directory, or
where the log goes. That they do not is a law about two set-ups, and this file
runs two of them side by side, once for all such laws.

A relation on paths says which paths stand for each other. Two faults, actions
or lookups are *alike* if they are the same but for paths that stand for each
other. If the loaders answer alike, and the configurations name files that stand
for each other, then all that comes of the two set-ups is alike, step by step.
The proof follows the program: one lemma for each thing that an attempt can do,
and one for work after work.
-/

namespace Linkage

variable {R : Path → Path → Prop}

/-!
## The same but for paths

One relation for each type, down to the paths in it. Where a type holds no path,
things that are alike are equal.
-/

inductive InitError.Alike (R : Path → Path → Prop) : InitError → InitError → Prop
  | systemRootUnset : Alike R .systemRootUnset .systemRootUnset
  | libraryDirUnknown : Alike R .libraryDirUnknown .libraryDirUnknown
  | load {p q : Path} (reason : String) : R p q → Alike R (.load p reason) (.load q reason)
  | missingExport {p q : Path} (symbol : String) :
      R p q → Alike R (.missingExport p symbol) (.missingExport q symbol)
  | slotNull (ordinal : Nat) (name : String) :
      Alike R (.slotNull ordinal name) (.slotNull ordinal name)
  | unterminated (expected : Nat) : Alike R (.unterminated expected) (.unterminated expected)
  | panicked (message : String) : Alike R (.panicked message) (.panicked message)

inductive Halt.Alike (R : Path → Path → Prop) : Halt → Halt → Prop
  | failed {cause cause' : InitError} :
      InitError.Alike R cause cause' → Alike R (.failed cause) (.failed cause')
  | crashed (crash : Crash) : Alike R (.crashed crash) (.crashed crash)

inductive Milestone.Alike (R : Path → Path → Prop) : Milestone → Milestone → Prop
  | started (platform : Platform) : Alike R (.started platform) (.started platform)
  | primaryLoaded (platform : Platform) (runtime : RuntimeLibrary) {p q : Path} :
      R p q → Alike R (.primaryLoaded platform runtime p) (.primaryLoaded platform runtime q)
  | fallbackLoaded (platform : Platform) (runtime : RuntimeLibrary) {p q : Path} (slots : Nat) :
      R p q →
      Alike R (.fallbackLoaded platform runtime p slots) (.fallbackLoaded platform runtime q slots)
  | ready (platform : Platform) (runtime : RuntimeLibrary) {p q : Path} :
      R p q → Alike R (.ready platform runtime p) (.ready platform runtime q)
  | degraded (platform : Platform) {cause cause' : InitError} :
      InitError.Alike R cause cause' →
      Alike R (.degraded platform cause) (.degraded platform cause')

inductive Action.Alike (R : Path → Path → Prop) : Action → Action → Prop
  | checked {p q : Path} : R p q → Alike R (.checked p) (.checked q)
  | loaded {p q : Path} : R p q → Alike R (.loaded p) (.loaded q)
  | reported {m m' : Milestone} : Milestone.Alike R m m' → Alike R (.reported m) (.reported m')

/-- The same library was loaded from paths that stand for each other. -/
structure OpenLibrary.Alike (R : Path → Path → Prop) (l l' : OpenLibrary) : Prop where
  library : l.library = l'.library
  path : R l.path l'.path

/-- The same symbols were read from helpers that are alike. -/
structure FallbackLookup.Alike (R : Path → Path → Prop) (l l' : FallbackLookup) : Prop where
  table : l.table = l'.table
  symbols : l.symbols = l'.symbols
  helper : OpenLibrary.Alike R l.helper l'.helper

inductive ReadyLookup.Alike (R : Path → Path → Prop) : ReadyLookup → ReadyLookup → Prop
  | direct (runtime : RuntimeLibrary) {primary primary' : OpenLibrary} :
      OpenLibrary.Alike R primary primary' →
      Alike R (.direct runtime primary) (.direct runtime primary')
  | withFallback (runtime : RuntimeLibrary) {primary primary' : OpenLibrary}
      {fallback fallback' : FallbackLookup} :
      OpenLibrary.Alike R primary primary' → FallbackLookup.Alike R fallback fallback' →
      Alike R (.withFallback runtime primary fallback) (.withFallback runtime primary' fallback')

inductive LookupState.Alike (R : Path → Path → Prop) : LookupState → LookupState → Prop
  | ready {lookup lookup' : ReadyLookup} :
      ReadyLookup.Alike R lookup lookup' → Alike R (.ready lookup) (.ready lookup')
  | degraded {cause cause' : InitError} :
      InitError.Alike R cause cause' → Alike R (.degraded cause) (.degraded cause')

/-! ## What alike things have in common -/

/-- Causes are remembered alike. -/
theorem Halt.Alike.cause {halt halt' : Halt} (h : Halt.Alike R halt halt') :
    InitError.Alike R halt.cause halt'.cause := by
  cases h with
  | failed hcause => exact hcause
  | crashed crash => exact .panicked _

theorem ReadyLookup.Alike.runtime_eq {lookup lookup' : ReadyLookup}
    (h : ReadyLookup.Alike R lookup lookup') : lookup.runtime = lookup'.runtime := by
  cases h with
  | direct runtime _ => rfl
  | withFallback runtime _ _ => rfl

/-- A library resolves names by what it is, not by where it was loaded from. -/
theorem OpenLibrary.Alike.resolve_eq {l l' : OpenLibrary} (h : OpenLibrary.Alike R l l')
    (name : SymbolName) : l.resolve name = l'.resolve name := by
  rw [OpenLibrary.resolve, h.library, OpenLibrary.resolve]

theorem FallbackLookup.Alike.resolve_eq {l l' : FallbackLookup} (h : FallbackLookup.Alike R l l')
    (name : SymbolName) : l.resolve name = l'.resolve name := by
  rw [FallbackLookup.resolve, h.table, h.symbols, FallbackLookup.resolve]

/-- **Lookups that are alike find the same symbols**, and find them in the same place. -/
theorem LookupState.Alike.resolve_eq {state state' : LookupState}
    (h : LookupState.Alike R state state') (name : SymbolName) :
    state.source.resolve name = state'.source.resolve name := by
  cases h with
  | degraded _ => rfl
  | ready hready =>
      cases hready with
      | direct runtime hprimary => exact hprimary.resolve_eq name
      | withFallback runtime hprimary hfallback =>
          show (OpenLibrary.resolve _ name).or (FallbackLookup.resolve _ name) = _
          rw [hprimary.resolve_eq, hfallback.resolve_eq]
          rfl

/-- A text that is no name is refused by both alike. -/
theorem SystemLookup.resolve_eq_of_alike {l l' : SystemLookup}
    (h : LookupState.Alike R l.state l'.state) (name : String) :
    l.resolve name = l'.resolve name := by
  unfold resolve
  simp only [h.resolve_eq]

/-- What is loaded alike is loaded from paths that stand for each other. -/
theorem Action.Alike.load? {a a' : Action} (h : Action.Alike R a a') :
    Option.Rel R a.load? a'.load? := by
  cases h with
  | checked _ => exact .none
  | loaded hpath => exact .some hpath
  | reported _ => exact .none

/-! ## Where a path stands for itself only -/

theorem Halt.alike_refl (halt : Halt) : Halt.Alike Eq halt halt := by
  cases halt with
  | crashed crash => exact .crashed crash
  | failed cause =>
      refine .failed ?_
      cases cause with
      | systemRootUnset => exact .systemRootUnset
      | libraryDirUnknown => exact .libraryDirUnknown
      | load path reason => exact .load reason rfl
      | missingExport library symbol => exact .missingExport symbol rfl
      | slotNull ordinal name => exact .slotNull ordinal name
      | unterminated expected => exact .unterminated expected
      | panicked message => exact .panicked message

theorem InitError.Alike.eq {cause cause' : InitError} (h : InitError.Alike Eq cause cause') :
    cause = cause' := by
  cases h with
  | load reason hpath => rw [hpath]
  | missingExport symbol hpath => rw [hpath]
  | systemRootUnset | libraryDirUnknown | slotNull | unterminated | panicked => rfl

theorem Milestone.Alike.eq {m m' : Milestone} (h : Milestone.Alike Eq m m') : m = m' := by
  cases h with
  | started platform => rfl
  | primaryLoaded platform runtime hpath => rw [hpath]
  | fallbackLoaded platform runtime slots hpath => rw [hpath]
  | ready platform runtime hpath => rw [hpath]
  | degraded platform hcause => rw [hcause.eq]

theorem Action.Alike.eq {a a' : Action} (h : Action.Alike Eq a a') : a = a' := by
  cases h with
  | checked hpath => rw [hpath]
  | loaded hpath => rw [hpath]
  | reported hm => rw [hm.eq]

theorem OpenLibrary.Alike.eq {l l' : OpenLibrary} (h : OpenLibrary.Alike Eq l l') : l = l' := by
  obtain ⟨library, path⟩ := l
  obtain ⟨rfl, rfl⟩ := h
  rfl

theorem FallbackLookup.Alike.eq {l l' : FallbackLookup} (h : FallbackLookup.Alike Eq l l') :
    l = l' := by
  obtain ⟨table, symbols, helper⟩ := l
  obtain ⟨rfl, rfl, hhelper⟩ := h
  obtain rfl : helper = l'.helper := hhelper.eq
  rfl

theorem LookupState.Alike.eq {state state' : LookupState}
    (h : LookupState.Alike Eq state state') : state = state' := by
  cases h with
  | degraded hcause => rw [hcause.eq]
  | ready hready =>
      cases hready with
      | direct runtime hprimary => rw [hprimary.eq]
      | withFallback runtime hprimary hfallback => rw [hprimary.eq, hfallback.eq]

/-! ## Attempts that go alike -/

namespace Attempt

variable {α β γ δ : Type} {V : α → β → Prop} {W : γ → δ → Prop}

/-- Two outcomes are alike: results that correspond, or halts that are alike. -/
inductive Ends (R : Path → Path → Prop) (V : α → β → Prop) :
    Except Halt α → Except Halt β → Prop
  | ok {a : α} {b : β} : V a b → Ends R V (.ok a) (.ok b)
  | halted {halt halt' : Halt} : Halt.Alike R halt halt' → Ends R V (.error halt) (.error halt')

theorem Ends.refl (outcome : Except Halt α) : Ends Eq Eq outcome outcome := by
  cases outcome with
  | ok a => exact .ok rfl
  | error halt => exact .halted halt.alike_refl

/-- Two attempts do things that are alike, in the same order, and end alike. -/
structure Alike (R : Path → Path → Prop) (V : α → β → Prop) (x : Attempt α) (y : Attempt β) :
    Prop where
  actions : List.Forall₂ (Action.Alike R) x.actions y.actions
  outcome : Ends R V x.outcome y.outcome

theorem alike_pure {a : α} {b : β} (h : V a b) : Alike R V (pure a) (pure b) :=
  ⟨.nil, .ok h⟩

/-- **Work after work** goes alike if each of the two does. -/
theorem Alike.bind {x : Attempt α} {y : Attempt β} {f : α → Attempt γ} {g : β → Attempt δ}
    (h : Alike R V x y) (hnext : ∀ a b, V a b → Alike R W (f a) (g b)) :
    Alike R W (x >>= f) (y >>= g) := by
  obtain ⟨actions, outcome⟩ := x
  obtain ⟨actions', outcome'⟩ := y
  obtain ⟨hactions, houtcome⟩ := h
  cases houtcome with
  | ok hvalue =>
      have hrest := hnext _ _ hvalue
      exact ⟨List.rel_append hactions hrest.actions, hrest.outcome⟩
  | halted hhalt => exact ⟨hactions, .halted hhalt⟩

theorem alike_report {m m' : Milestone} (h : Milestone.Alike R m m') :
    Alike R Eq (report m) (report m') :=
  ⟨.cons (.reported h) .nil, .ok rfl⟩

end Attempt

/-- Two loaders answer alike for the paths that they are asked for, which stand for each other. -/
structure Loader.Alike (R Asked : Path → Path → Prop) (loader loader' : Loader) : Prop where
  asked : ∀ p q, Asked p q → R p q
  fileExists : ∀ p q, Asked p q → loader.fileExists p = loader'.fileExists q
  load : ∀ p q, Asked p q → Attempt.Ends R Eq (loader.load p) (loader'.load q)

/-- The runtimes under two system roots are asked for in the same step. -/
def Setup.RootsAsked (Asked : Path → Path → Prop) (root root' : Path) : Prop :=
  Asked (universalFile root) (universalFile root') ∧ Asked (legacyFile root) (legacyFile root')

/-- Two configurations name files that are asked for in the same step. -/
structure Config.Alike (Asked : Path → Path → Prop) (platform : Platform) (c c' : Config) :
    Prop where
  helperFile? : Option.Rel Asked (c.helperFile? platform) (c'.helperFile? platform)
  /-- Only on Windows is the system root looked at. -/
  systemRoot : platform = .windows →
    Option.Rel (Setup.RootsAsked Asked) c.systemRoot c'.systemRoot

namespace Attempt

variable {Asked : Path → Path → Prop} {loader loader' : Loader} {config config' : Config}
  {platform : Platform} {p q : Path}

theorem alike_check (hloader : loader.Alike R Asked loader') (h : Asked p q) :
    Alike R Eq (check loader p) (check loader' q) := by
  unfold check
  rw [hloader.fileExists p q h]
  refine ⟨.cons (.checked (hloader.asked p q h)) .nil, ?_⟩
  cases loader'.fileExists q with
  | ok present => exact .ok rfl
  | error crash => exact .halted (.crashed crash)

theorem alike_load (hloader : loader.Alike R Asked loader') (h : Asked p q) :
    Alike R (OpenLibrary.Alike R) (load loader p) (load loader' q) := by
  have hpath := hloader.asked p q h
  have hload := hloader.load p q h
  unfold load
  generalize loader.load p = answer at hload ⊢
  generalize loader'.load q = answer' at hload ⊢
  cases hload with
  | ok hlibrary => exact ⟨.cons (.loaded hpath) .nil, .ok ⟨hlibrary, hpath⟩⟩
  | halted hhalt => exact ⟨.cons (.loaded hpath) .nil, .halted hhalt⟩

theorem alike_requireHelperPath (hconfig : config.Alike Asked platform config') :
    Alike R Asked (require (config.helperPath platform))
      (require (config'.helperPath platform)) := by
  rw [Config.helperPath_eq, Config.helperPath_eq]
  have hpath := hconfig.helperFile?
  generalize config.helperFile? platform = file? at hpath ⊢
  generalize config'.helperFile? platform = file?' at hpath ⊢
  cases hpath with
  | none => exact ⟨.nil, .halted (.failed .libraryDirUnknown)⟩
  | some h => exact ⟨.nil, .ok h⟩

theorem alike_requireSystemRoot (hconfig : config.Alike Asked .windows config') :
    Alike R (Setup.RootsAsked Asked) (require config.requireSystemRoot)
      (require config'.requireSystemRoot) := by
  unfold Config.requireSystemRoot
  have hroot := hconfig.systemRoot rfl
  generalize config.systemRoot = root? at hroot ⊢
  generalize config'.systemRoot = root?' at hroot ⊢
  cases hroot with
  | none => exact ⟨.nil, .halted (.failed .systemRootUnset)⟩
  | some h => exact ⟨.nil, .ok h⟩

end Attempt

/-- The array of a library is read alike wherever the library was loaded from. -/
theorem FallbackLookup.alike_ofHelper {helper helper' : OpenLibrary}
    (h : OpenLibrary.Alike R helper helper') (table : FallbackTable) :
    Attempt.Alike R (FallbackLookup.Alike R) (Attempt.require (ofHelper helper table))
      (Attempt.require (ofHelper helper' table)) := by
  obtain ⟨library, path⟩ := helper
  obtain ⟨library', path'⟩ := helper'
  obtain ⟨hlibrary, hpath⟩ := h
  obtain rfl : library = library' := hlibrary
  unfold ofHelper
  dsimp only
  cases library.export? arrayKey with
  | none => exact ⟨.nil, .halted (.failed (.missingExport _ hpath))⟩
  | some base =>
      -- the words that are read are those of the library
      dsimp only
      cases Id.run (table.readArray fun i => pure (library.element base i)) with
      | ok symbols => exact ⟨.nil, .ok ⟨rfl, rfl, rfl, hpath⟩⟩
      | error fault =>
          refine ⟨.nil, .halted (.failed ?_)⟩
          cases fault with
          | nullSlot slot => exact .slotNull _ _
          | unterminated expected => exact .unterminated _

namespace Setup

open Attempt (alike_pure alike_report alike_check alike_load alike_requireHelperPath
  alike_requireSystemRoot)

/-! ## Set-ups that go alike -/

variable {Asked : Path → Path → Prop} {loader loader' : Loader} {config config' : Config}
  {platform : Platform}

theorem alike_selectRuntime (hloader : loader.Alike R Asked loader')
    (hconfig : config.Alike Asked platform config') :
    Attempt.Alike R (fun choice choice' => choice.1 = choice'.1 ∧ Asked choice.2 choice'.2)
      (selectRuntime platform config loader) (selectRuntime platform config' loader') := by
  cases platform with
  | posix =>
      refine (alike_requireHelperPath hconfig).bind fun path path' hpath => ?_
      exact alike_pure ⟨rfl, hpath⟩
  | windows =>
      rw [selectRuntime_windows, selectRuntime_windows]
      refine (alike_requireSystemRoot hconfig).bind fun root root' hroot => ?_
      refine (alike_check hloader hroot.1).bind ?_
      rintro present _ rfl
      cases present with
      | true => exact alike_pure ⟨rfl, hroot.1⟩
      | false => exact alike_pure ⟨rfl, hroot.2⟩

theorem alike_openPrimary (hloader : loader.Alike R Asked loader')
    (hconfig : config.Alike Asked platform config') :
    Attempt.Alike R (fun opened opened' => opened.1 = opened'.1 ∧
        OpenLibrary.Alike R opened.2 opened'.2)
      (openPrimary platform config loader) (openPrimary platform config' loader') := by
  refine (alike_selectRuntime hloader hconfig).bind ?_
  rintro ⟨runtime, path⟩ ⟨_, path'⟩ ⟨rfl, hpath⟩
  refine (alike_load hloader hpath).bind fun primary primary' hprimary => ?_
  exact alike_pure ⟨rfl, hprimary⟩

theorem alike_openFallback (hloader : loader.Alike R Asked loader') {path path' : Path}
    (hpath : Asked path path') (table : FallbackTable) :
    Attempt.Alike R (FallbackLookup.Alike R) (openFallback loader path table)
      (openFallback loader' path' table) :=
  (alike_load hloader hpath).bind fun _ _ hhelper => FallbackLookup.alike_ofHelper hhelper table

/-- **A set-up goes alike** with loaders that answer alike, for files that stand for each other. -/
theorem alike_build (hloader : loader.Alike R Asked loader')
    (hconfig : config.Alike Asked platform config') :
    Attempt.Alike R (ReadyLookup.Alike R) (build platform config loader)
      (build platform config' loader') := by
  refine (alike_openPrimary hloader hconfig).bind ?_
  rintro ⟨runtime, primary⟩ ⟨_, primary'⟩ ⟨rfl, hprimary⟩
  refine (alike_report (.primaryLoaded platform runtime hprimary.path)).bind fun _ _ _ => ?_
  dsimp only
  -- the runtime is the same in both, so either both need a helper or neither does
  split
  · refine (alike_requireHelperPath hconfig).bind fun path path' hpath => ?_
    refine (alike_openFallback hloader hpath .universal).bind fun fallback fallback' hfallback => ?_
    have hloaded : Milestone.Alike R
        (.fallbackLoaded platform runtime fallback.helper.path fallback.table.size)
        (.fallbackLoaded platform runtime fallback'.helper.path fallback'.table.size) := by
      rw [hfallback.table]
      exact .fallbackLoaded platform runtime _ hfallback.helper.path
    refine (alike_report hloaded).bind fun _ _ _ => ?_
    exact alike_pure (.withFallback runtime hprimary hfallback)
  · exact alike_pure (.direct runtime hprimary)

end Setup

/-- Lookups that are set up alike come out alike, and all that was done is alike. -/
theorem SystemLookup.alike_establish {Asked : Path → Path → Prop} {loader loader' : Loader}
    {config config' : Config} {platform : Platform} (hloader : loader.Alike R Asked loader')
    (hconfig : config.Alike Asked platform config') :
    LookupState.Alike R (establish platform config loader).1.state
        (establish platform config' loader').1.state ∧
      List.Forall₂ (Action.Alike R) (establish platform config loader).2
        (establish platform config' loader').2 := by
  have hbuild := Setup.alike_build hloader hconfig
  unfold establish
  dsimp only
  generalize Setup.build platform config loader = attempt at hbuild ⊢
  generalize Setup.build platform config' loader' = attempt' at hbuild ⊢
  obtain ⟨actions, outcome⟩ := attempt
  obtain ⟨actions', outcome'⟩ := attempt'
  obtain ⟨hactions, houtcome⟩ := hbuild
  have hstarted : Action.Alike R (.reported (.started platform)) (.reported (.started platform)) :=
    .reported (.started platform)
  cases houtcome with
  | halted hhalt =>
      refine ⟨.degraded hhalt.cause, .cons hstarted (List.rel_append hactions ?_)⟩
      exact .cons (.reported (.degraded platform hhalt.cause)) .nil
  | ok hready =>
      refine ⟨.ready hready, .cons hstarted (List.rel_append hactions (.cons (.reported ?_) .nil))⟩
      cases hready with
      | direct runtime hprimary => exact .ready platform runtime hprimary.path
      | withFallback runtime hprimary _ => exact .ready platform runtime hprimary.path

end Linkage
