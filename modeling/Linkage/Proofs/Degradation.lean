import Linkage.Proofs.PointerArray
import Linkage.Proofs.Session
import Linkage.Proofs.Setup

/-!
# Which fault a degraded lookup remembers

Several things can be wrong at once: no directory, a load that fails, an array
with a null slot and a bad end. A degraded lookup remembers one cause, and this
file says which.

The set-up is written down a second time as a *list of steps*, each with the
fault it has or with none. A step is listed when the steps before it give it
something to look at, whether they passed or not. A lookup is degraded exactly
when a step has a fault, and its cause is the fault of the first such step.
Nothing else can come of a set-up: a call that breaks off is a fault as well.
-/

namespace Linkage

/-- The fault of a call that broke off: its message, or fixed words where it left none. -/
def Crash.fault (crash : Crash) : InitError :=
  match crash.text? with
  | some text => .panicked text
  | none => .panicked "non-string panic payload"

theorem Halt.cause_crashed (crash : Crash) : (Halt.crashed crash).cause = crash.fault := by
  obtain ⟨text?⟩ := crash
  cases text? <;> rfl

namespace Setup

/-! ## The steps -/

/-- The fault of a load, if it has one. -/
def loadFault? (loader : Loader) (path : Path) : Option InitError :=
  match loader.load path with
  | .ok _ => none
  | .error (.failed cause) => some cause
  | .error (.crashed crash) => some crash.fault

/-- The faults of a pointer array for some names: slot by slot, and behind the last one. -/
def arrayFaults (names : List String) (word : Nat → Word) : List (Option InitError) :=
  names.zipIdx.map (fun (name, i) => if word i = 0 then some (.slotNull i name) else none) ++
    [if word names.length = 0 then none else some (.unterminated names.length)]

/-- The faults of the helper library behind the universal runtime. -/
def helperFaults (config : Config) (loader : Loader) : List (Option InitError) :=
  match config.helperFile? .windows with
  | none => [some .libraryDirUnknown]
  | some path =>
    match loader.load path with
    | .error _ => [loadFault? loader path]
    | .ok helper =>
      match helper.export? FallbackLookup.arrayKey with
      | none => [some (.missingExport path FallbackTable.arrayName)]
      | some base => arrayFaults FallbackTable.universalNames (helper.element base)

/-- The steps of a set-up in their order, each with its fault if it has one. -/
def faults (platform : Platform) (config : Config) (loader : Loader) : List (Option InitError) :=
  match platform with
  | .posix =>
    match config.helperFile? .posix with
    | none => [some .libraryDirUnknown]
    | some path => [loadFault? loader path]
  | .windows =>
    match config.systemRoot with
    | none => [some .systemRootUnset]
    | some root =>
      match loader.fileExists (universalFile root) with
      | .error crash => [some crash.fault]
      | .ok false => [loadFault? loader (legacyFile root)]
      | .ok true => loadFault? loader (universalFile root) :: helperFaults config loader

/-- A cause is the fault of the first step that has one. -/
def FirstFault (steps : List (Option InitError)) (cause : InitError) : Prop :=
  ∃ passed rest, steps = passed ++ some cause :: rest ∧ ∀ step ∈ passed, step = none

theorem firstFault_iff {steps : List (Option InitError)} {cause : InitError} :
    FirstFault steps cause ↔ steps.findSome? id = some cause := by
  rw [List.findSome?_eq_some_iff]
  constructor
  · rintro ⟨passed, rest, hsplit, hpassed⟩
    exact ⟨passed, some cause, rest, hsplit, rfl, hpassed⟩
  · rintro ⟨passed, step, rest, hsplit, rfl, hpassed⟩
    exact ⟨passed, rest, hsplit, hpassed⟩

/-- Where a step has a fault, there is a first one. -/
theorem exists_firstFault_iff {steps : List (Option InitError)} :
    (∃ cause, FirstFault steps cause) ↔ ∃ cause, some cause ∈ steps := by
  simp only [firstFault_iff, ← Option.isSome_iff_exists, List.isSome_findSome?,
    List.any_eq_true]
  constructor
  · rintro ⟨step, hmem, hstep⟩
    obtain ⟨cause, rfl⟩ := Option.isSome_iff_exists.mp hstep
    exact ⟨cause, hmem⟩
  · rintro ⟨cause, hmem⟩
    exact ⟨some cause, hmem, rfl⟩

/-! ## Loads and arrays -/

theorem loadFault?_of_ok {loader : Loader} {path : Path} {library : Library}
    (h : loader.load path = .ok library) : loadFault? loader path = none := by
  unfold loadFault?
  rw [h]

theorem loadFault?_of_error {loader : Loader} {path : Path} {halt : Halt}
    (h : loader.load path = .error halt) : loadFault? loader path = some halt.cause := by
  unfold loadFault?
  rw [h]
  cases halt with
  | failed cause => rfl
  | crashed crash => exact congrArg some (Halt.cause_crashed crash).symm

/-- The faults of an array, by the slots of a table of the same names. -/
theorem arrayFaults_eq (table : FallbackTable) (word : Nat → Word) :
    arrayFaults table.names word =
      table.slots.map
          (fun s => if word s.ordinal = 0 then some (.slotNull s.ordinal s.name) else none) ++
        [if word table.size = 0 then none else some (.unterminated table.size)] := by
  rw [arrayFaults, FallbackTable.slots, List.map_map]
  rfl

/-- Slots that are not null have no fault. -/
theorem findSome?_slots_of_ne_zero {word : Nat → Word} {slots : List FallbackSlot}
    (h : ∀ s ∈ slots, word s.ordinal ≠ 0) :
    (slots.map fun s =>
      if word s.ordinal = 0 then some (InitError.slotNull s.ordinal s.name) else none).findSome? id
      = none := by
  rw [List.findSome?_eq_none_iff]
  intro step hstep
  obtain ⟨s, hs, rfl⟩ := List.mem_map.mp hstep
  exact if_neg (h s hs)

/-- The first fault of an array is the one that the reader reports. -/
theorem arrayFaults_of_reading (helper : OpenLibrary) (table : FallbackTable) {base : Symbol}
    (hbase : helper.library.export? FallbackLookup.arrayKey = some base) :
    (arrayFaults table.names (helper.library.element base)).findSome? id =
      match FallbackLookup.ofHelper helper table with
      | .ok _ => none
      | .error cause => some cause := by
  have hr := FallbackLookup.reading helper table
  generalize FallbackLookup.ofHelper helper table = outcome at hr ⊢
  rw [arrayFaults_eq, List.findSome?_append]
  cases hr with
  | noArray hnone => exact absurd (hbase.symm.trans hnone) (by simp)
  | nullSlot hbase' hnull =>
      obtain rfl := Option.some.inj (hbase.symm.trans hbase')
      obtain ⟨before, after, hsplit, hbefore, h0⟩ := hnull
      -- the slots before the null one pass, and so the null one is the first fault
      rw [hsplit, List.map_append, List.findSome?_append, findSome?_slots_of_ne_zero hbefore]
      simp [h0]
  | unterminated hbase' hslots hne =>
      obtain rfl := Option.some.inj (hbase.symm.trans hbase')
      rw [findSome?_slots_of_ne_zero hslots]
      simp [hne]
  | accepted hbase' hfill h0 =>
      obtain rfl := Option.some.inj (hbase.symm.trans hbase')
      rw [findSome?_slots_of_ne_zero hfill.ne_zero]
      simp [h0]

/-- The first fault behind a helper library that was loaded is the one of its array. -/
theorem helperFaults_of_load {config : Config} {loader : Loader} {path : Path} {helper : Library}
    (hpath : config.helperFile? .windows = some path) (hload : loader.load path = .ok helper) :
    (helperFaults config loader).findSome? id =
      match FallbackLookup.ofHelper ⟨helper, path⟩ .universal with
      | .ok _ => none
      | .error cause => some cause := by
  unfold helperFaults
  simp only [hpath, hload]
  cases hbase : helper.export? FallbackLookup.arrayKey with
  | none =>
      unfold FallbackLookup.ofHelper
      simp [hbase]
  | some base =>
      exact arrayFaults_of_reading ⟨helper, path⟩ .universal hbase

/-! ## The courses of a set-up have the faults that are listed -/

/-- The cause that an outcome leaves behind, if it is none of success. -/
def cause? {α : Type} : Except Halt α → Option InitError
  | .ok _ => none
  | .error halt => some halt.cause

theorem Opening.faults_of_error {config : Config} {loader : Loader} {platform : Platform}
    {actions : List Action} {halt : Halt}
    (h : Opening config loader platform actions (.error halt)) :
    (faults platform config loader).findSome? id = some halt.cause := by
  unfold faults
  cases h with
  | helperUnknown hpath => simp [hpath, Halt.cause]
  | sideRefused hpath hload => simp [hpath, loadFault?_of_error hload]
  | rootUnset hroot => simp [hroot, Halt.cause]
  | checkBroken hroot hcheck => simp [hroot, hcheck, Halt.cause_crashed]
  | legacyRefused hroot hcheck hload => simp [hroot, hcheck, loadFault?_of_error hload]
  | universalRefused hroot hcheck hload => simp [hroot, hcheck, loadFault?_of_error hload]

theorem Opening.faults_of_direct {config : Config} {loader : Loader} {platform : Platform}
    {actions : List Action} {runtime : RuntimeLibrary} {primary : OpenLibrary}
    (h : Opening config loader platform actions (.ok (runtime, primary)))
    (hruntime : runtime ≠ .universal) :
    (faults platform config loader).findSome? id = none := by
  unfold faults
  cases h with
  | side hpath hload => simp [hpath, loadFault?_of_ok hload]
  | legacy hroot hcheck hload => simp [hroot, hcheck, loadFault?_of_ok hload]
  | universal hroot hcheck hload => exact absurd rfl hruntime

theorem Opening.faults_of_universal {config : Config} {loader : Loader} {actions : List Action}
    {primary : OpenLibrary}
    (h : Opening config loader .windows actions (.ok (.universal, primary))) :
    (faults .windows config loader).findSome? id = (helperFaults config loader).findSome? id := by
  unfold faults
  cases h with
  | universal hroot hcheck hload => simp [hroot, hcheck, loadFault?_of_ok hload]

/-- **A set-up stops at its first fault, and only there.** -/
theorem cause?_build (platform : Platform) (config : Config) (loader : Loader) :
    cause? (build platform config loader).outcome =
      (faults platform config loader).findSome? id := by
  have hcourse := course platform config loader
  generalize build platform config loader = attempt at hcourse ⊢
  obtain ⟨actions, outcome⟩ := attempt
  dsimp only at hcourse ⊢
  cases hcourse with
  | unopened hopen => exact hopen.faults_of_error.symm
  | direct hopen hruntime => exact (hopen.faults_of_direct hruntime).symm
  | helperUnknown hopen hpath =>
      rw [hopen.faults_of_universal, helperFaults, hpath]
      rfl
  | helperRefused hopen hpath hload =>
      rw [hopen.faults_of_universal, helperFaults, hpath]
      simp [hload, loadFault?_of_error hload, cause?]
  | arrayRefused hopen hpath hload hread =>
      rw [hopen.faults_of_universal, helperFaults_of_load hpath hload, hread]
      rfl
  | withFallback hopen hpath hload hread =>
      rw [hopen.faults_of_universal, helperFaults_of_load hpath hload, hread]
      rfl

end Setup

/-! ## The lookup that comes of it -/

theorem SystemLookup.establish_degraded_iff {platform : Platform} {config : Config}
    {loader : Loader} {cause : InitError} :
    (establish platform config loader).1.state = .degraded cause ↔
      Setup.cause? (Setup.build platform config loader).outcome = some cause := by
  show (conclude platform (Setup.build platform config loader).outcome).1 = _ ↔ _
  cases (Setup.build platform config loader).outcome with
  | ok lookup => simp [conclude, Setup.cause?]
  | error halt => simp [conclude, Setup.cause?]

/-- A lookup is degraded when its state is, whatever the cause. -/
theorem SystemLookup.isDegraded_iff {l : SystemLookup} :
    l.isDegraded = true ↔ ∃ cause, l.state = .degraded cause := by
  unfold isDegraded
  cases l.state with
  | ready lookup => simp
  | degraded cause => simp

/--
**A lookup is degraded by the first fault of its set-up, and by nothing else.**

Whatever the loader does, refuse or break off at any call, a lookup comes of it.
It is degraded exactly when a step has a fault, and remembers the fault of the
first step that has one.
-/
theorem Session.establish_degraded_iff_firstFault (s : Session) (platform : Platform)
    (config : Config) (loaderOf : FileSystem → Loader) :
    let lookup := (s.establish platform config loaderOf).1
    let steps := Setup.faults platform config (loaderOf (s.filesSeen platform config))
    (∀ cause, lookup.state = .degraded cause ↔ Setup.FirstFault steps cause) ∧
      (lookup.isDegraded = true ↔ ∃ cause, some cause ∈ steps) ∧
      lookup.platform = platform ∧ FallbackTable.universalNames.length = 52 := by
  intro lookup steps
  have hstate : ∀ cause, lookup.state = .degraded cause ↔ Setup.FirstFault steps cause := by
    intro cause
    rw [Setup.firstFault_iff, ← Setup.cause?_build]
    exact SystemLookup.establish_degraded_iff
  refine ⟨hstate, ?_, rfl, by decide⟩
  rw [SystemLookup.isDegraded_iff, ← Setup.exists_firstFault_iff]
  exact exists_congr hstate

end Linkage
