import Linkage.Proofs.Digits
import Linkage.Proofs.Resolution
import Linkage.Proofs.Standing
import Linkage.Report
import Linkage.Scripted.Fixture
import Mathlib.Data.List.Forall2

/-!
# A probe says what the lookup says

A probe asks a lookup for some names and puts the answers into entries of texts. An
entry loses nothing of its answer: whether a symbol was found, its address, where
it came from, and why a name could not be asked for are all read off the entry
again. The address is spelled in the one way that hexadecimal digits in lower case
spell it without a zero in front. The origin tells the ordinal of the name in the
table, since the array of every lookup that can be reached was read for that table.

Each entry depends on its own name only, so entries of more names stand behind
those of the others.
-/

namespace Linkage

/-! ## Where symbols come from -/

/-- A text spells the address of a symbol: `0x` and the digits of the address. -/
def Symbol.Spelled (symbol : Symbol) (text : String) : Prop :=
  ∃ digits, text = "0x" ++ String.ofList digits ∧
    Numeral.SpellsHex digits symbol.address.toNat

/-- The text of a symbol is the only one that spells its address. -/
theorem Symbol.spelled_iff {symbol : Symbol} {text : String} :
    symbol.Spelled text ↔ text = symbol.text := by
  have hne : symbol.address.toNat ≠ 0 := by
    intro h0
    exact symbol.ne_zero (UInt64.toNat_inj.mp h0)
  constructor
  · rintro ⟨digits, rfl, hspells⟩
    rw [hspells.eq_hex hne]
    rfl
  · rintro rfl
    exact ⟨_, rfl, (Numeral.spellsHex_iff hne).mpr rfl⟩

/-- What a library gives comes from the library. -/
theorem OpenLibrary.origin_of_resolve {library : OpenLibrary} {name : SymbolName}
    {resolution : Resolution} (h : library.resolve name = some resolution) :
    resolution.origin = .library := by
  obtain ⟨symbol, -, rfl⟩ := Option.map_eq_some_iff.mp h
  rfl

/-- What an array gives comes from the ordinal of the name in its table. -/
theorem FallbackLookup.ordinal_of_resolve {lookup : FallbackLookup} {name : SymbolName}
    {symbol : Symbol} {i : Nat} (h : lookup.resolve name = some ⟨symbol, .fallback i⟩) :
    lookup.table.ordinal? name.text = some i := by
  obtain ⟨ordinal, hordinal, h⟩ := Option.bind_eq_some_iff.mp h
  obtain ⟨symbol', -, h⟩ := Option.bind_eq_some_iff.mp h
  cases h
  exact hordinal

/-- A lookup that gives an ordinal has an array, whose table has the name there. -/
theorem ReadyLookup.ordinal_of_resolve {lookup : ReadyLookup} {name : SymbolName}
    {symbol : Symbol} {i : Nat} (h : lookup.source.resolve name = some ⟨symbol, .fallback i⟩) :
    ∃ fallback, lookup.fallback? = some fallback ∧ fallback.table.ordinal? name.text = some i := by
  cases lookup with
  | direct runtime primary =>
      exact absurd (OpenLibrary.origin_of_resolve h) (by simp)
  | withFallback runtime primary fallback =>
      rcases Option.or_eq_some_iff.mp h with hprimary | ⟨-, hfallback⟩
      · exact absurd (OpenLibrary.origin_of_resolve hprimary) (by simp)
      · exact ⟨fallback, rfl, FallbackLookup.ordinal_of_resolve hfallback⟩

namespace SystemLookup

variable {l : SystemLookup} {name : String}

/-- The lookup has a symbol for a name. -/
def finds (l : SystemLookup) (name : String) : Bool :=
  match l.find name with
  | .ok (some _) => true
  | _ => false

theorem Reachable.ordinal_of_resolve (h : l.Reachable) {symbol : Symbol} {i : Nat}
    (hresolve : l.resolve name = .ok (some ⟨symbol, .fallback i⟩)) :
    FallbackTable.universal.ordinal? name = some i := by
  cases hname : SymbolName.ofString name with
  | error e => exact absurd (hresolve.symm.trans (resolve_eq_error_iff.mpr hname)) (by simp)
  | ok n =>
      obtain rfl := SymbolName.text_of_ofString hname
      rw [resolve_text] at hresolve
      have hsource := Except.ok.inj hresolve
      cases hstate : l.state with
      | degraded cause =>
          rw [hstate] at hsource
          exact absurd hsource (by simp [LookupState.source, Source.resolve])
      | ready ready =>
          rw [hstate] at hsource
          obtain ⟨fallback, hfallback, hordinal⟩ := ReadyLookup.ordinal_of_resolve hsource
          rwa [h.table_eq hstate hfallback] at hordinal

/-- A text tells where the symbol of a name came from. -/
inductive OriginText (l : SystemLookup) (name : String) : String → Prop where
  | library {symbol : Symbol} :
      l.resolve name = .ok (some ⟨symbol, .library⟩) → OriginText l name "library"
  /-- The ordinal is that of the name in the table. -/
  | fallback {symbol : Symbol} {i : Nat} :
      l.resolve name = .ok (some ⟨symbol, .fallback i⟩) →
      FallbackTable.universal.ordinal? name = some i →
      OriginText l name ("fallback[" ++ toString i ++ "]")

/-- The wording of an origin is the text that tells it. -/
theorem Reachable.originText_iff (h : l.Reachable) {resolution : Resolution}
    (hresolve : l.resolve name = .ok (some resolution)) (text : String) :
    l.OriginText name text ↔ text = resolution.origin.text := by
  constructor
  · intro htext
    cases htext with
    | library hlibrary =>
        obtain rfl := Option.some.inj (Except.ok.inj (hlibrary.symm.trans hresolve))
        rfl
    | fallback hfallback _ =>
        obtain rfl := Option.some.inj (Except.ok.inj (hfallback.symm.trans hresolve))
        rfl
  · rintro rfl
    obtain ⟨symbol, library | ⟨i⟩⟩ := resolution
    · exact .library hresolve
    · exact .fallback hresolve (h.ordinal_of_resolve hresolve)

/-- Where no symbol comes from anywhere, no text tells where. -/
theorem not_originText (h : ∀ resolution, l.resolve name ≠ .ok (some resolution)) :
    ∀ text, ¬ l.OriginText name text := by
  intro text htext
  cases htext with
  | library hlibrary => exact h _ hlibrary
  | fallback hfallback _ => exact h _ hfallback

end SystemLookup

/-! ## Entries -/

namespace ProbeEntry

/-- An entry says of a name what the lookup says of it. -/
structure Agrees (l : SystemLookup) (name : String) (e : ProbeEntry) : Prop where
  named : e.name = name
  found : e.found = true ↔ ∃ symbol, l.find name = .ok (some symbol)
  address : ∀ text, e.address = some text ↔
    ∃ symbol, l.find name = .ok (some symbol) ∧ symbol.Spelled text
  address_iff : e.address.isSome = true ↔ e.found = true
  origin : ∀ text, e.origin = some text ↔ l.OriginText name text
  origin_iff : e.origin.isSome = true ↔ e.found = true
  error : ∀ text, e.error = some text ↔
    ∃ fault, l.find name = .error fault ∧ text = fault.message
  /-- A name that is an error is not found. -/
  not_both : e.error.isSome = true → e.found = false

theorem agrees_ofResult {l : SystemLookup} (h : l.Reachable) (name : String) :
    Agrees l name (.ofResult name (l.resolve name)) := by
  have hfind := l.find_eq name
  -- one case for each of the three ways in which an entry is filled
  cases hresolve : l.resolve name with
  | error fault =>
      rw [hresolve] at hfind
      have hnone : ∀ text, ¬ l.OriginText name text :=
        SystemLookup.not_originText (by simp [hresolve])
      constructor <;> simp [ofResult, hfind, Except.map, hnone, eq_comm]
  | ok answer =>
      rw [hresolve] at hfind
      cases answer with
      | none =>
          have hnone : ∀ text, ¬ l.OriginText name text :=
            SystemLookup.not_originText (by simp [hresolve])
          constructor <;> simp [ofResult, hfind, Except.map, hnone]
      | some resolution =>
          have horigin := h.originText_iff hresolve
          constructor <;>
            simp [ofResult, hfind, Except.map, horigin, Symbol.spelled_iff, eq_comm]

/-- An entry is found if the lookup has a symbol for its name. -/
theorem found_ofResult (l : SystemLookup) (name : String) :
    (ofResult name (l.resolve name)).found = l.finds name := by
  rw [SystemLookup.finds, l.find_eq]
  cases l.resolve name with
  | error fault => rfl
  | ok answer => cases answer <;> rfl

end ProbeEntry

theorem ProbeReport.found_ofLookup (l : SystemLookup) (names : List String) :
    (ofLookup l names).found = names.countP l.finds := by
  unfold found ofLookup
  rw [List.countP_map]
  congr 1
  funext name
  exact ProbeEntry.found_ofResult l name

theorem ProbeReport.forall_agrees {l : SystemLookup} (h : l.Reachable) (names : List String) :
    List.Forall₂ (ProbeEntry.Agrees l) names (ofLookup l names).results :=
  List.forall₂_map_right_iff.mpr
    (List.forall₂_same.mpr fun name _ => ProbeEntry.agrees_ofResult h name)

/--
**A probe agrees with the lookup.**

It has one entry for each name, in order, and says in it what the lookup says of the name. It
counts the names that are found, and probing more names adds their entries behind the others.
-/
theorem ProbeReport.ofLookup_agrees {l : SystemLookup} (h : l.Reachable)
    (names more : List String) :
    (ofLookup l names).source = .system ∧
    List.Forall₂ (ProbeEntry.Agrees l) names (ofLookup l names).results ∧
    (ofLookup l names).found = names.countP l.finds ∧
    (ofLookup l (names ++ more)).results =
      (ofLookup l names).results ++ (ofLookup l more).results :=
  ⟨rfl, forall_agrees h names, found_ofLookup l names, List.map_append⟩

open Scripted in
/-- In the fixture the helper serves `fprintf`, the runtime `strlen`, and nobody an empty name. -/
theorem ProbeReport.ofLookup_agrees_fixture :
    let l := (({} : Session).establish .windows Fixture.config fun _ =>
      Fixture.loader.toLoader).1
    l.Reachable ∧
      List.Forall₂ (ProbeEntry.Agrees l) ["fprintf", "strlen", ""]
        (ofLookup l ["fprintf", "strlen", ""]).results ∧
      (ofLookup l ["fprintf", "strlen", ""]).found = 2 := by
  intro l
  have hreachable : l.Reachable := .established ..
  obtain ⟨-, hentries, hfound, -⟩ := ofLookup_agrees hreachable ["fprintf", "strlen", ""] []
  refine ⟨hreachable, hentries, hfound.trans ?_⟩
  rfl

end Linkage
