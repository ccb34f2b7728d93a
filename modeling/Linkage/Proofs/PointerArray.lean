import Linkage.FallbackLookup
import Linkage.Proofs.FallbackTable

/-!
# What the reader makes of a pointer array

The reader goes through the slots of a table in order and looks behind the last
one. This file says once what can come of that, as an inductive predicate with
one case for each outcome, and every later fact about a helper library is read
off those cases:

* an array is accepted exactly when no slot is null and the word behind the last
  slot is;
* a refusal names the first null slot, and speaks of the terminator only when
  there is no null slot;
* an accepted array answers a name of the table with the word at its ordinal, and
  no other name.

Said of the words alone, an array *ends* at its first null word, in one place at
most. So one and the same array is never accepted for two tables of different
sizes.
-/

namespace Linkage

namespace Symbol

/-- A symbol is found again at its own address. -/
@[simp] theorem ofWord?_address (s : Symbol) : ofWord? s.address = some s := by
  unfold ofWord?
  rw [dif_neg s.ne_zero]

theorem ofWord?_eq_none_iff {w : Word} : ofWord? w = none ↔ w = 0 := by
  unfold ofWord?
  split <;> simp_all

end Symbol

namespace FallbackTable

variable {t : FallbackTable}

/-! ## Reading the slots -/

/-- The symbols at some slots are the words there, if none of those is null. -/
def Fills (word : Nat → Word) (slots : List FallbackSlot) (symbols : List Symbol) : Prop :=
  symbols.map some = slots.map fun s => Symbol.ofWord? (word s.ordinal)

/-- A slot is the first null one among some slots. -/
def FirstNull (word : Nat → Word) (slots : List FallbackSlot) (slot : FallbackSlot) : Prop :=
  ∃ before after, slots = before ++ slot :: after ∧ (∀ s ∈ before, word s.ordinal ≠ 0) ∧
    word slot.ordinal = 0

/-- One slot, then the others. -/
theorem readSlots_cons (word : Nat → Word) (slot : FallbackSlot) (rest : List FallbackSlot) :
    Id.run (readSlots (fun i => pure (word i)) (slot :: rest)) =
      match Symbol.ofWord? (word slot.ordinal) with
      | none => .error (.nullSlot slot)
      | some symbol => (Id.run (readSlots (fun i => pure (word i)) rest)).map (symbol :: ·) := by
  cases h : Symbol.ofWord? (word slot.ordinal) with
  | none => simp [readSlots, h]
  | some symbol => simp [readSlots, h]

theorem readSlots_cases (word : Nat → Word) (slots : List FallbackSlot) :
    (∃ symbols, Id.run (readSlots (fun i => pure (word i)) slots) = .ok symbols ∧
        Fills word slots symbols) ∨
      ∃ slot, Id.run (readSlots (fun i => pure (word i)) slots) = .error (.nullSlot slot) ∧
        FirstNull word slots slot := by
  induction slots with
  | nil => exact Or.inl ⟨[], rfl, rfl⟩
  | cons slot rest ih =>
      rw [readSlots_cons]
      cases hw : Symbol.ofWord? (word slot.ordinal) with
      | none =>
          -- the reader stops here, and there was no slot before this one
          exact Or.inr ⟨slot, rfl, [], rest, rfl, by simp, Symbol.ofWord?_eq_none_iff.mp hw⟩
      | some symbol =>
          have hne : word slot.ordinal ≠ 0 := by
            intro h0
            rw [Symbol.ofWord?_eq_none_iff.mpr h0] at hw
            exact absurd hw (by simp)
          rcases ih with ⟨symbols, hrun, hfill⟩ | ⟨null, hrun, before, after, hsplit, hbefore, h0⟩
          · refine Or.inl ⟨symbol :: symbols, by rw [hrun]; rfl, ?_⟩
            unfold Fills at hfill ⊢
            rw [List.map_cons, List.map_cons, hfill, hw]
          · refine Or.inr ⟨null, by rw [hrun]; rfl, slot :: before, after, ?_, ?_, h0⟩
            · rw [hsplit, List.cons_append]
            · intro s hs
              rcases List.mem_cons.mp hs with rfl | hs
              · exact hne
              · exact hbefore s hs

/-- All slots, then the terminator. -/
theorem readArray_eq (word : Nat → Word) :
    Id.run (t.readArray fun i => pure (word i)) =
      match Id.run (readSlots (fun i => pure (word i)) t.slots) with
      | .error fault => .error fault
      | .ok symbols => if word t.size = 0 then .ok symbols else .error (.unterminated t.size) := by
  unfold readArray
  rw [Id.run_bind]
  cases Id.run (readSlots (fun i => pure (word i)) t.slots) with
  | error fault => rfl
  | ok symbols =>
      dsimp only
      rw [Id.run_bind, Id.run_pure]
      split <;> rfl

/-- Symbols that fill some slots leave none of them null. -/
theorem Fills.ne_zero {word : Nat → Word} {slots : List FallbackSlot} {symbols : List Symbol}
    (h : Fills word slots symbols) : ∀ s ∈ slots, word s.ordinal ≠ 0 := by
  intro s hs h0
  have hmem : Symbol.ofWord? (word s.ordinal) ∈ symbols.map some := by
    rw [h]
    exact List.mem_map_of_mem hs
  rw [Symbol.ofWord?_eq_none_iff.mpr h0] at hmem
  exact absurd hmem (by simp)

/-- What stands at the ordinal of a name is the word there. -/
theorem Fills.getElem? {word : Nat → Word} {symbols : List Symbol} {i : Nat}
    (h : Fills word t.slots symbols) (hi : i < t.size) :
    symbols[i]? = Symbol.ofWord? (word i) := by
  have hsome : symbols[i]?.map some = some (Symbol.ofWord? (word i)) := by
    rw [← List.getElem?_map, h, List.getElem?_map, slots_getElem?, List.getElem?_eq_getElem hi]
    rfl
  obtain ⟨symbol, hsymbol, hword⟩ := Option.map_eq_some_iff.mp hsome
  rw [hsymbol, hword]

/-! ## The words at the ordinals -/

/-- The slots of a table stand at the ordinals below its size. -/
theorem forall_slots_iff {p : Nat → Prop} :
    (∀ s ∈ t.slots, p s.ordinal) ↔ ∀ i < t.size, p i := by
  constructor
  · intro h i hi
    have hslot : t.slots[i]? = some ⟨t.names[i], i⟩ := by
      rw [slots_getElem?, List.getElem?_eq_getElem hi]
      rfl
    exact h _ (List.mem_of_getElem? hslot)
  · intro h s hs
    obtain ⟨i, hi⟩ := List.getElem?_of_mem hs
    rw [slots_getElem?] at hi
    obtain ⟨name, hname, rfl⟩ := Option.map_eq_some_iff.mp hi
    exact h i (List.getElem?_eq_some_iff.mp hname).1

/-- The first null word of an array stands behind so many pointers. -/
structure EndsAfter (word : Nat → Word) (n : Nat) : Prop where
  filled : ∀ i < n, word i ≠ 0
  ended : word n = 0

/-- An array ends in one place only. -/
theorem EndsAfter.unique {word : Nat → Word} {m n : Nat} (hm : EndsAfter word m)
    (hn : EndsAfter word n) : m = n := by
  rcases Nat.lt_trichotomy m n with hlt | heq | hlt
  · exact absurd hm.ended (hn.filled m hlt)
  · exact heq
  · exact absurd hn.ended (hm.filled n hlt)

/-- The first null slot is where the array ends, and has the name that stands there. -/
theorem FirstNull.endsAfter {word : Nat → Word} {slot : FallbackSlot}
    (h : FirstNull word t.slots slot) :
    t.names[slot.ordinal]? = some slot.name ∧ EndsAfter word slot.ordinal := by
  obtain ⟨before, after, hsplit, hbefore, h0⟩ := h
  have hat : t.names[before.length]?.map (FallbackSlot.mk · before.length) = some slot := by
    rw [← slots_getElem?, hsplit]
    simp
  obtain ⟨name, hname, rfl⟩ := Option.map_eq_some_iff.mp hat
  refine ⟨hname, fun j hj => ?_, h0⟩
  -- the slot at a smaller ordinal is one of those in front
  have hfront : t.names[j]?.map (FallbackSlot.mk · j) = some before[j] := by
    rw [← slots_getElem?, hsplit, List.getElem?_append_left hj, List.getElem?_eq_getElem hj]
  obtain ⟨n, -, hslot⟩ := Option.map_eq_some_iff.mp hfront
  have hne := hbefore before[j] (List.getElem_mem hj)
  rwa [← hslot] at hne

end FallbackTable

namespace FallbackLookup

open FallbackTable

/-! ## Opening a helper library -/

/-- What can come of reading the array of a helper library, and when. -/
inductive Reading (helper : OpenLibrary) (table : FallbackTable) :
    Except InitError FallbackLookup → Prop where
  | noArray :
      helper.library.export? arrayKey = none →
      Reading helper table (.error (.missingExport helper.path arrayName))
  | nullSlot {base : Symbol} {slot : FallbackSlot} :
      helper.library.export? arrayKey = some base →
      FirstNull (helper.library.element base) table.slots slot →
      Reading helper table (.error (.slotNull slot.ordinal slot.name))
  | unterminated {base : Symbol} :
      helper.library.export? arrayKey = some base →
      (∀ s ∈ table.slots, helper.library.element base s.ordinal ≠ 0) →
      helper.library.element base table.size ≠ 0 →
      Reading helper table (.error (.unterminated table.size))
  | accepted {base : Symbol} {symbols : List Symbol} :
      helper.library.export? arrayKey = some base →
      Fills (helper.library.element base) table.slots symbols →
      helper.library.element base table.size = 0 →
      Reading helper table (.ok ⟨table, symbols, helper⟩)

theorem reading (helper : OpenLibrary) (table : FallbackTable) :
    Reading helper table (ofHelper helper table) := by
  unfold ofHelper
  split
  · rename_i hbase
    exact .noArray hbase
  · rename_i base hbase
    rw [readArray_eq]
    rcases readSlots_cases (helper.library.element base) table.slots with
      ⟨symbols, hrun, hfill⟩ | ⟨slot, hrun, hnull⟩
    · rw [hrun]
      dsimp only
      by_cases h0 : helper.library.element base table.size = 0
      · rw [if_pos h0]
        exact .accepted hbase hfill h0
      · rw [if_neg h0]
        exact .unterminated hbase hfill.ne_zero h0
    · rw [hrun]
      exact .nullSlot hbase hnull

/-- An array without a null slot, and with a null behind the last one, is accepted. -/
theorem ofHelper_accepts {helper : OpenLibrary} {table : FallbackTable} {base : Symbol}
    (hbase : helper.library.export? arrayKey = some base)
    (hslots : ∀ s ∈ table.slots, helper.library.element base s.ordinal ≠ 0)
    (hend : helper.library.element base table.size = 0) :
    ∃ symbols, ofHelper helper table = .ok ⟨table, symbols, helper⟩ ∧
      Fills (helper.library.element base) table.slots symbols := by
  have hr := reading helper table
  generalize ofHelper helper table = outcome at hr ⊢
  cases hr with
  | noArray hnone => exact absurd (hbase.symm.trans hnone) (by simp)
  | nullSlot hbase' hnull =>
      obtain rfl := Option.some.inj (hbase.symm.trans hbase')
      obtain ⟨before, after, hsplit, -, h0⟩ := hnull
      exact absurd h0 (hslots _ (by rw [hsplit]; simp))
  | unterminated hbase' _ hne =>
      obtain rfl := Option.some.inj (hbase.symm.trans hbase')
      exact absurd hend hne
  | accepted hbase' hfill _ =>
      obtain rfl := Option.some.inj (hbase.symm.trans hbase')
      exact ⟨_, rfl, hfill⟩

/-- What was read keeps the table and the helper that it was read for. -/
theorem eq_of_ofHelper {helper : OpenLibrary} {table : FallbackTable} {lookup : FallbackLookup}
    (h : ofHelper helper table = .ok lookup) : lookup.table = table ∧ lookup.helper = helper := by
  have hr := reading helper table
  rw [h] at hr
  cases hr with
  | accepted _ _ _ => exact ⟨rfl, rfl⟩

/-! ## Asking an accepted array -/

/-- A name is answered with the word at its ordinal, and a name without one not at all. -/
theorem resolve_of_fills {table : FallbackTable} {symbols : List Symbol} {helper : OpenLibrary}
    {word : Nat → Word} (h : Fills word table.slots symbols) (name : SymbolName) :
    resolve ⟨table, symbols, helper⟩ name =
      (table.ordinal? name.text).bind fun i =>
        (Symbol.ofWord? (word i)).map (⟨·, .fallback i⟩) := by
  unfold resolve
  cases hi : table.ordinal? name.text with
  | none => simp
  | some i =>
      have hlt : i < table.size :=
        (List.getElem?_eq_some_iff.mp (ordinal?_eq_some_iff.mp hi)).1
      simp only [h.getElem? hlt, Option.bind_eq_bind, Option.bind_some]
      cases Symbol.ofWord? (word i) <;> rfl

/-! ## The words decide -/

/-- Why the array of a helper library is refused. -/
inductive Refused (helper : OpenLibrary) (table : FallbackTable) : InitError → Prop where
  | noArray :
      helper.library.export? arrayKey = none →
      Refused helper table (.missingExport helper.path "funcs")
  /-- The array ends at a name, whatever stands behind the last one. -/
  | nullSlot {base : Symbol} {i : Nat} {name : String} :
      helper.library.export? arrayKey = some base → table.names[i]? = some name →
      EndsAfter (helper.library.element base) i →
      Refused helper table (.slotNull i name)
  | unterminated {base : Symbol} :
      helper.library.export? arrayKey = some base →
      (∀ i < table.size, helper.library.element base i ≠ 0) →
      helper.library.element base table.size ≠ 0 →
      Refused helper table (.unterminated table.size)

/-- A lookup answers the names of a table, and no others, with the words of an array. -/
structure Serves (lookup : FallbackLookup) (table : FallbackTable) (word : Nat → Word) :
    Prop where
  length : lookup.symbols.length = table.size
  hit : ∀ (name : SymbolName) (i : Nat), table.names[i]? = some name.text →
    ∃ symbol, symbol.address = word i ∧ lookup.resolve name = some ⟨symbol, .fallback i⟩
  miss : ∀ name : SymbolName, name.text ∉ table.names → lookup.resolve name = none

variable {helper : OpenLibrary} {table : FallbackTable} {base : Symbol}

theorem Refused.not_endsAfter {cause : InitError} (h : Refused helper table cause)
    (hbase : helper.library.export? arrayKey = some base) :
    ¬ EndsAfter (helper.library.element base) table.size := by
  intro hend
  cases h with
  | noArray hnone => exact absurd (hbase.symm.trans hnone) (by simp)
  | nullSlot hbase' hname hfirst =>
      obtain rfl := Option.some.inj (hbase.symm.trans hbase')
      exact hend.filled _ (List.getElem?_eq_some_iff.mp hname).1 hfirst.ended
  | unterminated hbase' _ hne =>
      obtain rfl := Option.some.inj (hbase.symm.trans hbase')
      exact hne hend.ended

/-- There is one cause of a refusal at most. -/
theorem Refused.unique {cause cause' : InitError} (h : Refused helper table cause)
    (h' : Refused helper table cause') : cause = cause' := by
  cases h with
  | noArray hnone =>
      cases h' with
      | noArray _ => rfl
      | nullSlot hbase _ _ => exact absurd (hbase.symm.trans hnone) (by simp)
      | unterminated hbase _ _ => exact absurd (hbase.symm.trans hnone) (by simp)
  | nullSlot hbase hname hfirst =>
      cases h' with
      | noArray hnone => exact absurd (hbase.symm.trans hnone) (by simp)
      | nullSlot hbase' hname' hfirst' =>
          obtain rfl := Option.some.inj (hbase.symm.trans hbase')
          obtain rfl := hfirst.unique hfirst'
          rw [Option.some.inj (hname.symm.trans hname')]
      | unterminated hbase' hfilled _ =>
          obtain rfl := Option.some.inj (hbase.symm.trans hbase')
          exact absurd hfirst.ended (hfilled _ (List.getElem?_eq_some_iff.mp hname).1)
  | unterminated hbase hfilled _ =>
      cases h' with
      | noArray hnone => exact absurd (hbase.symm.trans hnone) (by simp)
      | nullSlot hbase' hname hfirst =>
          obtain rfl := Option.some.inj (hbase.symm.trans hbase')
          exact absurd hfirst.ended (hfilled _ (List.getElem?_eq_some_iff.mp hname).1)
      | unterminated _ _ _ => rfl

/-- Symbols that were read serve the words that they were read from. -/
theorem serves_of_fills {word : Nat → Word} {symbols : List Symbol}
    (h : Fills word table.slots symbols) : Serves ⟨table, symbols, helper⟩ table word where
  length := by
    have hlength := congrArg List.length h
    simpa [slots, size] using hlength
  hit := by
    intro name i hi
    have hfilled : ∀ i < table.size, word i ≠ 0 := forall_slots_iff.mp h.ne_zero
    have hne : word i ≠ 0 := hfilled i (List.getElem?_eq_some_iff.mp hi).1
    refine ⟨⟨word i, hne⟩, rfl, ?_⟩
    rw [resolve_of_fills h, ordinal?_eq_some_iff.mpr hi]
    simp [Symbol.ofWord?, hne]
  miss := by
    intro name hname
    have hnone : table.ordinal? name.text = none := by
      rw [Option.eq_none_iff_forall_ne_some]
      intro i hi
      exact hname (List.mem_of_getElem? (ordinal?_eq_some_iff.mp hi))
    rw [resolve_of_fills h, hnone]
    rfl

/-- What can come of reading an array, as its words have it. -/
theorem ofHelper_cases (helper : OpenLibrary) (table : FallbackTable) :
    (∃ cause, ofHelper helper table = .error cause ∧ Refused helper table cause) ∨
      ∃ base lookup, ofHelper helper table = .ok lookup ∧
        helper.library.export? arrayKey = some base ∧
        EndsAfter (helper.library.element base) table.size ∧
        lookup.table = table ∧ lookup.helper = helper ∧
        lookup.Serves table (helper.library.element base) := by
  have hr := reading helper table
  generalize ofHelper helper table = outcome at hr ⊢
  cases hr with
  | noArray hnone => exact .inl ⟨_, rfl, .noArray hnone⟩
  | nullSlot hbase hnull =>
      obtain ⟨hname, hfirst⟩ := hnull.endsAfter
      exact .inl ⟨_, rfl, .nullSlot hbase hname hfirst⟩
  | unterminated hbase hslots hne =>
      exact .inl ⟨_, rfl, .unterminated hbase (forall_slots_iff.mp hslots) hne⟩
  | @accepted base symbols hbase hfill h0 =>
      exact .inr ⟨base, ⟨table, symbols, helper⟩, rfl, hbase,
        ⟨forall_slots_iff.mp hfill.ne_zero, h0⟩, rfl, rfl, serves_of_fills hfill⟩

theorem ofHelper_of_refused {cause : InitError} (h : Refused helper table cause) :
    ofHelper helper table = .error cause := by
  rcases ofHelper_cases helper table with
    ⟨cause', hread, hrefused⟩ | ⟨base, lookup, -, hbase, hend, -⟩
  · rw [hread, hrefused.unique h]
  · exact absurd hend (h.not_endsAfter hbase)

/--
**Reading a helper's array is exact.**

Whatever words the array has, and whatever table it is read for, it is accepted exactly when it
ends after as many pointers as the table has names. Then the lookup answers every name of the
table with the word at its ordinal, and no other name. Else the cause is the first null slot if
there is one, and the terminator if there is none.
-/
theorem ofHelper_exact (helper : OpenLibrary) (table : FallbackTable) :
    ((∃ lookup, ofHelper helper table = .ok lookup) ↔
      ∃ base, helper.library.export? arrayKey = some base ∧
        EndsAfter (helper.library.element base) table.size) ∧
    (∀ lookup, ofHelper helper table = .ok lookup →
      lookup.table = table ∧ lookup.helper = helper ∧
        ∃ base, helper.library.export? arrayKey = some base ∧
          lookup.Serves table (helper.library.element base)) ∧
    (∀ cause, ofHelper helper table = .error cause ↔ Refused helper table cause) ∧
    ∀ base k, helper.library.export? arrayKey = some base →
      EndsAfter (helper.library.element base) k →
      ((∃ lookup, ofHelper helper table = .ok lookup) ↔ k = table.size) := by
  rcases ofHelper_cases helper table with
    ⟨cause, hread, hrefused⟩ | ⟨base, lookup, hread, hbase, hend, htable, hhelper, hserves⟩
  · have hno : ¬ ∃ lookup, ofHelper helper table = .ok lookup := by simp [hread]
    refine ⟨⟨fun h => absurd h hno, ?_⟩, fun lookup h => absurd ⟨lookup, h⟩ hno, ?_, ?_⟩
    · rintro ⟨base, hbase, hend⟩
      exact absurd hend (hrefused.not_endsAfter hbase)
    · intro cause'
      rw [hread]
      exact ⟨fun h => Except.error.inj h ▸ hrefused, fun h => congrArg _ (hrefused.unique h)⟩
    · rintro base k hbase hend
      refine ⟨fun h => absurd h hno, ?_⟩
      rintro rfl
      exact absurd hend (hrefused.not_endsAfter hbase)
  · have hyes : ∃ lookup, ofHelper helper table = .ok lookup := ⟨lookup, hread⟩
    refine ⟨⟨fun _ => ⟨base, hbase, hend⟩, fun _ => hyes⟩, ?_, ?_, ?_⟩
    · intro lookup' h
      obtain rfl := Except.ok.inj (hread.symm.trans h)
      exact ⟨htable, hhelper, base, hbase, hserves⟩
    · intro cause
      rw [hread]
      exact ⟨fun h => absurd h (by simp), fun h => absurd hend (h.not_endsAfter hbase)⟩
    · intro base' k hbase' hend'
      obtain rfl := Option.some.inj (hbase.symm.trans hbase')
      exact ⟨fun _ => hend'.unique hend, fun _ => hyes⟩

/-- A helper library with pointers in two slots. -/
def twoPointers : OpenLibrary where
  library := {
    export? := fun key => if key = arrayKey then some ⟨0x1000, by decide⟩ else none
    memory := fun w => if w = 0x1000 then 5 else if w = 0x1008 then 7 else 0 }
  path := .ofString "helper"

/-- Two pointers are accepted for two names, and refused for three. -/
theorem ofHelper_exact_twoPointers :
    (∃ lookup, ofHelper twoPointers ⟨["alpha", "beta"], by decide⟩ = .ok lookup ∧
      lookup.resolve ⟨"beta", by decide, by decide⟩ = some ⟨⟨7, by decide⟩, .fallback 1⟩) ∧
    ofHelper twoPointers ⟨["alpha", "beta", "gamma"], by decide⟩ =
      .error (.slotNull 2 "gamma") := by
  have hbase : twoPointers.library.export? arrayKey = some ⟨0x1000, by decide⟩ := rfl
  have hend : EndsAfter (twoPointers.library.element ⟨0x1000, by decide⟩) 2 :=
    ⟨by decide, by decide⟩
  constructor
  · obtain ⟨-, hserved, -, hcount⟩ :=
      ofHelper_exact twoPointers ⟨["alpha", "beta"], by decide⟩
    obtain ⟨lookup, hlookup⟩ := (hcount _ 2 hbase hend).mpr rfl
    obtain ⟨-, -, base, hbase', hserves⟩ := hserved lookup hlookup
    obtain rfl := Option.some.inj (hbase.symm.trans hbase')
    obtain ⟨symbol, hword, hresolve⟩ := hserves.hit ⟨"beta", by decide, by decide⟩ 1 rfl
    refine ⟨lookup, hlookup, hresolve.trans ?_⟩
    obtain ⟨address, hne⟩ := symbol
    obtain rfl : address = 7 := hword
    rfl
  · obtain ⟨-, -, hrefused, -⟩ :=
      ofHelper_exact twoPointers ⟨["alpha", "beta", "gamma"], by decide⟩
    exact (hrefused _).mpr (.nullSlot hbase rfl hend)

end FallbackLookup

end Linkage
