import Linkage.Proofs.PointerArray

/-!
# What the reader touches

A helper library promises a table's worth of pointers and a null behind them. A
helper of another version may keep less of that promise, and then the words
behind its array may be anything, or not be there to be read at all. The reader
gets by with less than the promise: it stops at the first null word, so an array
that ends early is refused from the words it has.

To say which words are asked for, the reader is run over memory that keeps a
record (`Watched`) and that may lack words. It asks for the words in order up to
the one where it stops, and what it makes of them depends on no other word. What
was read is kept, so that a lookup asks for none.
-/

namespace Linkage

/-- The word that memory holds at each address, where there is one to be read. -/
abbrev PartialMemory := Word → Option Word

/--
Work that reads memory: the addresses it asked for, in order, and what came of
it, which is nothing if a word could not be read.
-/
structure Watched (α : Type) where
  touched : List Word
  result? : Option α

namespace Watched

variable {α β : Type}

/-- Work after work; nothing more is read once a word could not be. -/
def andThen (x : Watched α) (f : α → Watched β) : Watched β :=
  match x.result? with
  | none => ⟨x.touched, none⟩
  | some a => ⟨x.touched ++ (f a).touched, (f a).result?⟩

instance : Monad Watched where
  pure a := ⟨[], some a⟩
  bind := andThen

/-- Reads a word. -/
def word (memory : PartialMemory) (address : Word) : Watched Word := ⟨[address], memory address⟩

@[simp] theorem pure_eq (a : α) : (pure a : Watched α) = ⟨[], some a⟩ := rfl

@[simp] theorem some_bind (touched : List Word) (a : α) (f : α → Watched β) :
    (⟨touched, some a⟩ : Watched α) >>= f = ⟨touched ++ (f a).touched, (f a).result?⟩ := rfl

theorem word_of_some {memory : PartialMemory} {address w : Word} (h : memory address = some w) :
    word memory address = ⟨[address], some w⟩ := by
  rw [word, h]

end Watched

/-- The address of a word of the array that starts at a symbol. -/
def Symbol.elementAddress (base : Symbol) (i : Nat) : Word :=
  base.address + UInt64.ofNat (wordSize * i)

namespace FallbackTable

/-! ## Where the reader stops -/

/-- A reader of so many slots stops at a word: the first null one, or the one behind the slots. -/
structure StopsAt (word : Nat → Word) (slots k : Nat) : Prop where
  le : k ≤ slots
  filled : ∀ i < k, word i ≠ 0
  null : k < slots → word k = 0

variable {word word' : Nat → Word} {slots j k : Nat}

theorem exists_stopsAt (word : Nat → Word) (slots : Nat) : ∃ k, StopsAt word slots k := by
  induction slots with
  | zero => exact ⟨0, Nat.le_refl 0, by simp, by simp⟩
  | succ slots ih =>
      obtain ⟨k, hle, hfilled, hnull⟩ := ih
      rcases Nat.lt_or_eq_of_le hle with hlt | rfl
      · exact ⟨k, by omega, hfilled, fun _ => hnull hlt⟩
      · -- all slots so far are filled, so the new one decides
        by_cases h0 : word k = 0
        · exact ⟨k, by omega, hfilled, fun _ => h0⟩
        · refine ⟨k + 1, Nat.le_refl _, fun i hi => ?_, fun hlt => absurd hlt (by omega)⟩
          rcases Nat.lt_succ_iff_lt_or_eq.mp hi with hi | rfl
          · exact hfilled i hi
          · exact h0

theorem StopsAt.unique (hj : StopsAt word slots j) (hk : StopsAt word slots k) : j = k := by
  rcases Nat.lt_trichotomy j k with hlt | heq | hlt
  · exact absurd (hj.null (Nat.lt_of_lt_of_le hlt hk.le)) (hk.filled j hlt)
  · exact heq
  · exact absurd (hk.null (Nat.lt_of_lt_of_le hlt hj.le)) (hj.filled k hlt)

/-- An array that ends early is read to its end. -/
theorem EndsAfter.stopsAt (h : EndsAfter word k) (hle : k ≤ slots) : StopsAt word slots k :=
  ⟨hle, h.filled, fun _ => h.ended⟩

/-- The words up to there say that the reader stops there. -/
theorem StopsAt.congr (h : StopsAt word slots k) (hword : ∀ i ≤ k, word' i = word i) :
    StopsAt word' slots k where
  le := h.le
  filled i hi := by
    rw [hword i (Nat.le_of_lt hi)]
    exact h.filled i hi
  null hlt := by
    rw [hword k (Nat.le_refl k)]
    exact h.null hlt

/-! ## Reading from memory that keeps a record -/

variable {fetch : Nat → Watched Word} {address : Nat → Word} {t : FallbackTable}

/--
The slots up to the first null one are read, and no others. Where their words can
be read, the reader makes of them what it makes of the words alone.
-/
theorem readSlots_watched {row : List FallbackSlot}
    (hfilled : ∀ s ∈ row.take k, word s.ordinal ≠ 0)
    (hnull : ∀ s, row[k]? = some s → word s.ordinal = 0)
    (hfetch : ∀ s ∈ row.take (k + 1),
      fetch s.ordinal = ⟨[address s.ordinal], some (word s.ordinal)⟩) :
    readSlots fetch row =
      ⟨(row.take (k + 1)).map fun s => address s.ordinal,
        some (Id.run (readSlots (fun i => pure (word i)) row))⟩ := by
  induction row generalizing k with
  | nil => rfl
  | cons slot rest ih =>
      have hslot : fetch slot.ordinal = ⟨[address slot.ordinal], some (word slot.ordinal)⟩ :=
        hfetch slot (by simp)
      rw [readSlots_cons, readSlots, hslot, Watched.some_bind]
      cases k with
      | zero =>
          have h0 : Symbol.ofWord? (word slot.ordinal) = none :=
            Symbol.ofWord?_eq_none_iff.mpr (hnull slot rfl)
          simp [h0]
      | succ k =>
          have hne : word slot.ordinal ≠ 0 := hfilled slot (by simp)
          have hrest := ih (k := k) (fun s hs => hfilled s (by simp [hs]))
            (fun s hs => hnull s (by simpa using hs)) (fun s hs => hfetch s (by simp [hs]))
          simp [Symbol.ofWord?, hne, hrest]

theorem map_ordinal_slots : t.slots.map (·.ordinal) = List.range t.size := by
  apply List.ext_getElem?
  intro i
  rw [List.getElem?_map, slots_getElem?, Option.map_map]
  by_cases hi : i < t.names.length
  · simp [size, hi]
  · simp [size, hi]

theorem ordinal_lt_of_mem_take {m : Nat} {s : FallbackSlot} (h : s ∈ t.slots.take m) :
    s.ordinal < m := by
  have hmem : s.ordinal ∈ (t.slots.take m).map (·.ordinal) := List.mem_map_of_mem h
  rw [List.map_take, map_ordinal_slots, List.take_range, List.mem_range] at hmem
  omega

/--
The slots that are read are those up to the place where the reader stops, and the
reading of them tells whether a null one was among them.
-/
theorem readSlots_stopsAt (h : StopsAt word t.size k)
    (hfetch : ∀ i ≤ k, fetch i = ⟨[address i], some (word i)⟩) :
    readSlots fetch t.slots =
        ⟨(List.range (min (k + 1) t.size)).map address,
          some (Id.run (readSlots (fun i => pure (word i)) t.slots))⟩ ∧
      ((∃ fault, Id.run (readSlots (fun i => pure (word i)) t.slots) = .error fault) ↔
        k < t.size) := by
  constructor
  · have hnull : ∀ s, t.slots[k]? = some s → word s.ordinal = 0 := by
      intro s hs
      rw [slots_getElem?] at hs
      obtain ⟨name, hname, rfl⟩ := Option.map_eq_some_iff.mp hs
      exact h.null (List.getElem?_eq_some_iff.mp hname).1
    rw [← List.take_range, ← map_ordinal_slots, ← List.map_take, List.map_map]
    exact readSlots_watched (fun s hs => h.filled _ (ordinal_lt_of_mem_take hs)) hnull
      (fun s hs => hfetch _ (Nat.le_of_lt_succ (ordinal_lt_of_mem_take hs)))
  · rcases readSlots_cases word t.slots with ⟨symbols, hrun, hfill⟩ | ⟨slot, hrun, hfirst⟩
    · have hfull : ∀ i < t.size, word i ≠ 0 := forall_slots_iff.mp hfill.ne_zero
      rw [hrun]
      exact ⟨fun he => absurd he (by simp), fun hlt => absurd (h.null hlt) (hfull k hlt)⟩
    · obtain ⟨hname, hend⟩ := hfirst.endsAfter
      have hlt : slot.ordinal < t.size := (List.getElem?_eq_some_iff.mp hname).1
      rw [(hend.stopsAt (Nat.le_of_lt hlt)).unique h] at hlt
      exact ⟨fun _ => hlt, fun _ => ⟨_, hrun⟩⟩

/-- The words up to the place where the reader stops are read, in order, and no others. -/
theorem readArray_watched (h : StopsAt word t.size k)
    (hfetch : ∀ i ≤ k, fetch i = ⟨[address i], some (word i)⟩) :
    t.readArray fetch =
      ⟨(List.range (k + 1)).map address, some (Id.run (t.readArray fun i => pure (word i)))⟩ := by
  obtain ⟨hslots, hfault⟩ := readSlots_stopsAt h hfetch
  rw [readArray_eq, readArray, hslots, Watched.some_bind]
  rcases Nat.lt_or_eq_of_le h.le with hlt | rfl
  · -- a null slot ends the reading before the terminator is looked at
    obtain ⟨fault, herror⟩ := hfault.mpr hlt
    rw [herror, Nat.min_eq_left hlt]
    simp
  · have hok : ∃ symbols, Id.run (readSlots (fun i => pure (word i)) t.slots) = .ok symbols := by
      cases hrun : Id.run (readSlots (fun i => pure (word i)) t.slots) with
      | ok symbols => exact ⟨symbols, rfl⟩
      | error fault => exact absurd (hfault.mp ⟨fault, hrun⟩) (Nat.lt_irrefl _)
    obtain ⟨symbols, hok⟩ := hok
    rw [hok, Nat.min_eq_right (Nat.le_succ _), hfetch _ (Nat.le_refl _), List.range_succ]
    by_cases h0 : word t.size = 0
    · simp [h0]
    · simp [h0]

/-- Words behind the place where the reader stops do not matter. -/
theorem readArray_congr (h : StopsAt word t.size k) (hword : ∀ i ≤ k, word' i = word i) :
    Id.run (t.readArray fun i => pure (word' i)) =
      Id.run (t.readArray fun i => pure (word i)) := by
  -- one way to fetch the words serves both, for no other word is asked for
  let fetch (i : Nat) : Watched Word := ⟨[0], some (word i)⟩
  have hread : t.readArray fetch = ⟨(List.range (k + 1)).map fun _ => 0, _⟩ :=
    readArray_watched h (fun i _ => rfl)
  have hread' : t.readArray fetch = ⟨(List.range (k + 1)).map fun _ => 0, _⟩ :=
    readArray_watched (h.congr hword) (fun i hi => by rw [hword i hi])
  rw [hread] at hread'
  exact (Option.some.inj (Watched.mk.inj hread').2).symm

end FallbackTable

namespace FallbackLookup

open FallbackTable

/-! ## Reading a helper library -/

/-- What the reading of an array comes to for the library that exports it. -/
def ofReading (helper : OpenLibrary) (table : FallbackTable) :
    Except ArrayFault (List Symbol) → Except InitError FallbackLookup
  | .error fault => .error fault.cause
  | .ok symbols => .ok ⟨table, symbols, helper⟩

/-- Reads the pointer array of a helper library, from memory that is asked word by word. -/
def readHelper {m : Type → Type} [Monad m] (read : Word → m Word) (helper : OpenLibrary)
    (table : FallbackTable) : m (Except InitError FallbackLookup) :=
  match helper.library.export? arrayKey with
  | none => pure (.error (.missingExport helper.path arrayName))
  | some base => do
    return ofReading helper table (← table.readArray fun i => read (base.elementAddress i))

variable {helper : OpenLibrary} {table : FallbackTable} {base : Symbol}

theorem ofHelper_of_export (hbase : helper.library.export? arrayKey = some base) :
    ofHelper helper table =
      ofReading helper table
        (Id.run (table.readArray fun i => pure (helper.library.element base i))) := by
  rw [ofHelper, hbase]
  dsimp only
  cases Id.run (table.readArray fun i => pure (helper.library.element base i)) <;> rfl

/-- A helper library is opened by this very reading, out of its own memory. -/
theorem ofHelper_eq_readHelper (helper : OpenLibrary) (table : FallbackTable) :
    ofHelper helper table =
      Id.run (readHelper (fun address => pure (helper.library.memory address)) helper table) := by
  cases hbase : helper.library.export? arrayKey with
  | none =>
      rw [ofHelper, readHelper, hbase]
      rfl
  | some base =>
      rw [ofHelper_of_export hbase, readHelper, hbase]
      rfl

/-- What is touched of a memory that has the words up to the place where the reader stops. -/
theorem readHelper_watched (hbase : helper.library.export? arrayKey = some base) {k : Nat}
    (h : StopsAt (helper.library.element base) table.size k) {memory : PartialMemory}
    (hmemory : ∀ i ≤ k, memory (base.elementAddress i) = some (helper.library.element base i)) :
    readHelper (Watched.word memory) helper table =
      ⟨(List.range (k + 1)).map base.elementAddress, some (ofHelper helper table)⟩ := by
  have hread : table.readArray (fun i => Watched.word memory (base.elementAddress i)) =
      ⟨(List.range (k + 1)).map base.elementAddress, _⟩ :=
    readArray_watched h (fun i hi => Watched.word_of_some (hmemory i hi))
  rw [readHelper, hbase, ofHelper_of_export hbase]
  dsimp only
  rw [hread, Watched.some_bind, Watched.pure_eq, List.append_nil]

/--
**Reading stays within the helper's own array.**

To open a helper library is to read its memory word by word. The reader stops at the first null
slot, or behind the slots if none is null. It asks for the words up to there, one after the other,
and for nothing behind them, so it works on memory in which nothing else can be read, and comes to
the same result for every library that has the same words up to there. An array that ends before
the table does is refused for the slot at its end. The lookup that comes of it answers without the
library.
-/
theorem ofHelper_stays_within (helper : OpenLibrary) (table : FallbackTable) (base : Symbol)
    (hbase : helper.library.export? arrayKey = some base) :
    ofHelper helper table =
        Id.run (readHelper (fun address => pure (helper.library.memory address)) helper table) ∧
      ∃ k, StopsAt (helper.library.element base) table.size k ∧
        (∀ memory : PartialMemory,
          (∀ i ≤ k, memory (base.elementAddress i) = some (helper.library.element base i)) →
          readHelper (Watched.word memory) helper table =
            ⟨(List.range (k + 1)).map base.elementAddress, some (ofHelper helper table)⟩) ∧
        (∀ library : Library, library.export? arrayKey = some base →
          (∀ i ≤ k, library.element base i = helper.library.element base i) →
          ofHelper ⟨library, helper.path⟩ table =
            (ofHelper helper table).map fun l => { l with helper := ⟨library, helper.path⟩ }) ∧
        (∀ j < table.size, EndsAfter (helper.library.element base) j → k = j ∧
          ∃ name, table.names[j]? = some name ∧
            ofHelper helper table = .error (.slotNull j name)) ∧
        ∀ lookup, ofHelper helper table = .ok lookup →
          ∀ (other : OpenLibrary) (name : SymbolName),
            resolve { lookup with helper := other } name = resolve lookup name := by
  obtain ⟨k, hk⟩ := exists_stopsAt (helper.library.element base) table.size
  refine ⟨ofHelper_eq_readHelper helper table, k, hk,
    fun memory hmemory => readHelper_watched hbase hk hmemory, ?_, ?_,
    fun lookup _ other name => rfl⟩
  · intro library hbase' hword
    have hread : ofHelper ⟨library, helper.path⟩ table = ofReading ⟨library, helper.path⟩ table
        (Id.run (table.readArray fun i => pure (library.element base i))) :=
      ofHelper_of_export hbase'
    rw [hread, readArray_congr hk hword, ofHelper_of_export hbase]
    cases Id.run (table.readArray fun i => pure (helper.library.element base i)) <;> rfl
  · intro j hj hend
    have hname : table.names[j]? = some table.names[j] := List.getElem?_eq_getElem hj
    exact ⟨hk.unique (hend.stopsAt (Nat.le_of_lt hj)), table.names[j], hname,
      ofHelper_of_refused (.nullSlot hbase hname hend)⟩

/-- For three names two pointers and the null behind them are read, and nothing else needs to be. -/
theorem ofHelper_stays_within_twoPointers :
    let table : FallbackTable := ⟨["alpha", "beta", "gamma"], by decide⟩
    let memory : PartialMemory := fun address =>
      if address ∈ [0x1000, 0x1008, 0x1010] then some (twoPointers.library.memory address) else none
    readHelper (Watched.word memory) twoPointers table =
      ⟨[0x1000, 0x1008, 0x1010], some (.error (.slotNull 2 "gamma"))⟩ := by
  intro table memory
  have hbase : twoPointers.library.export? arrayKey = some ⟨0x1000, by decide⟩ := rfl
  obtain ⟨-, k, -, hread, -, hshort, -⟩ := ofHelper_stays_within twoPointers table _ hbase
  obtain ⟨rfl, name, hname, herror⟩ := hshort 2 (by decide) ⟨by decide, by decide⟩
  obtain rfl : "gamma" = name := Option.some.inj hname
  rw [hread memory (by decide), herror]
  rfl

end FallbackLookup

end Linkage
