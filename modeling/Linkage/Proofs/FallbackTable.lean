import Linkage.FallbackTable
import Std.Data.HashMap

/-!
# Names and ordinals belong to each other

A table is a list of distinct names, and that alone makes it work in both
directions: an ordinal tells the name that stands there, and a name tells the
ordinal where it stands. Names of which one is repeated make no table, and the
refusal tells the first repetition: not the first name that occurs again further
on, but the first place at which a name has occurred before.

Looking through the list is one way to find an ordinal. A *reverse index* is
another: names are entered one after the other under ascending ordinals, and then
a look-up does. The invariant of the entering is that the index answers exactly
for the names in front, each with its place (`Mirrors`); one more name keeps it,
if it was not there. So the index refuses what the table refuses, and answers what
the table answers.
-/

namespace Linkage.FallbackTable

variable {t : FallbackTable}

/-! ## Slots, names and ordinals -/

theorem slots_getElem? (i : Nat) : t.slots[i]? = t.names[i]?.map fun name => ⟨name, i⟩ := by
  simp [slots, List.getElem?_map, List.getElem?_zipIdx, Function.comp_def]

/-- A slot tells the name at its ordinal. -/
theorem slot?_eq_some_iff {name : String} {i : Nat} :
    t.slot? i = some ⟨name, i⟩ ↔ t.names[i]? = some name := by
  simp [slot?]

/-- Behind the last name there is no slot. -/
theorem slot?_eq_none {i : Nat} (h : t.names.length ≤ i) : t.slot? i = none := by
  simp [slot?, List.getElem?_eq_none h]

/-- The list of the slots has each slot at its ordinal. -/
theorem map_some_slots : t.slots.map some = (List.range t.names.length).map t.slot? := by
  apply List.ext_getElem?
  intro i
  rw [List.getElem?_map, slots_getElem?, List.getElem?_map]
  by_cases hi : i < t.names.length
  · simp [slot?, hi]
  · simp [hi]

/-- A name has one ordinal, the place where it stands. -/
theorem ordinal?_eq_some_iff {name : String} {i : Nat} :
    t.ordinal? name = some i ↔ t.names[i]? = some name := by
  unfold ordinal?
  rw [List.findIdx?_eq_some_iff_getElem]
  constructor
  · rintro ⟨hi, hname, -⟩
    rw [List.getElem?_eq_getElem hi]
    exact congrArg some (by simpa using hname)
  · intro h
    obtain ⟨hi, hname⟩ := List.getElem?_eq_some_iff.mp h
    refine ⟨hi, by simpa using hname, ?_⟩
    -- an earlier place with the same name would repeat it
    intro j hj
    have hne : t.names[j] ≠ t.names[i] := List.pairwise_iff_getElem.mp t.nodup j i _ hi hj
    simpa [hname] using hne

/-- The names of a table are those that have an ordinal. -/
theorem contains_iff {name : String} : t.contains name = true ↔ name ∈ t.names := by
  unfold contains
  rw [Option.isSome_iff_exists, List.mem_iff_getElem?]
  exact exists_congr fun _ => ordinal?_eq_some_iff

/-! ## The first repetition -/

/-- At this place stands a name that occurred before it, and no earlier place has such a name. -/
structure FirstRepetition (names : List String) (j : Nat) (name : String) : Prop where
  here : names[j]? = some name
  before : name ∈ names.take j
  first : ∀ i < j, ∀ n, names[i]? = some n → n ∉ names.take i

/-- There is one first repetition at most. -/
theorem FirstRepetition.unique {names : List String} {i j : Nat} {m n : String}
    (hi : FirstRepetition names i m) (hj : FirstRepetition names j n) : m = n := by
  rcases Nat.lt_trichotomy i j with hlt | rfl | hlt
  · exact absurd hi.before (hj.first i hlt m hi.here)
  · exact Option.some.inj (hi.here.symm.trans hj.here)
  · exact absurd hj.before (hi.first j hlt n hj.here)

/-- A repetition is where distinct names go on with one of them. -/
theorem firstRepetition_append {before after : List String} {name : String}
    (hmem : name ∈ before) (hnodup : before.Nodup) :
    FirstRepetition (before ++ name :: after) before.length name where
  here := by simp
  before := by simpa using hmem
  first := by
    intro i hi n hn hmem
    rw [List.getElem?_append_left hi] at hn
    rw [List.take_append_of_le_length (Nat.le_of_lt hi)] at hmem
    obtain ⟨k, hk, hkn⟩ := List.mem_take_iff_getElem.mp hmem
    obtain ⟨_, hname⟩ := List.getElem?_eq_some_iff.mp hn
    exact List.pairwise_iff_getElem.mp hnodup k i (by omega) hi (by omega) (hkn.trans hname.symm)

/-- The search stops at a name that was seen or occurred, with only new names in front of it. -/
theorem split_of_firstRepeated? {seen names : List String} {name : String}
    (h : firstRepeated? seen names = some name) :
    ∃ before after, names = before ++ name :: after ∧ (name ∈ seen ∨ name ∈ before) ∧
      before.Nodup ∧ ∀ n ∈ before, n ∉ seen := by
  induction names generalizing seen with
  | nil => exact absurd h (by simp [firstRepeated?])
  | cons n rest ih =>
      by_cases hn : n ∈ seen
      · rw [firstRepeated?, if_pos hn] at h
        obtain rfl := Option.some.inj h
        exact ⟨[], rest, rfl, .inl hn, .nil, by simp⟩
      · rw [firstRepeated?, if_neg hn] at h
        obtain ⟨before, after, rfl, hmem, hnodup, hnew⟩ := ih h
        refine ⟨n :: before, after, rfl, ?_, ?_, ?_⟩
        · rcases hmem with hseen | hbefore
          · rcases List.mem_cons.mp hseen with rfl | hseen
            · exact .inr (by simp)
            · exact .inl hseen
          · exact .inr (List.mem_cons_of_mem n hbefore)
        · exact List.nodup_cons.mpr ⟨fun hm => hnew n hm (by simp), hnodup⟩
        · intro m hm
          rcases List.mem_cons.mp hm with rfl | hm
          · exact hn
          · exact fun hs => hnew m hm (List.mem_cons_of_mem n hs)

theorem firstRepetition_of_firstRepeated? {names : List String} {name : String}
    (h : firstRepeated? [] names = some name) : ∃ j, FirstRepetition names j name := by
  obtain ⟨before, after, rfl, hmem, hnodup, -⟩ := split_of_firstRepeated? h
  exact ⟨before.length, firstRepetition_append (hmem.resolve_left (by simp)) hnodup⟩

theorem FirstRepetition.not_nodup {names : List String} {j : Nat} {name : String}
    (h : FirstRepetition names j name) : ¬ names.Nodup := by
  intro hnodup
  obtain ⟨hj, hname⟩ := List.getElem?_eq_some_iff.mp h.here
  obtain ⟨i, hi, hin⟩ := List.mem_take_iff_getElem.mp h.before
  exact List.pairwise_iff_getElem.mp hnodup i j (by omega) hj (by omega) (hin.trans hname.symm)

/-! ## What some names come to -/

/-- What can come of some names, and when. -/
inductive Building (names : List String) : Except String FallbackTable → Prop where
  | built (h : names.Nodup) : Building names (.ok ⟨names, h⟩)
  | refused {j : Nat} {name : String} : FirstRepetition names j name → Building names (.error name)

theorem building (names : List String) : Building names (ofNames names) := by
  unfold ofNames
  split
  · rename_i name h
    obtain ⟨j, hj⟩ := firstRepetition_of_firstRepeated? h
    exact .refused hj
  · exact .built _

theorem ofNames_of_nodup {names : List String} (h : names.Nodup) :
    ofNames names = .ok ⟨names, h⟩ := by
  have hb := building names
  generalize ofNames names = outcome at hb ⊢
  cases hb with
  | built _ => rfl
  | refused hrep => exact absurd h hrep.not_nodup

theorem ofNames_eq_error_iff {names : List String} {name : String} :
    ofNames names = .error name ↔ ∃ j, FirstRepetition names j name := by
  have hb := building names
  generalize ofNames names = outcome at hb ⊢
  cases hb with
  | built h =>
      refine ⟨fun he => absurd he (by simp), ?_⟩
      rintro ⟨j, hj⟩
      exact absurd h hj.not_nodup
  | refused hrep =>
      constructor
      · rintro ⟨⟩
        exact ⟨_, hrep⟩
      · rintro ⟨j, hj⟩
        rw [hrep.unique hj]

/-! ## The reverse index -/

/-- The ordinals that were entered for names. -/
abbrev Index := Std.HashMap String Nat

/-- Enters names under ascending ordinals, and stops at one that was entered before. -/
def enter (index : Index) (ordinal : Nat) : List String → Except String Index
  | [] => .ok index
  | name :: rest =>
    if index.contains name then .error name
    else enter (index.insert name ordinal) (ordinal + 1) rest

/-- An index answers exactly for some names, each with its place. -/
def Mirrors (index : Index) (names : List String) : Prop :=
  ∀ (name : String) (i : Nat), index[name]? = some i ↔ names[i]? = some name

theorem mirrors_empty : Mirrors ∅ [] := by
  intro name i
  simp

theorem Mirrors.contains_iff {index : Index} {names : List String} (h : Mirrors index names)
    {name : String} : index.contains name = true ↔ name ∈ names := by
  rw [Std.HashMap.contains_eq_isSome_getElem?, Option.isSome_iff_exists, List.mem_iff_getElem?]
  exact exists_congr fun i => h name i

/-- One more name, entered under the next ordinal. -/
theorem Mirrors.insert {index : Index} {names : List String} (h : Mirrors index names)
    {name : String} (hnew : name ∉ names) :
    Mirrors (index.insert name names.length) (names ++ [name]) := by
  intro n i
  have hput : (names ++ [name])[i]? = some n ↔
      names[i]? = some n ∨ i = names.length ∧ name = n := by
    rcases Nat.lt_trichotomy i names.length with hlt | rfl | hgt
    · simp [List.getElem?_append_left hlt, Nat.ne_of_lt hlt]
    · simp
    · have hlength : (names ++ [name]).length ≤ i := by rwa [List.length_append]
      rw [List.getElem?_eq_none hlength, List.getElem?_eq_none (Nat.le_of_lt hgt)]
      simp [Nat.ne_of_gt hgt]
  rw [Std.HashMap.getElem?_insert, hput]
  by_cases hn : name = n
  · subst hn
    -- the name has the new place, and had none before
    have hnone : names[i]? ≠ some name := fun hi => hnew (List.mem_of_getElem? hi)
    simp [hnone, eq_comm]
  · rw [if_neg (by simpa using hn), h n i]
    simp [hn]

/-- Entering goes as the search for a repetition goes, and keeps the index a mirror. -/
theorem enter_cases {index : Index} {front : List String} (h : Mirrors index front)
    (seen : List String) (hseen : ∀ n, n ∈ seen ↔ n ∈ front) (rest : List String) :
    (∃ name, firstRepeated? seen rest = some name ∧
        enter index front.length rest = .error name) ∨
      ∃ index', firstRepeated? seen rest = none ∧
        enter index front.length rest = .ok index' ∧ Mirrors index' (front ++ rest) := by
  -- over the names still to enter, for every index that mirrors those in front of them
  induction rest generalizing index front seen with
  | nil => exact .inr ⟨index, rfl, rfl, by simpa using h⟩
  | cons name rest ih =>
      by_cases hname : name ∈ front
      · refine .inl ⟨name, ?_, ?_⟩
        · rw [firstRepeated?, if_pos ((hseen name).mpr hname)]
        · rw [enter, if_pos (h.contains_iff.mpr hname)]
      · rw [firstRepeated?, if_neg (fun hs => hname ((hseen name).mp hs)), enter,
          if_neg (fun hc => hname (h.contains_iff.mp hc))]
        have hseen' : ∀ n, n ∈ name :: seen ↔ n ∈ front ++ [name] := by
          intro n
          simp [hseen n, or_comm]
        have hrest := ih (h.insert hname) _ hseen'
        rwa [List.length_append, List.append_assoc] at hrest

/-- Names that make a table fill an index that answers as the table does. -/
theorem enter_of_nodup {names : List String} (h : names.Nodup) :
    ∃ index, enter ∅ 0 names = .ok index ∧ Mirrors index names := by
  rcases enter_cases mirrors_empty [] (by simp) names with
    ⟨name, hrep, -⟩ | ⟨index, -, henter, hmirrors⟩
  · obtain ⟨j, hj⟩ := firstRepetition_of_firstRepeated? hrep
    exact absurd h hj.not_nodup
  · exact ⟨index, henter, hmirrors⟩

/-! ## A table works both ways -/

/-- A table has some names, and tells name and ordinal from each other. -/
structure TwoWay (t : FallbackTable) (names : List String) : Prop where
  size : t.size = names.length
  ordinal : ∀ name i, t.ordinal? name = some i ↔ t.slot? i = some ⟨name, i⟩
  slot : ∀ name i, t.slot? i = some ⟨name, i⟩ ↔ ∃ h : i < names.length, names[i] = name
  contains : ∀ name, t.contains name = true ↔ name ∈ names
  slots : t.slots.map some = (List.range names.length).map t.slot?
  beyond : ∀ i, names.length ≤ i → t.slot? i = none
  /-- An index that is filled name by name answers as the table does. -/
  index : ∃ index, enter ∅ 0 names = .ok index ∧ ∀ name : String, index[name]? = t.ordinal? name

theorem twoWay (t : FallbackTable) : t.TwoWay t.names where
  size := rfl
  ordinal _ _ := by rw [ordinal?_eq_some_iff, slot?_eq_some_iff]
  slot _ _ := by rw [slot?_eq_some_iff, List.getElem?_eq_some_iff]
  contains _ := contains_iff
  slots := map_some_slots
  beyond _ := slot?_eq_none
  index := by
    obtain ⟨index, henter, hmirrors⟩ := enter_of_nodup t.nodup
    refine ⟨index, henter, fun name => Option.ext fun i => ?_⟩
    rw [hmirrors name i, ordinal?_eq_some_iff]

/--
**A table and its names are a bijection.**

Some names make a table exactly when they are distinct, and the refusal of others tells the first
place at which a name has occurred before. In a table that was made, ordinals and names tell each
other, whether the list is searched or an index is asked.
-/
theorem ofNames_bijection (names : List String) :
    ((∃ t, ofNames names = .ok t) ↔ names.Nodup) ∧
    (∀ message, (ofNames names).mapError repetitionMessage = .error message ↔
      ∃ j name, FirstRepetition names j name ∧
        message = "duplicate fallback symbol " ++ name) ∧
    ∀ t, ofNames names = .ok t → t.TwoWay names := by
  refine ⟨⟨?_, fun h => ⟨_, ofNames_of_nodup h⟩⟩, fun message => ⟨?_, ?_⟩, ?_⟩
  · rintro ⟨t, ht⟩
    have hb := building names
    rw [ht] at hb
    cases hb with
    | built h => exact h
  · intro h
    cases hname : ofNames names with
    | ok t =>
        rw [hname] at h
        cases h
    | error name =>
        rw [hname] at h
        obtain ⟨j, hj⟩ := ofNames_eq_error_iff.mp hname
        exact ⟨j, name, hj, (Except.error.inj h).symm⟩
  · rintro ⟨j, name, hj, rfl⟩
    rw [ofNames_eq_error_iff.mpr ⟨j, hj⟩]
    rfl
  · intro t ht
    have hb := building names
    rw [ht] at hb
    cases hb with
    | built h => exact twoWay _

/-- Two names make a table, and the second has the ordinal 1. -/
theorem ofNames_bijection_two :
    ∃ t, ofNames ["alpha", "beta"] = .ok t ∧ t.ordinal? "beta" = some 1 := by
  obtain ⟨hbuilt, -, htable⟩ := ofNames_bijection ["alpha", "beta"]
  obtain ⟨t, ht⟩ := hbuilt.mpr (by decide)
  have htwoWay := htable t ht
  exact ⟨t, ht, (htwoWay.ordinal "beta" 1).mpr ((htwoWay.slot "beta" 1).mpr ⟨by decide, rfl⟩)⟩

/-- Of two names that are repeated, the refusal tells the one whose repetition comes first. -/
example : (ofNames ["a", "b", "b", "a"]).mapError repetitionMessage =
    .error "duplicate fallback symbol b" := rfl

end Linkage.FallbackTable
