import Linkage.Proofs.Json.Values
import Mathlib.Logic.Relation

/-!
# The order of members

An object may be written with its members in any order, and with a key more than once.
The reader puts each member into a sorted list, so what it gives is the written value
`sorted`: of two members with one key the last one counts, and apart from that the
order does not matter at any depth (`Reordered.sorted_eq`).

The key to this is that two members of distinct keys can be put into a list in either
order (`insert_insert_comm`), whether the list is sorted or not.
-/

namespace Linkage.Json

/-! ## Putting members into a list -/

section Insert

variable {j k a : String} {v w x : Json} {rest members : List (String × Json)}

theorem lt_or_gt_of_ne (h : j ≠ k) : j < k ∨ k < j := by
  by_cases hlt : j < k
  · exact .inl hlt
  · by_cases hgt : k < j
    · exact .inr hgt
    · exact absurd (String.le_antisymm (String.not_lt.mp hgt) (String.not_lt.mp hlt)) h

theorem ne_of_lt (h : j < k) : j ≠ k := by
  rintro rfl
  exact String.lt_irrefl _ h

theorem insert_same (k : String) (v x : Json) (rest : List (String × Json)) :
    insert k v ((k, x) :: rest) = (k, v) :: rest := by
  rw [insert, if_pos rfl]

theorem insert_of_lt (h : k < a) : insert k v ((a, x) :: rest) = (k, v) :: (a, x) :: rest := by
  rw [insert, if_neg (ne_of_lt h), if_pos h]

theorem insert_of_gt (h : a < k) : insert k v ((a, x) :: rest) = (a, x) :: insert k v rest := by
  rw [insert, if_neg (ne_of_lt h).symm, if_neg (String.lt_asymm h)]

theorem insert_insert_of_lt (h : j < k) (v w : Json) (members : List (String × Json)) :
    insert j v (insert k w members) = insert k w (insert j v members) := by
  induction members with
  | nil => rw [insert, insert_of_lt h, insert, insert_of_gt h, insert]
  | cons m rest ih =>
      obtain ⟨a, x⟩ := m
      by_cases hj : j = a
      · subst hj
        rw [insert_of_gt h, insert_same, insert_same, insert_of_gt h]
      rcases lt_or_gt_of_ne hj with hja | haj
      · -- the first key goes in front, and the second one somewhere behind it
        rw [insert_of_lt hja, insert_of_gt h]
        by_cases hk : k = a
        · subst hk
          rw [insert_same, insert_of_lt h]
        rcases lt_or_gt_of_ne hk with hka | hak
        · rw [insert_of_lt hka, insert_of_lt h]
        · rw [insert_of_gt hak, insert_of_lt hja]
      · have hak : a < k := String.lt_trans haj h
        rw [insert_of_gt hak, insert_of_gt haj, insert_of_gt haj, insert_of_gt hak, ih]

/-- **Members of distinct keys can be put into a list in either order.** -/
theorem insert_insert_comm (h : j ≠ k) (v w : Json) (members : List (String × Json)) :
    insert j v (insert k w members) = insert k w (insert j v members) := by
  rcases lt_or_gt_of_ne h with hlt | hgt
  · exact insert_insert_of_lt hlt v w members
  · exact (insert_insert_of_lt hgt w v members).symm

theorem eq_or_mem_of_mem_insert {m : String × Json} (h : m ∈ insert k v members) :
    m = (k, v) ∨ m ∈ members := by
  induction members with
  | nil => exact .inl (by simpa [insert] using h)
  | cons n rest ih =>
      obtain ⟨a, x⟩ := n
      by_cases hk : k = a
      · subst hk
        rw [insert_same] at h
        rcases List.mem_cons.mp h with rfl | h
        · exact .inl rfl
        · exact .inr (List.mem_cons_of_mem _ h)
      rcases lt_or_gt_of_ne hk with hka | hak
      · rw [insert_of_lt hka] at h
        exact List.mem_cons.mp h
      · rw [insert_of_gt hak] at h
        rcases List.mem_cons.mp h with rfl | h
        · exact .inr (List.mem_cons_self ..)
        · exact (ih h).imp_right (List.mem_cons_of_mem _)

theorem sortedByKey_insert (h : SortedByKey members) (k : String) (v : Json) :
    SortedByKey (insert k v members) := by
  induction members with
  | nil => exact List.pairwise_singleton _ _
  | cons n rest ih =>
      obtain ⟨a, x⟩ := n
      obtain ⟨hfirst, hrest⟩ := List.pairwise_cons.mp h
      by_cases hk : k = a
      · subst hk
        rw [insert_same]
        exact List.pairwise_cons.mpr ⟨hfirst, hrest⟩
      rcases lt_or_gt_of_ne hk with hka | hak
      · rw [insert_of_lt hka]
        refine List.pairwise_cons.mpr ⟨?_, h⟩
        intro m hm
        rcases List.mem_cons.mp hm with rfl | hm
        · exact hka
        · exact String.lt_trans hka (hfirst m hm)
      · rw [insert_of_gt hak]
        refine List.pairwise_cons.mpr ⟨?_, ih hrest⟩
        intro m hm
        rcases eq_or_mem_of_mem_insert hm with rfl | hm
        · exact hak
        · exact hfirst m hm

end Insert

/-- Puts members into a list one by one. -/
def insertAll (got members : List (String × Json)) : List (String × Json) :=
  members.foldl (fun got m => insert m.1 m.2 got) got

theorem sortedByKey_insertAll {got : List (String × Json)} (h : SortedByKey got)
    (members : List (String × Json)) : SortedByKey (insertAll got members) := by
  induction members generalizing got with
  | nil => exact h
  | cons m rest ih => exact ih (sortedByKey_insert h m.1 m.2)

theorem mem_of_mem_insertAll {got members : List (String × Json)} {m : String × Json}
    (h : m ∈ insertAll got members) : m ∈ got ∨ m ∈ members := by
  induction members generalizing got with
  | nil => exact .inl h
  | cons n rest ih =>
      rcases ih h with hgot | hrest
      · rcases eq_or_mem_of_mem_insert hgot with rfl | hgot
        · exact .inr (List.mem_cons_self ..)
        · exact .inl hgot
      · exact .inr (List.mem_cons_of_mem _ hrest)

theorem insertAll_append (got members members' : List (String × Json)) :
    insertAll got (members ++ members') = insertAll (insertAll got members) members' :=
  List.foldl_append

/-- Neighbours of distinct keys can change places. -/
theorem insertAll_swap (got before after : List (String × Json)) {j k : String} (h : j ≠ k)
    (v w : Json) :
    insertAll got (before ++ (j, v) :: (k, w) :: after) =
      insertAll got (before ++ (k, w) :: (j, v) :: after) := by
  rw [insertAll_append, insertAll_append]
  exact congrArg (insertAll · after) (insert_insert_comm h.symm w v _)

/-! ## The value that is read -/

mutual

/-- The value that a reader makes of a value as it is written: members are sorted by key. -/
def sorted : Json → Json
  | .arr items => .arr (sortedItems items)
  | .obj members => .obj (insertAll [] (sortedMembers members))
  | v => v

/-- The values that a reader makes of the items of an array. -/
def sortedItems : List Json → List Json
  | [] => []
  | v :: rest => sorted v :: sortedItems rest

/-- The members of an object in the order in which they are written, with the values read. -/
def sortedMembers : List (String × Json) → List (String × Json)
  | [] => []
  | (k, v) :: rest => (k, sorted v) :: sortedMembers rest

end

theorem sortedItems_eq (items : List Json) : sortedItems items = items.map sorted := by
  induction items with
  | nil => rfl
  | cons v rest ih => rw [sortedItems, ih, List.map_cons]

theorem sortedMembers_eq (members : List (String × Json)) :
    sortedMembers members = members.map fun m => (m.1, sorted m.2) := by
  induction members with
  | nil => rfl
  | cons m rest ih => rw [sortedMembers, ih, List.map_cons]

theorem sorted_arr (items : List Json) : sorted (.arr items) = .arr (items.map sorted) := by
  rw [sorted, sortedItems_eq]

theorem sorted_obj (members : List (String × Json)) :
    sorted (.obj members) = .obj (insertAll [] (members.map fun m => (m.1, sorted m.2))) := by
  rw [sorted, sortedMembers_eq]

theorem sorted_eq_null_iff {v : Json} : sorted v = .null ↔ v = .null := by
  cases v with
  | arr items => simp [sorted_arr]
  | obj members => simp [sorted_obj]
  | _ => rfl

/-- Two neighbouring members of distinct keys change places, in an object at any depth. -/
inductive Swap : Json → Json → Prop where
  | here {m n : String × Json} (before after : List (String × Json)) : m.1 ≠ n.1 →
      Swap (.obj (before ++ m :: n :: after)) (.obj (before ++ n :: m :: after))
  | item {v w : Json} (before after : List Json) : Swap v w →
      Swap (.arr (before ++ v :: after)) (.arr (before ++ w :: after))
  | member {v w : Json} (before after : List (String × Json)) (key : String) : Swap v w →
      Swap (.obj (before ++ (key, v) :: after)) (.obj (before ++ (key, w) :: after))

/-- The values differ only in the order of members of distinct keys. -/
def Reordered : Json → Json → Prop := Relation.ReflTransGen Swap

theorem Swap.sorted_eq {v w : Json} (h : Swap v w) : sorted v = sorted w := by
  induction h with
  | here before after hne =>
      simp only [sorted_obj, List.map_append, List.map_cons]
      rw [insertAll_swap [] _ _ hne]
  | item before after _ ih => simp only [sorted_arr, List.map_append, List.map_cons, ih]
  | member before after key _ ih => simp only [sorted_obj, List.map_append, List.map_cons, ih]

/-- **The order of members does not matter.** -/
theorem Reordered.sorted_eq {v w : Json} (h : Reordered v w) : sorted v = sorted w := by
  induction h with
  | refl => rfl
  | tail _ hswap ih => exact ih.trans hswap.sorted_eq

/-- Members of distinct keys can be brought into any order. -/
theorem reordered_of_perm {members members' : List (String × Json)} (h : members.Perm members')
    (hkeys : (members.map Prod.fst).Nodup) (before : List (String × Json)) :
    Reordered (.obj (before ++ members)) (.obj (before ++ members')) := by
  induction h generalizing before with
  | nil => exact .refl
  | cons m _ ih =>
      have hrest := ih (List.nodup_cons.mp hkeys).2 (before ++ [m])
      rwa [List.append_assoc, List.append_assoc] at hrest
  | swap m n rest =>
      refine .single (.here before rest ?_)
      intro heq
      exact (List.nodup_cons.mp hkeys).1 (by simp [heq])
  | trans hfirst _ ih ih' =>
      have hkeys' := (hfirst.map Prod.fst).nodup_iff.mp hkeys
      exact (ih hkeys before).trans (ih' hkeys' before)

/-! ## Values without floating-point numbers -/

/-- The value holds no floating-point number. -/
inductive FloatFree : Json → Prop where
  | null : FloatFree .null
  | bool (b : Bool) : FloatFree (.bool b)
  | int (i : Int) : FloatFree (.int i)
  | str (s : String) : FloatFree (.str s)
  | arr {items : List Json} : (∀ v ∈ items, FloatFree v) → FloatFree (.arr items)
  | obj {members : List (String × Json)} : (∀ m ∈ members, FloatFree m.2) →
      FloatFree (.obj members)

/-! ## Depth -/

theorem depthItems_le_iff {items : List Json} {n : Nat} :
    depthItems items ≤ n ↔ ∀ v ∈ items, depth v ≤ n := by
  induction items with
  | nil => simp [depthItems]
  | cons v rest ih => rw [depthItems, Nat.max_le, ih, List.forall_mem_cons]

theorem depthMembers_le_iff {members : List (String × Json)} {n : Nat} :
    depthMembers members ≤ n ↔ ∀ m ∈ members, depth m.2 ≤ n := by
  induction members with
  | nil => simp [depthMembers]
  | cons m rest ih => rw [depthMembers, Nat.max_le, ih, List.forall_mem_cons]

end Linkage.Json
