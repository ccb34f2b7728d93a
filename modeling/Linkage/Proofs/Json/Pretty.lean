import Linkage.Proofs.Json.Completeness

/-!
# A pretty text gives its value back

The pretty spelling puts each part of a container on a line of its own. To the reader
these line breaks and blanks are gaps, wherever they stand and however many there are,
so the text spells the value that was printed (`Printable.spells`), and reading it gives
that value with its members sorted (`Printable.parse?_pretty`).
-/

namespace Linkage.Json

/-- A value whose numbers are whole and fit in 64 bits; its members stand in any order. -/
inductive Printable : Json → Prop where
  | null : Printable .null
  | bool (b : Bool) : Printable (.bool b)
  | int {i : Int} : FitsInteger i → Printable (.int i)
  | str (s : String) : Printable (.str s)
  | arr {items : List Json} : (∀ v ∈ items, Printable v) → Printable (.arr items)
  | obj {members : List (String × Json)} : (∀ m ∈ members, Printable m.2) →
      Printable (.obj members)

/-! ## Line breaks are gaps -/

theorem gap_newline (level : Nat) : Gap (newline level) := by
  intro c hc
  rcases List.mem_cons.mp hc with rfl | hblank
  · rfl
  · obtain ⟨-, rfl⟩ := List.mem_replicate.mp hblank
    rfl

theorem lead_newline (level : Nat) : Lead false (',' :: newline level) :=
  .next Gap.nil (gap_newline level)

/-- The pretty text of a member, behind its line break. -/
def prettyMember (level : Nat) (m : String × Json) : List Char :=
  quote m.1 ++ ':' :: ' ' :: prettyChars level m.2

theorem keyed_prettyMember (level : Nat) (m : String × Json) :
    Keyed m.1 (prettyChars level m.2) (prettyMember level m) := by
  refine ⟨_, [], [' '], stringText_escapes _, Gap.nil, ?_, by simp [prettyMember, quote]⟩
  intro c hc
  obtain rfl := List.mem_singleton.mp hc
  rfl

/-- The text behind a part is that of the others, each one behind a comma and a line break. -/
theorem parts_prettyItems (level : Nat) (items : List Json) :
    Parts ']' false (items.map (prettyChars (level + 1))) (prettyItems level items) := by
  induction items with
  | nil => exact .done (gap_newline level)
  | cons v rest ih =>
      have hpart : Parts ']' false
          (prettyChars (level + 1) v :: rest.map (prettyChars (level + 1)))
          ((',' :: newline (level + 1)) ++ (prettyChars (level + 1) v ++ prettyItems level rest)) :=
        .part (lead_newline (level + 1)) ih
      simpa [prettyItems] using hpart

theorem parts_prettyMembers (level : Nat) (members : List (String × Json)) :
    Parts '\x7d' false (members.map (prettyMember (level + 1))) (prettyMembers level members) := by
  induction members with
  | nil => exact .done (gap_newline level)
  | cons m rest ih =>
      have hpart : Parts '\x7d' false
          (prettyMember (level + 1) m :: rest.map (prettyMember (level + 1)))
          ((',' :: newline (level + 1)) ++
            (prettyMember (level + 1) m ++ prettyMembers level rest)) :=
        .part (lead_newline (level + 1)) ih
      simpa [prettyMembers, prettyMember] using hpart

/-- The text of an array behind its bracket; it has no line break if the array is empty. -/
theorem exists_parts_arr (level : Nat) (items : List Json) :
    ∃ text, prettyChars level (.arr items) = '[' :: text ∧
      Parts ']' true (items.map (prettyChars (level + 1))) text := by
  cases items with
  | nil => exact ⟨[']'], by rw [prettyChars], .done Gap.nil⟩
  | cons v rest =>
      refine ⟨_, ?_, .part (.first (gap_newline (level + 1))) (parts_prettyItems level rest)⟩
      rw [prettyChars]
      simp

theorem exists_parts_obj (level : Nat) (members : List (String × Json)) :
    ∃ text, prettyChars level (.obj members) = '\x7b' :: text ∧
      Parts '\x7d' true (members.map (prettyMember (level + 1))) text := by
  cases members with
  | nil => exact ⟨['\x7d'], by rw [prettyChars], .done Gap.nil⟩
  | cons m rest =>
      refine ⟨_, ?_, .part (.first (gap_newline (level + 1))) (parts_prettyMembers level rest)⟩
      rw [prettyChars]
      simp [prettyMember]

/-! ## The text of a value -/

/-- **The pretty text of a value spells it**, however deeply it is indented. -/
theorem Printable.spells {v : Json} (h : Printable v) (level : Nat) :
    Spells v (prettyChars level v) := by
  induction h generalizing level with
  | null =>
      rw [prettyChars]
      exact .null
  | bool b =>
      rw [prettyChars]
      exact .bool b
  | int hi =>
      rw [prettyChars]
      exact .number (numeralText_integerText _) (value?_numeralOf hi)
  | str s =>
      rw [prettyChars, quote]
      exact .str (stringText_escapes _)
  | @arr items _ ih =>
      obtain ⟨text, htext, hparts⟩ := exists_parts_arr level items
      have hitems := @Spells.arr (items.map fun v => (v, prettyChars (level + 1) v)) text
        (List.forall_mem_map.mpr fun v hv => ih v hv (level + 1))
        (by simpa [Function.comp_def] using hparts)
      rw [htext]
      simpa [Function.comp_def] using hitems
  | @obj members _ ih =>
      obtain ⟨text, htext, hparts⟩ := exists_parts_obj level members
      have hmembers := @Spells.obj
        (members.map fun m =>
          ⟨m.1, m.2, prettyChars (level + 1) m.2, prettyMember (level + 1) m⟩) text
        (List.forall_mem_map.mpr fun m _ => keyed_prettyMember (level + 1) m)
        (List.forall_mem_map.mpr fun m hm => ih m hm (level + 1))
        (by simpa [Function.comp_def] using hparts)
      rw [htext]
      simpa [Function.comp_def] using hmembers

/-- **A pretty text gives its value back**, with its members sorted. -/
theorem Printable.parse?_pretty {v : Json} (h : Printable v) (hdepth : depth v ≤ maxDepth) :
    parse? v.pretty = some v.sorted := by
  refine Spells.parse?_eq ?_ hdepth
  rw [pretty, String.toList_ofList]
  exact h.spells 0

/-- An array without items has no line break in it. -/
example : (Json.obj [("results", .arr [])]).pretty = "\x7b\n  \"results\": []\n\x7d" := by decide

end Linkage.Json
