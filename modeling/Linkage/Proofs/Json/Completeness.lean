import Linkage.Proofs.Json.Reading

/-!
# Every spelling is read

A text that spells a value is read as that value, if its containers are nested no deeper
than the reader goes and the text is no longer than the reader was told. What is read is
known already, provided that something is (`Spells.readValue`), so it is left to show
that the reader never stops before the end. It is asked for the parts of a container one
by one, and there are no more of these than the text has characters.
-/

namespace Linkage.Json

variable {ε : Type} {close : Char} {first : Bool}

/-! ## Parts and their text -/

theorem Begins.length_pos {part : List Char} (h : Begins close part) : 0 < part.length := by
  obtain ⟨c, cs, rfl, -, -⟩ := h
  simp

/-- A container has more characters than parts. -/
theorem Parts.length_lt {parts : List (List Char)} {text : List Char}
    (h : Parts close first parts text) (hparts : ∀ part ∈ parts, 0 < part.length) :
    parts.length < text.length := by
  induction h with
  | done _ => simp
  | @part _ lead part text parts _ _ ih =>
      have hpart : 0 < part.length := hparts part (by simp)
      have hrest := ih fun p hp => hparts p (by simp [hp])
      simp only [List.length_cons, List.length_append]
      omega

/-- A part is no longer than the container. -/
theorem Parts.length_le {parts : List (List Char)} {text : List Char}
    (h : Parts close first parts text) {part : List Char} (hpart : part ∈ parts) :
    part.length ≤ text.length := by
  induction h with
  | done _ => exact absurd hpart (by simp)
  | part _ _ ih =>
      simp only [List.length_append]
      rcases List.mem_cons.mp hpart with rfl | hmem
      · omega
      · have hrest := ih hmem
        omega

/-! ## The loop goes on to the end -/

section Loop

variable {σ α : Type} {item : σ → Reader ε σ} {part : α → List Char}

/-- A part that the reader never stops at: it goes on right behind it. -/
structure Accepts (close : Char) (item : σ → Reader ε σ) (part : α → List Char) (x : α) :
    Prop where
  begins : Begins close (part x)
  accepts : ∀ s {rest}, EndsNumeral rest → ∃ s', item s (part x ++ rest) = .ok (s', rest)

theorem Parts.exists_foldItems (hclose : Closes close) {xs : List α} {text : List Char}
    (h : Parts close first (xs.map part) text) (haccepts : ∀ x ∈ xs, Accepts close item part x)
    {bound : Nat} (hbound : xs.length < bound) (s : σ) (rest : List Char) :
    ∃ s', Json.foldItems close item bound first s (text ++ rest) = .ok (s', rest) := by
  induction xs generalizing first text bound s with
  | nil =>
      obtain ⟨bound, rfl⟩ : ∃ n, bound = n + 1 := ⟨bound - 1, by simp at hbound; omega⟩
      cases h with
      | done hgap =>
          rw [Json.foldItems, List.append_assoc, List.singleton_append,
            nextItem_gap_close hclose hgap]
          exact ⟨s, rfl⟩
  | cons x xs ih =>
      obtain ⟨bound, rfl⟩ : ∃ n, bound = n + 1 := ⟨bound - 1, by simp at hbound; omega⟩
      cases h with
      | @part _ lead _ text _ hlead hparts =>
          obtain ⟨hbegins, haccept⟩ := haccepts x (by simp)
          obtain ⟨s₁, hitem⟩ := haccept s (hparts.endsNumeral hclose rest)
          rw [Json.foldItems, List.append_assoc, List.append_assoc,
            nextItem_lead hclose hlead hbegins, ok_bind]
          simp only [hitem, ok_bind]
          exact ih hparts (fun y hy => haccepts y (by simp [hy])) (by simpa using hbound) s₁

/-- **A container is read to its end** if its text is no longer than the reader was told. -/
theorem Parts.exists_readItems (hclose : Closes close) {xs : List α} {text : List Char}
    (h : Parts close true (xs.map part) text) (haccepts : ∀ x ∈ xs, Accepts close item part x)
    {size : Nat} (hsize : text.length ≤ size) (s : σ) (rest : List Char) :
    ∃ s', Json.readItems size close item s (text ++ rest) = .ok (s', rest) := by
  have hlt := h.length_lt fun p hp => by
    obtain ⟨x, hx, rfl⟩ := List.mem_map.mp hp
    exact (haccepts x hx).begins.length_pos
  rw [List.length_map] at hlt
  exact h.exists_foldItems hclose haccepts (by omega) s rest

end Loop

/-! ## Values -/

variable {size levels : Nat}

/-- The reader takes the text for this value, and goes on right behind it. -/
def IsReadAs (ε : Type) (size levels : Nat) (text : List Char) (v : Json) : Prop :=
  ∀ rest, EndsNumeral rest → readValue (ε := ε) size levels (text ++ rest) = .ok (v, rest)

/-- A text that is taken as a value in any case is read as it, if it is read. -/
theorem isReadAs_of_takenAs {text : List Char} {v : Json} (h : TakenAs ε size levels text v)
    (hread : ∀ rest, EndsNumeral rest →
      ∃ r, readValue (ε := ε) size levels (text ++ rest) = .ok r) :
    IsReadAs ε size levels text v := by
  intro rest hrest
  obtain ⟨⟨v', rest'⟩, hr⟩ := hread rest hrest
  obtain ⟨rfl, rfl⟩ := h hrest hr
  exact hr

theorem accepts_item {p : Json × List Char} (hp : Spells p.1 p.2)
    (hread : IsReadAs ε size levels p.2 p.1.sorted) :
    Accepts ']' (readItem (ε := ε) size levels) Prod.snd p where
  begins := hp.begins
  accepts items rest hrest := by
    rw [readItem, hread rest hrest]
    exact ⟨_, rfl⟩

theorem accepts_member {m : Written} (hkey : Keyed m.key m.text m.chars)
    (hread : IsReadAs ε size levels m.text m.value.sorted) :
    Accepts '\x7d' (readMember (ε := ε) size levels) Written.chars m where
  begins := labelled_begins hkey
  accepts got rest hrest := by
    obtain ⟨after, hafter, hreadkey⟩ := hkey.readKey (ε := ε) rest
    rw [readMember, hreadkey, ok_bind]
    simp only [readValue_gap hafter, hread rest hrest]
    exact ⟨_, rfl⟩

theorem Keyed.length_le {key : String} {text chars : List Char} (h : Keyed key text chars) :
    text.length ≤ chars.length := by
  obtain ⟨raw, before, after, -, -, -, rfl⟩ := h
  simp only [List.length_cons, List.length_append]
  omega

/-- **A spelled value is read**, with its members sorted, if it is not nested too deeply. -/
theorem Spells.isReadAs {w : Json} {text : List Char} (h : Spells w text)
    (hdepth : depth w ≤ levels) (hsize : text.length ≤ size) :
    IsReadAs ε size levels text w.sorted := by
  induction h generalizing levels with
  | null => exact readsBack_null
  | bool b => exact readsBack_bool b
  | number htext hv =>
      refine isReadAs_of_takenAs (Spells.number htext hv).readValue fun rest hrest => ?_
      have hread := htext.readNumber (ε := ε) hv hrest
      obtain ⟨c, cs, rfl, hstart⟩ := htext.begins
      exact ⟨_, (readValue_of_startsNumber hstart _).trans hread⟩
  | str hraw =>
      refine isReadAs_of_takenAs (Spells.str hraw).readValue fun rest _ => ?_
      rw [List.cons_append, List.append_assoc, readValue_quote, List.singleton_append,
        readString_text hraw]
      exact ⟨_, rfl⟩
  | @arr items text hitems hparts ih =>
      rw [depth] at hdepth
      obtain ⟨levels, rfl⟩ : ∃ n, levels = n + 1 := ⟨levels - 1, by omega⟩
      have hlength : text.length ≤ size := Nat.le_of_succ_le hsize
      have haccepts : ∀ p ∈ items, Accepts ']' (readItem (ε := ε) size levels) Prod.snd p := by
        intro p hp
        have hlevel := depth_le_depthItems (List.mem_map_of_mem (f := Prod.fst) hp)
        have hpart := hparts.length_le (List.mem_map_of_mem hp)
        exact accepts_item (hitems p hp) (ih p hp (by omega) (by omega))
      refine isReadAs_of_takenAs (Spells.arr hitems hparts).readValue fun rest _ => ?_
      obtain ⟨got, hgot⟩ := hparts.exists_readItems closes_bracket haccepts hlength [] rest
      rw [List.cons_append, readValue_bracket, hgot]
      exact ⟨_, rfl⟩
  | @obj members text hkeys hvalues hparts ih =>
      rw [depth] at hdepth
      obtain ⟨levels, rfl⟩ : ∃ n, levels = n + 1 := ⟨levels - 1, by omega⟩
      have hlength : text.length ≤ size := Nat.le_of_succ_le hsize
      have haccepts : ∀ m ∈ members,
          Accepts '\x7d' (readMember (ε := ε) size levels) Written.chars m := by
        intro m hm
        have hlevel := depth_le_depthMembers
          (List.mem_map_of_mem (f := fun m : Written => (m.key, m.value)) hm)
        have hpart := hparts.length_le (List.mem_map_of_mem hm)
        have hvalue := (hkeys m hm).length_le
        refine accepts_member (hkeys m hm) (ih m hm ?_ (by omega))
        exact Nat.le_trans hlevel (by omega)
      refine isReadAs_of_takenAs (Spells.obj hkeys hvalues hparts).readValue fun rest _ => ?_
      obtain ⟨got, hgot⟩ := hparts.exists_readItems closes_brace haccepts hlength [] rest
      rw [List.cons_append, readValue_brace, hgot]
      exact ⟨_, rfl⟩

/-- **A text that spells a value holds that value**, with its members sorted. -/
theorem Spells.parse?_eq {w : Json} {s : String} (h : Spells w s.toList)
    (hdepth : depth w ≤ maxDepth) : parse? s = some w.sorted := by
  have hsize : s.toList.length ≤ s.length := Nat.le_of_eq String.length_toList
  have hread := h.isReadAs (ε := Empty) hdepth hsize [] fun _ hc => by cases hc
  rw [List.append_nil] at hread
  rw [parse?, hread]
  rfl

end Linkage.Json
