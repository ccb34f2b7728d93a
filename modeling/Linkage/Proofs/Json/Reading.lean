import Linkage.Proofs.Json.MemberOrder
import Linkage.Proofs.Json.Numerals

/-!
# Values as they may be written

`Spells w text` says that a text spells a value, whose members stand in the order in
which they are written. Reading such a text gives the value with its members sorted and
stops right behind it, if it gives a value at all, for containers may be nested too
deeply (`Spells.readValue`). And whatever is read has such a text in front
(`exists_spelling`).

The proof in the one direction follows the nesting of the value. In the other one it
follows the levels that the reader has left, which also bound how deeply the value is
nested.
-/

namespace Linkage.Json

variable {ε : Type} {cs rest gap : List Char}

/-- A member of an object as it is written. -/
structure Written where
  key : String
  value : Json
  /-- The text of the value. -/
  text : List Char
  /-- The text of the member. -/
  chars : List Char

/-- The text spells the value. -/
inductive Spells : Json → List Char → Prop where
  | null : Spells .null "null".toList
  | bool (b : Bool) : Spells (.bool b) (boolText b)
  | number {n : Numeral} {v : Json} {text : List Char} : NumeralText n text →
      n.value? = some v → Spells v text
  | str {s : String} {raw : List Char} : StringText raw s.toList →
      Spells (.str s) ('"' :: (raw ++ ['"']))
  | arr {items : List (Json × List Char)} {text : List Char} :
      (∀ p ∈ items, Spells p.1 p.2) → Parts ']' true (items.map Prod.snd) text →
      Spells (.arr (items.map Prod.fst)) ('[' :: text)
  | obj {members : List Written} {text : List Char} :
      (∀ m ∈ members, Keyed m.key m.text m.chars) → (∀ m ∈ members, Spells m.value m.text) →
      Parts '\x7d' true (members.map Written.chars) text →
      Spells (.obj (members.map fun m => (m.key, m.value))) ('\x7b' :: text)

/-! ## How a spelling begins -/

theorem Spells.begins {w : Json} {text : List Char} (h : Spells w text) : Begins ']' text := by
  cases h with
  | null => exact ⟨'n', _, rfl, by decide, by decide⟩
  | bool b =>
      cases b with
      | false => exact ⟨'f', _, rfl, by decide, by decide⟩
      | true => exact ⟨'t', _, rfl, by decide, by decide⟩
  | number htext _ =>
      obtain ⟨c, cs, rfl, hstart⟩ := htext.begins
      have hleads := leads_of_startsNumber hstart
      exact ⟨c, cs, rfl, hleads.no_gap, hleads.ne_bracket⟩
  | str _ => exact ⟨'"', _, rfl, by decide, by decide⟩
  | arr _ _ => exact ⟨'[', _, rfl, by decide, by decide⟩
  | obj _ _ _ => exact ⟨'\x7b', _, rfl, by decide, by decide⟩

theorem Spells.skipGap_append {w : Json} {text : List Char} (h : Spells w text)
    (rest : List Char) : skipGap (text ++ rest) = text ++ rest := by
  obtain ⟨c, cs, rfl, hgap, -⟩ := h.begins
  exact skipGap_cons hgap

theorem readValue_gap (h : Gap gap) (size levels : Nat) (cs : List Char) :
    readValue (ε := ε) size levels (gap ++ cs) = readValue size levels cs := by
  rw [readValue.eq_def, readValue.eq_def size levels cs]
  simp only [Json.skipGap_append h]

/-! ## Reading a spelling -/

theorem sorted_of_value? {n : Numeral} {v : Json} (h : n.value? = some v) : v.sorted = v := by
  rcases fits_or_float h with ⟨i, rfl, -⟩ | ⟨x, rfl⟩
  · rfl
  · rfl

variable {size levels : Nat}

theorem readValue_zero_bracket (cs : List Char) :
    readValue (ε := ε) size 0 ('[' :: cs) = .error .malformed := by
  rw [readValue.eq_def]
  rfl

theorem readValue_zero_brace (cs : List Char) :
    readValue (ε := ε) size 0 ('\x7b' :: cs) = .error .malformed := by
  rw [readValue.eq_def]
  rfl

/-- Reading takes the text for this value, if it takes it for a value at all. -/
def TakenAs (ε : Type) (size levels : Nat) (text : List Char) (v : Json) : Prop :=
  ∀ {rest rest' : List Char} {v' : Json}, EndsNumeral rest →
    readValue (ε := ε) size levels (text ++ rest) = .ok (v', rest') → v' = v ∧ rest' = rest

theorem takenAs_of_eq {text : List Char} {v : Json}
    (h : ∀ rest, EndsNumeral rest →
      readValue (ε := ε) size levels (text ++ rest) = .ok (v, rest)) :
    TakenAs ε size levels text v := by
  intro rest rest' v' hrest hread
  rw [h rest hrest] at hread
  cases hread
  exact ⟨rfl, rfl⟩

/-- The items that have been read, the last one in front, are these as they are written. -/
def GotItems (done : List (Json × List Char)) (items : List Json) : Prop :=
  items = (done.map fun p => p.1.sorted).reverse

/-- The members that have been read are these as they are written. -/
def GotMembers (done : List Written) (got : List (String × Json)) : Prop :=
  got = insertAll [] (done.map fun m => (m.key, m.value.sorted))

/-- The items of an array are taken as they are written. -/
theorem takes_item {p : Json × List Char} (hp : Spells p.1 p.2)
    (htaken : TakenAs ε size levels p.2 p.1.sorted) :
    Takes ']' (readItem (ε := ε) size levels) Prod.snd GotItems p where
  begins := hp.begins
  takes := by
    rintro done items items' rest rest' rfl hends hread
    obtain ⟨⟨v, left⟩, hvalue, heq⟩ := exists_of_bind hread
    obtain ⟨rfl, rfl⟩ := htaken hends hvalue
    cases heq
    exact ⟨by simp [GotItems], rfl⟩

/-- The members of an object are taken as they are written. -/
theorem takes_member {m : Written} (hkey : Keyed m.key m.text m.chars)
    (htaken : TakenAs ε size levels m.text m.value.sorted) :
    Takes '\x7d' (readMember (ε := ε) size levels) Written.chars GotMembers m where
  begins := labelled_begins hkey
  takes := by
    rintro done got got' rest rest' rfl hends hread
    obtain ⟨after, hafter, hreadkey⟩ := hkey.readKey (ε := ε) rest
    rw [readMember, hreadkey, ok_bind] at hread
    obtain ⟨⟨v, left⟩, hvalue, heq⟩ := exists_of_bind hread
    rw [readValue_gap hafter] at hvalue
    obtain ⟨rfl, rfl⟩ := htaken hends hvalue
    cases heq
    refine ⟨?_, rfl⟩
    rw [GotMembers, List.map_append, insertAll_append]
    rfl

theorem takenAs_arr {items : List (Json × List Char)} {text : List Char}
    (hparts : Parts ']' true (items.map Prod.snd) text)
    (htakes : ∀ p ∈ items, Takes ']' (readItem (ε := ε) size levels) Prod.snd GotItems p) :
    TakenAs ε size (levels + 1) ('[' :: text) (sorted (.arr (items.map Prod.fst))) := by
  intro rest rest' v hrest hread
  rw [List.cons_append, readValue_bracket] at hread
  obtain ⟨⟨got, left⟩, hitems, heq⟩ := exists_of_bind hread
  obtain ⟨rfl, rfl⟩ := hparts.readItems closes_bracket htakes rfl hitems
  cases heq
  refine ⟨?_, rfl⟩
  rw [sorted_arr, List.reverse_reverse, List.map_map]
  rfl

theorem takenAs_obj {members : List Written} {text : List Char}
    (hparts : Parts '\x7d' true (members.map Written.chars) text)
    (htakes : ∀ m ∈ members,
      Takes '\x7d' (readMember (ε := ε) size levels) Written.chars GotMembers m) :
    TakenAs ε size (levels + 1) ('\x7b' :: text)
      (sorted (.obj (members.map fun m => (m.key, m.value)))) := by
  intro rest rest' v hrest hread
  rw [List.cons_append, readValue_brace] at hread
  obtain ⟨⟨got, left⟩, hmembers, heq⟩ := exists_of_bind hread
  obtain ⟨rfl, rfl⟩ := hparts.readItems closes_brace htakes rfl hmembers
  cases heq
  refine ⟨?_, rfl⟩
  rw [sorted_obj, List.map_map]
  rfl

/-- **A value is read as it is spelled**, with its members sorted. -/
theorem Spells.readValue {w : Json} {text : List Char} (h : Spells w text) :
    TakenAs ε size levels text w.sorted := by
  induction h generalizing levels with
  | null => exact takenAs_of_eq readsBack_null
  | bool b => exact takenAs_of_eq (readsBack_bool b)
  | @number n v text htext hv =>
      refine takenAs_of_eq fun rest hrest => ?_
      have hread := htext.readNumber (ε := ε) hv hrest
      obtain ⟨c, cs, rfl, hstart⟩ := htext.begins
      rw [sorted_of_value? hv]
      exact (readValue_of_startsNumber hstart _).trans hread
  | @str s raw hraw =>
      refine takenAs_of_eq fun rest _ => ?_
      rw [List.cons_append, List.append_assoc, readValue_quote, List.singleton_append,
        readString_text hraw]
      rfl
  | arr hitems hparts ih =>
      -- a reader with no level left takes no container at all
      cases levels with
      | zero =>
          intro rest rest' v _ hread
          rw [List.cons_append, readValue_zero_bracket] at hread
          cases hread
      | succ levels => exact takenAs_arr hparts fun p hp => takes_item (hitems p hp) (ih p hp)
  | obj hkeys _ hparts ih =>
      cases levels with
      | zero =>
          intro rest rest' v _ hread
          rw [List.cons_append, readValue_zero_brace] at hread
          cases hread
      | succ levels => exact takenAs_obj hparts fun m hm => takes_member (hkeys m hm) (ih m hm)

/-! ## What is read has a spelling -/

/-- A text in front spells the value that has been read, and the reader goes that deep. -/
def HasSpelling (cs rest : List Char) (levels : Nat) (v : Json) : Prop :=
  ∃ w text, Spells w text ∧ cs = text ++ rest ∧ v = w.sorted ∧ depth v ≤ levels

theorem hasSpelling_of_word {c : Char} {word : List Char} {v v' : Json}
    (hspells : Spells v (c :: word)) (hsorted : v.sorted = v) (hdepth : depth v = 0)
    (h : (readWord (ε := ε) word cs >>= fun r => .ok (v, r.2)) = .ok (v', rest)) :
    HasSpelling (c :: cs) rest levels v' := by
  obtain ⟨⟨u, left⟩, hword, heq⟩ := exists_of_bind h
  cases heq
  rw [eq_of_readWord hword]
  exact ⟨v, c :: word, hspells, rfl, hsorted.symm, by omega⟩

theorem hasSpelling_of_string {v : Json}
    (h : readValue (ε := ε) size levels ('"' :: cs) = .ok (v, rest)) :
    HasSpelling ('"' :: cs) rest levels v := by
  rw [readValue_quote] at h
  obtain ⟨⟨s, left⟩, hstring, heq⟩ := exists_of_bind h
  cases heq
  obtain ⟨raw, rfl, hraw⟩ := exists_of_readString hstring
  exact ⟨.str s, _, .str hraw, by simp, rfl, Nat.zero_le _⟩

theorem hasSpelling_of_number {v : Json} (h : readNumber (ε := ε) cs = .ok (v, rest)) :
    HasSpelling cs rest levels v := by
  obtain ⟨n, text, rfl, htext, hv⟩ := exists_of_readNumber h
  refine ⟨v, text, .number htext hv, rfl, (sorted_of_value? hv).symm, ?_⟩
  rcases fits_or_float hv with ⟨i, rfl, -⟩ | ⟨x, rfl⟩
  · exact Nat.zero_le _
  · exact Nat.zero_le _

section Containers

variable (ih : ∀ {cs rest : List Char} {v : Json},
  readValue (ε := ε) size levels cs = .ok (v, rest) → HasSpelling (skipGap cs) rest levels v)
include ih

/-- An item that has been read is a value with a spelling. -/
theorem gives_item : Gives (readItem (ε := ε) size levels) Prod.snd GotItems
    fun p => Spells p.1 p.2 ∧ depth p.1.sorted ≤ levels where
  gives := by
    rintro done items items' cs rest rfl hstart hread
    obtain ⟨⟨v, left⟩, hvalue, heq⟩ := exists_of_bind hread
    obtain ⟨w, text, hw, hcs, rfl, hdepth⟩ := ih hvalue
    cases heq
    rw [hstart] at hcs
    exact ⟨(w, text), ⟨hw, hdepth⟩, hcs, by simp [GotItems]⟩

/-- A member that has been read is a key and a value with a spelling. -/
theorem gives_member : Gives (readMember (ε := ε) size levels) Written.chars GotMembers
    fun m => Keyed m.key m.text m.chars ∧ Spells m.value m.text ∧
      depth m.value.sorted ≤ levels where
  gives := by
    rintro done got got' cs rest rfl hstart hread
    obtain ⟨⟨key, left⟩, hkey, hread⟩ := exists_of_bind hread
    obtain ⟨⟨v, left'⟩, hvalue, heq⟩ := exists_of_bind hread
    obtain ⟨w, text, hw, hleft, rfl, hdepth⟩ := ih hvalue
    cases heq
    obtain ⟨chars, hkeyed, hcs⟩ := exists_of_readKey hkey hleft
    refine ⟨⟨key, w, text, chars⟩, ⟨hkeyed, hw, hdepth⟩, hcs, ?_⟩
    rw [GotMembers, List.map_append, insertAll_append]
    rfl

theorem hasSpelling_of_array {v : Json}
    (h : readValue (ε := ε) size (levels + 1) ('[' :: cs) = .ok (v, rest)) :
    HasSpelling ('[' :: cs) rest (levels + 1) v := by
  rw [readValue_bracket] at h
  obtain ⟨⟨got, left⟩, hitems, heq⟩ := exists_of_bind h
  cases heq
  obtain ⟨items, text, hspells, rfl, hparts, rfl⟩ := (gives_item ih).readItems rfl hitems
  refine ⟨_, _, .arr (fun p hp => (hspells p hp).1) hparts, rfl, ?_, ?_⟩
  · rw [sorted_arr, List.reverse_reverse, List.map_map]
    rfl
  · rw [List.reverse_reverse, depth, Nat.add_le_add_iff_right, depthItems_le_iff]
    intro v hv
    obtain ⟨p, hp, rfl⟩ := List.mem_map.mp hv
    exact (hspells p hp).2

theorem hasSpelling_of_object {v : Json}
    (h : readValue (ε := ε) size (levels + 1) ('\x7b' :: cs) = .ok (v, rest)) :
    HasSpelling ('\x7b' :: cs) rest (levels + 1) v := by
  rw [readValue_brace] at h
  obtain ⟨⟨got, left⟩, hmembers, heq⟩ := exists_of_bind h
  cases heq
  obtain ⟨members, text, hspells, rfl, hparts, rfl⟩ := (gives_member ih).readItems rfl hmembers
  refine ⟨_, _, .obj (fun m hm => (hspells m hm).1) (fun m hm => (hspells m hm).2.1) hparts,
    rfl, ?_, ?_⟩
  · rw [sorted_obj, List.map_map]
    rfl
  · rw [depth, Nat.add_le_add_iff_right, depthMembers_le_iff]
    intro n hn
    -- a member with a repeated key is lost, but each one that is kept was written
    have hwritten := (mem_of_mem_insertAll hn).resolve_left (by simp)
    obtain ⟨m, hm, rfl⟩ := List.mem_map.mp hwritten
    exact (hspells m hm).2.2

end Containers

theorem readValue_skipGap (size levels : Nat) (cs : List Char) :
    readValue (ε := ε) size levels (skipGap cs) = readValue size levels cs := by
  obtain ⟨gap, hgap, hcs⟩ := exists_gap cs
  conv_rhs => rw [hcs, readValue_gap hgap]

/-- Apart from containers, it does not matter how many levels are left. -/
theorem hasSpelling_of_containers {v : Json}
    (harray : ∀ {cs}, readValue (ε := ε) size levels ('[' :: cs) = .ok (v, rest) →
      HasSpelling ('[' :: cs) rest levels v)
    (hobject : ∀ {cs}, readValue (ε := ε) size levels ('\x7b' :: cs) = .ok (v, rest) →
      HasSpelling ('\x7b' :: cs) rest levels v)
    (h : readValue (ε := ε) size levels cs = .ok (v, rest)) :
    HasSpelling (skipGap cs) rest levels v := by
  rw [← readValue_skipGap] at h
  have hstart := skipGap_skipGap cs
  generalize skipGap cs = cs at h hstart ⊢
  -- the first character tells what is read; the containers need the reader unopened
  have hread := h
  rw [readValue.eq_def] at hread
  simp only [hstart] at hread
  split at hread
  case h_1 => cases hread
  case h_2 c left =>
    split at hread
    case isTrue hc =>
      subst hc
      exact hasSpelling_of_word .null rfl rfl hread
    case isFalse =>
    split at hread
    case isTrue hc =>
      subst hc
      exact hasSpelling_of_word (.bool true) rfl rfl hread
    case isFalse =>
    split at hread
    case isTrue hc =>
      subst hc
      exact hasSpelling_of_word (.bool false) rfl rfl hread
    case isFalse =>
    split at hread
    case isTrue hc =>
      subst hc
      exact hasSpelling_of_string h
    case isFalse =>
    split at hread
    case isTrue => exact hasSpelling_of_number hread
    case isFalse =>
    split at hread
    case isTrue hc =>
      subst hc
      exact harray h
    case isFalse =>
    split at hread
    case isTrue hc =>
      subst hc
      exact hobject h
    case isFalse => cases hread

/-- **What is read has a spelling**, and is nested no deeper than the reader goes. -/
theorem exists_spelling {v : Json} (h : readValue (ε := ε) size levels cs = .ok (v, rest)) :
    HasSpelling (skipGap cs) rest levels v := by
  induction levels generalizing cs v rest with
  | zero =>
      refine hasSpelling_of_containers (fun hread => ?_) (fun hread => ?_) h
      · rw [readValue_zero_bracket] at hread
        cases hread
      · rw [readValue_zero_brace] at hread
        cases hread
  | succ levels ih =>
      exact hasSpelling_of_containers (hasSpelling_of_array ih) (hasSpelling_of_object ih) h

/-! ## Values that can be read back -/

/-- **A value that has been read can be read back** if it holds no floating-point number. -/
theorem Spells.readable {w : Json} {text : List Char} (h : Spells w text)
    (hfree : FloatFree w.sorted) : Readable w.sorted := by
  induction h with
  | null => exact .null
  | bool b => exact .bool b
  | number htext hv =>
      rw [sorted_of_value? hv] at hfree ⊢
      rcases fits_or_float hv with ⟨i, rfl, hi⟩ | ⟨x, rfl⟩
      · exact .int hi
      · cases hfree
  | str _ => exact .str _
  | arr _ _ ih =>
      rw [sorted_arr] at hfree ⊢
      cases hfree with
      | arr hfree =>
          refine .arr fun v hv => ?_
          have hv' := hfree v hv
          rw [List.map_map] at hv
          obtain ⟨p, hp, rfl⟩ := List.mem_map.mp hv
          exact ih p hp hv'
  | obj _ _ _ ih =>
      rw [sorted_obj] at hfree ⊢
      cases hfree with
      | obj hfree =>
          refine .obj (sortedByKey_insertAll List.Pairwise.nil _) fun n hn => ?_
          have hn' := hfree n hn
          have hwritten := (mem_of_mem_insertAll hn).resolve_left (by simp)
          rw [List.map_map] at hwritten
          obtain ⟨m, hm, rfl⟩ := List.mem_map.mp hwritten
          exact ih m hm hn'

/-! ## The spelling of the printer -/

theorem stringText_escape (c : Char) {s : List Char} (h : StringText raw s) :
    StringText (escape c ++ raw) (c :: s) := by
  have hc := escaped c
  generalize escape c = cs at hc ⊢
  cases hc with
  | plain hquote hbackslash hle => exact .plain hquote hbackslash hle h
  | letter hx _ _ => exact .letter hx h
  | number hcontrol hunit _ =>
      have hchar := StringText.unit hunit (.inl (by omega)) h
      rwa [Char.ofNat_toNat] at hchar

theorem stringText_escapes (s : List Char) : StringText (s.flatMap escape) s := by
  induction s with
  | nil => exact .nil
  | cons c s ih => exact stringText_escape c ih

theorem keyed_quote (key : String) (text : List Char) :
    Keyed key text (quote key ++ ':' :: text) :=
  ⟨_, [], [], stringText_escapes _, Gap.nil, Gap.nil, by simp [quote]⟩

theorem numeralText_integerText (i : Int) : NumeralText (numeralOf i) (integerText i) := by
  have hdigits (n : Nat) : Digits (Linkage.Numeral.decimal n) :=
    ⟨Nat.toDigits_ne_nil, fun d hd => isDigit_of_mem_decimal hd⟩
  have hzero (n : Nat) : (Linkage.Numeral.decimal n).head? = some '0' →
      (Linkage.Numeral.decimal n).length = 1 := by
    intro hhead
    have hpos := List.length_pos_iff.mpr (hdigits n).1
    by_contra hne
    exact not_padded_decimal n (.inr ⟨hhead, by omega⟩)
  cases i with
  | ofNat n =>
      have htext := @NumeralText.mk false _ _ _ _ _ (hdigits n) (hzero n) .none .none
      rwa [List.append_nil, List.append_nil] at htext
  | negSucc n =>
      have htext := @NumeralText.mk true _ _ _ _ _ (hdigits (n + 1)) (hzero (n + 1)) .none .none
      rwa [List.append_nil, List.append_nil] at htext

theorem parts_joined (close : Char) (first : Bool) (parts : List (List Char)) :
    Parts close first parts (joined close first parts) := by
  induction parts generalizing first with
  | nil => exact .done Gap.nil
  | cons part parts ih =>
      rw [joined, List.append_assoc]
      cases first with
      | true => exact .part (.first Gap.nil) (ih false)
      | false => exact .part (.next Gap.nil Gap.nil) (ih false)

/-- What the printer writes for a value spells it. -/
theorem Readable.spells {v : Json} (h : Readable v) : Spells v (compactChars v) := by
  induction h with
  | null => exact .null
  | bool b => exact .bool b
  | int hi => exact .number (numeralText_integerText _) (value?_numeralOf hi)
  | str s =>
      rw [compactChars, quote]
      exact .str (stringText_escapes _)
  | @arr items _ ih =>
      have hitems := @Spells.arr (items.map fun v => (v, compactChars v)) _
        (List.forall_mem_map.mpr ih) (parts_joined ']' true _)
      rw [compactChars, compactItems_eq]
      simpa [Function.comp_def] using hitems
  | @obj members _ _ ih =>
      have hmembers := @Spells.obj
        (members.map fun m => ⟨m.1, m.2, compactChars m.2, memberChars m⟩) _
        (List.forall_mem_map.mpr fun m _ => keyed_quote m.1 (compactChars m.2))
        (List.forall_mem_map.mpr ih) (parts_joined '\x7d' true _)
      rw [compactChars, compactMembers_eq]
      simpa [Function.comp_def] using hmembers

end Linkage.Json
