import Linkage.Proofs.EntryLine
import Linkage.Proofs.Json.Reading

/-!
# Values of fields as they may be written

A field takes its value from a JSON value in a text, and the reader for the field decides
which values it takes and what becomes of them: a null leaves a field absent that an entry
can lack, and a level may stand as the only key of an object (`Field.taken`). If the
reader takes a value at all, then the field is what `Field.taken` says, all other fields
are left alone, and reading stops right behind the value (`readField_spelled`).
-/

namespace Linkage.Log

open Linkage.Json (Gap Spells EndsNumeral Reader ReadError ok_bind exists_of_bind)

/--
What a field is when this value, as it is written, has been read for it; nothing if the
field is absent then.
-/
def Field.taken (f : Field) (w : Json) : Option Json :=
  match f, w.sorted with
  | .level, .obj [(name, .null)] => some (.str name)
  | _, .null => none
  | _, v => some v

namespace Entry

variable {size : Nat} {w : Json} {text gap cs rest rest' : List Char}

/-! ## Strings -/

theorem refuse_ne_ok {α : Type} (wanted : String) (cs : List Char) (a : α) :
    refuse wanted cs ≠ .ok a := by
  intro h
  obtain ⟨found, -, h⟩ := exists_of_bind h
  cases h

theorem skipGap_spelled (hgap : Gap gap) (hw : Spells w text) (rest : List Char) :
    Json.skipGap (gap ++ (text ++ rest)) = text ++ rest := by
  rw [Json.skipGap_append hgap, hw.skipGap_append]

theorem boolText_append_ne {b : Bool} {c : Char} (hc : c ≠ 't' ∧ c ≠ 'f') {left : List Char} :
    Json.boolText b ++ rest ≠ c :: left := by
  intro h
  cases b with
  | true => exact hc.1 (List.cons.inj h).1.symm
  | false => exact hc.2 (List.cons.inj h).1.symm

/-- A value that begins with a quote is a string. -/
theorem eq_str_of_quote (hw : Spells w text) {left : List Char} (h : text ++ rest = '"' :: left) :
    ∃ s raw, w = .str s ∧ Json.StringText raw s.toList ∧ left = raw ++ '"' :: rest := by
  cases hw with
  | null | arr | obj => exact absurd (List.cons.inj h).1 (by decide)
  | bool b => exact absurd h (boolText_append_ne (by decide))
  | number htext => exact absurd h (htext.append_ne (by decide) rest left)
  | @str s raw hraw =>
      have hleft : raw ++ ['"'] ++ rest = left := (List.cons.inj h).2
      exact ⟨s, raw, rfl, hraw, by rw [← hleft, List.append_assoc, List.singleton_append]⟩

/-- A value that begins like null is null. -/
theorem eq_null_of_letter (hw : Spells w text) {left : List Char}
    (h : text ++ rest = 'n' :: left) : w = .null ∧ left = "ull".toList ++ rest := by
  cases hw with
  | null => exact ⟨rfl, (List.cons.inj h).2.symm⟩
  | bool b => exact absurd h (boolText_append_ne (by decide))
  | number htext => exact absurd h (htext.append_ne (by decide) rest left)
  | str | arr | obj => exact absurd (List.cons.inj h).1 (by decide)

/-- A value that begins with a brace is an object. -/
theorem eq_obj_of_brace (hw : Spells w text) {left : List Char}
    (h : text ++ rest = '\x7b' :: left) :
    ∃ (members : List Json.Written) (body : List Char),
      w = .obj (members.map fun m => (m.key, m.value)) ∧
      (∀ m ∈ members, Json.Keyed m.key m.text m.chars) ∧ (∀ m ∈ members, Spells m.value m.text) ∧
      Json.Parts '\x7d' true (members.map Json.Written.chars) body ∧ left = body ++ rest := by
  cases hw with
  | null | str | arr => exact absurd (List.cons.inj h).1 (by decide)
  | bool b => exact absurd h (boolText_append_ne (by decide))
  | number htext => exact absurd h (htext.append_ne (by decide) rest left)
  | obj hkeys hvalues hparts =>
      exact ⟨_, _, rfl, hkeys, hvalues, hparts, (List.cons.inj h).2.symm⟩

theorem readText_spelled {wanted s : String} (hgap : Gap gap) (hw : Spells w text)
    (h : readText wanted (gap ++ (text ++ rest)) = .ok (s, rest')) : w = .str s ∧ rest' = rest := by
  rw [readText, skipGap_spelled hgap hw] at h
  split at h
  · rename_i left hleft
    obtain ⟨s', raw, rfl, hraw, rfl⟩ := eq_str_of_quote hw hleft
    rw [Json.readString_text hraw] at h
    cases h
    exact ⟨rfl, rfl⟩
  · exact absurd h (refuse_ne_ok wanted _ _)

theorem exists_of_readText {wanted s : String} (h : readText wanted cs = .ok (s, rest)) :
    ∃ text, Spells (.str s) text ∧ Json.skipGap cs = text ++ rest := by
  unfold readText at h
  split at h
  · rename_i left hleft
    obtain ⟨raw, rfl, hraw⟩ := Json.exists_of_readString h
    exact ⟨_, .str hraw, by simpa using hleft⟩
  · exact absurd h (refuse_ne_ok wanted _ _)

/-! ## Values that may be null -/

variable {α : Type} {read : Reader EntryProblem α} {a : Option α}

theorem readOptional_spelled (hgap : Gap gap) (hw : Spells w text)
    (h : readOptional read (gap ++ (text ++ rest)) = .ok (a, rest')) :
    (w = .null ∧ a = none ∧ rest' = rest) ∨
      w ≠ .null ∧ ∃ x, a = some x ∧ read (text ++ rest) = .ok (x, rest') := by
  rw [readOptional, skipGap_spelled hgap hw] at h
  split at h
  · rename_i left hleft
    obtain ⟨rfl, rfl⟩ := eq_null_of_letter hw hleft
    obtain ⟨⟨u, left'⟩, hword, heq⟩ := exists_of_bind h
    cases heq
    have hrest := List.append_cancel_left (Json.eq_of_readWord hword)
    exact .inl ⟨rfl, rfl, hrest.symm⟩
  · rename_i hletter
    obtain ⟨⟨x, left⟩, hread, heq⟩ := exists_of_bind h
    cases heq
    refine .inr ⟨?_, x, rfl, hread⟩
    -- no numeral stands for null, so only the word spells it
    rintro rfl
    cases hw with
    | null => exact hletter _ rfl
    | number _ hv =>
        rcases Json.fits_or_float hv with ⟨i, hnull, -⟩ | ⟨x, hnull⟩
        all_goals cases hnull

theorem exists_of_readOptional (h : readOptional read cs = .ok (a, rest)) :
    (a = none ∧ Json.skipGap cs = "null".toList ++ rest) ∨
      ∃ x, a = some x ∧ read (Json.skipGap cs) = .ok (x, rest) := by
  unfold readOptional at h
  split at h
  · rename_i left hleft
    obtain ⟨⟨u, left'⟩, hword, heq⟩ := exists_of_bind h
    cases heq
    refine .inl ⟨rfl, ?_⟩
    rw [hleft, Json.eq_of_readWord hword]
    rfl
  · obtain ⟨⟨x, left⟩, hread, heq⟩ := exists_of_bind h
    cases heq
    exact .inr ⟨x, rfl, hread⟩

/-! ## Levels -/

theorem eq_name_of_levelOfName {name : String} {level : Level}
    (h : levelOfName name = .ok level) : name = level.name := by
  unfold levelOfName at h
  split at h
  · rename_i level' hname
    cases h
    have hfound := List.find?_some hname
    simpa using (decide_eq_true_iff.mp hfound).symm
  · cases h

theorem readNull_spelled (hgap : Gap gap) (hw : Spells w text)
    (h : readNull (gap ++ (text ++ rest)) = .ok rest') : w = .null ∧ rest' = rest := by
  rw [readNull, skipGap_spelled hgap hw] at h
  split at h
  · rename_i left hleft
    obtain ⟨rfl, rfl⟩ := eq_null_of_letter hw hleft
    obtain ⟨⟨u, left'⟩, hword, heq⟩ := Json.exists_of_map h
    cases heq
    have hrest := List.append_cancel_left (Json.eq_of_readWord hword)
    exact ⟨rfl, hrest.symm⟩
  · exact absurd h (refuse_ne_ok "unit" _ _)

theorem exists_of_readNull (h : readNull cs = .ok rest) :
    Json.skipGap cs = "null".toList ++ rest := by
  unfold readNull at h
  split at h
  · rename_i left hleft
    obtain ⟨⟨u, left'⟩, hword, heq⟩ := Json.exists_of_map h
    cases heq
    rw [hleft, Json.eq_of_readWord hword]
    rfl
  · exact absurd h (refuse_ne_ok "unit" _ _)

/-- The only member of an object that stands for a level has a null behind its key. -/
theorem eq_singleton_of_level {members : List Json.Written} {body : List Char} {name : String}
    {left left' : List Char}
    (hkeys : ∀ m ∈ members, Json.Keyed m.key m.text m.chars)
    (hvalues : ∀ m ∈ members, Spells m.value m.text)
    (hparts : Json.Parts '\x7d' true (members.map Json.Written.chars) body)
    (hkey : readKey (body ++ rest) = .ok (name, cs))
    (hcolon : Json.readMark (ε := EntryProblem) ':' cs = .ok left)
    (hnull : readNull left = .ok left')
    (hbrace : Json.readMark (ε := EntryProblem) '\x7d' left' = .ok rest') :
    (∃ m, members = [m] ∧ m.key = name ∧ m.value = .null) ∧ rest' = rest := by
  cases members with
  | nil =>
      cases hparts with
      | done hgap =>
          rw [readKey, List.append_assoc, Json.skipGap_append hgap, List.singleton_append,
            Json.skipGap_cons (by decide)] at hkey
          cases hkey
  | cons m members =>
      cases hparts with
      | part hlead hrest =>
          cases hlead with
          | first hlead =>
              obtain ⟨raw, before, after, hraw, hbefore, hafter, hchars⟩ :=
                hkeys m (List.mem_cons_self ..)
              rw [hchars] at hkey
              simp only [readKey, List.append_assoc, Json.skipGap_append hlead, List.cons_append,
                Json.skipGap_cons (by decide : Json.isGap '"' = false), Json.readString_text hraw]
                at hkey
              cases hkey
              rw [Json.readMark_gap (by decide) hbefore] at hcolon
              cases hcolon
              obtain ⟨hvalue, rfl⟩ :=
                readNull_spelled hafter (hvalues m (List.mem_cons_self ..)) hnull
              -- the bracket stands right behind the null, so there is no second member
              obtain ⟨hnone, rfl⟩ := hrest.readMark Json.closes_brace hbrace
              rw [List.map_eq_nil_iff] at hnone
              exact ⟨⟨m, by rw [hnone], rfl, hvalue⟩, rfl⟩

theorem readLevel_spelled {level : Level} (hgap : Gap gap) (hw : Spells w text)
    (h : readLevel (gap ++ (text ++ rest)) = .ok (level, rest')) :
    Field.level.taken w = some (.str level.name) ∧ rest' = rest := by
  rw [readLevel, skipGap_spelled hgap hw] at h
  split at h
  · cases h
  · rename_i c left hleft
    split at h
    case isTrue hc =>
      subst hc
      obtain ⟨s, raw, rfl, hraw, rfl⟩ := eq_str_of_quote hw hleft
      rw [Json.readString_text hraw, ok_bind] at h
      obtain ⟨level', hname, heq⟩ := exists_of_bind h
      cases heq
      rw [eq_name_of_levelOfName hname]
      exact ⟨rfl, rfl⟩
    case isFalse =>
    split at h
    case isTrue hc =>
      subst hc
      obtain ⟨members, body, rfl, hkeys, hvalues, hparts, rfl⟩ := eq_obj_of_brace hw hleft
      obtain ⟨⟨name, left₁⟩, hkey, h⟩ := exists_of_bind h
      obtain ⟨level', hname, h⟩ := exists_of_bind h
      obtain ⟨left₂, hcolon, h⟩ := exists_of_bind h
      obtain ⟨left₃, hnull, h⟩ := exists_of_bind h
      obtain ⟨left₄, hbrace, heq⟩ := exists_of_bind h
      cases heq
      obtain ⟨⟨m, rfl, hkeyname, hvalue⟩, hrest⟩ :=
        eq_singleton_of_level hkeys hvalues hparts hkey hcolon hnull hbrace
      rw [List.map_singleton, hvalue, hkeyname, eq_name_of_levelOfName hname]
      exact ⟨rfl, hrest⟩
    case isFalse => cases h

theorem exists_of_readKey {name : String} (h : readKey cs = .ok (name, rest)) :
    ∃ gap raw, Gap gap ∧ Json.StringText raw name.toList ∧
      cs = gap ++ '"' :: (raw ++ '"' :: rest) := by
  obtain ⟨gap, hgap, hcs⟩ := Json.exists_gap cs
  unfold readKey at h
  split at h
  · rename_i left hleft
    obtain ⟨raw, rfl, hraw⟩ := Json.exists_of_readString h
    exact ⟨gap, raw, hgap, hraw, by rw [← hleft, ← hcs]⟩
  · cases h

theorem exists_of_readLevel {level : Level} (h : readLevel cs = .ok (level, rest)) :
    ∃ w text, Spells w text ∧ Json.skipGap cs = text ++ rest := by
  unfold readLevel at h
  split at h
  · cases h
  · rename_i c left hleft
    rw [hleft]
    split at h
    case isTrue hc =>
      obtain ⟨⟨name, left₁⟩, hstring, h⟩ := exists_of_bind h
      obtain ⟨level', -, heq⟩ := exists_of_bind h
      cases heq
      obtain ⟨raw, rfl, hraw⟩ := Json.exists_of_readString hstring
      exact ⟨.str name, _, .str hraw, by simp [hc]⟩
    case isFalse =>
    split at h
    case isTrue hc =>
      obtain ⟨⟨name, left₁⟩, hkey, h⟩ := exists_of_bind h
      obtain ⟨level', -, h⟩ := exists_of_bind h
      obtain ⟨left₂, hcolon, h⟩ := exists_of_bind h
      obtain ⟨left₃, hnull, h⟩ := exists_of_bind h
      obtain ⟨left₄, hbrace, heq⟩ := exists_of_bind h
      cases heq
      obtain ⟨gap, raw, hgap, hraw, rfl⟩ := exists_of_readKey hkey
      obtain ⟨chars, hkeyed, hchars⟩ := Json.exists_keyed hraw hcolon (exists_of_readNull hnull)
      obtain ⟨gap', hgap', rfl⟩ := Json.exists_gap_of_readMark hbrace
      have hspells := @Spells.obj [⟨name, .null, "null".toList, chars⟩] _
        (List.forall_mem_singleton.mpr hkeyed) (List.forall_mem_singleton.mpr .null)
        (.part (.first hgap) (.done hgap'))
      exact ⟨_, _, hspells, by simp [hc, hchars]⟩
    case isFalse => cases h

/-! ## The value of a field -/

theorem taken_eq_some {f : Field} (hf : f ≠ .level) (hw : w ≠ .null) :
    f.taken w = some w.sorted := by
  have hsorted : w.sorted ≠ .null := fun h => hw (Json.sorted_eq_null_iff.mp h)
  unfold Field.taken
  split
  · exact absurd rfl hf
  · exact absurd ‹_› hsorted
  · rfl

theorem taken_null {f : Field} : f.taken .null = none := by
  cases f
  all_goals rfl

/-- A field that is not adopted keeps its value. -/
theorem value?_adopt_of_ne {e d : Entry} {f g : Field} (h : g ≠ f) :
    (e.adopt d f).value? g = d.value? g := by
  cases f
  all_goals
    cases g
    all_goals simp_all [adopt, value?]

theorem readOptionalText_spelled {s : Option String} (hgap : Gap gap) (hw : Spells w text)
    (h : readOptional (readText "a string") (gap ++ (text ++ rest)) = .ok (s, rest')) :
    (∀ f : Field, f ≠ .level → s.map .str = f.taken w) ∧ rest' = rest := by
  rcases readOptional_spelled hgap hw h with ⟨rfl, rfl, hrest⟩ | ⟨hnull, x, rfl, hread⟩
  · exact ⟨fun f _ => taken_null.symm, hrest⟩
  · obtain ⟨rfl, hrest⟩ := readText_spelled Json.Gap.nil hw hread
    exact ⟨fun f hf => (taken_eq_some hf hnull).symm, hrest⟩

/-- **A field is read as it is spelled**, and no other field changes. -/
theorem readField_spelled {f : Field} {d e : Entry} (hgap : Gap gap) (hw : Spells w text)
    (hrest : EndsNumeral rest) (h : readField size f d (gap ++ (text ++ rest)) = .ok (e, rest')) :
    e.value? f = f.taken w ∧ e = e.adopt d f ∧ rest' = rest := by
  cases f with
  | timestamp | traceId | event =>
      obtain ⟨⟨s, left⟩, hread, heq⟩ := exists_of_bind h
      cases heq
      obtain ⟨rfl, rfl⟩ := readText_spelled hgap hw hread
      exact ⟨rfl, rfl, rfl⟩
  | level =>
      obtain ⟨⟨level, left⟩, hread, heq⟩ := exists_of_bind h
      cases heq
      obtain ⟨htaken, rfl⟩ := readLevel_spelled hgap hw hread
      exact ⟨htaken.symm, rfl, rfl⟩
  | platform | runtime | library | error =>
      obtain ⟨⟨s, left⟩, hread, heq⟩ := exists_of_bind h
      cases heq
      obtain ⟨htaken, rfl⟩ := readOptionalText_spelled hgap hw hread
      exact ⟨htaken _ (by decide), rfl, rfl⟩
  | details =>
      obtain ⟨⟨v, left⟩, hread, heq⟩ := exists_of_bind h
      cases heq
      rcases readOptional_spelled hgap hw hread with ⟨rfl, rfl, rfl⟩ | ⟨hnull, x, rfl, hvalue⟩
      · exact ⟨rfl, rfl, rfl⟩
      · obtain ⟨rfl, rfl⟩ := hw.readValue hrest hvalue
        exact ⟨(taken_eq_some (by decide) hnull).symm, rfl, rfl⟩

/-- The details are nested no deeper than a reader goes. -/
def Shallow (e : Entry) : Prop := ∀ v ∈ e.details, Json.depth v ≤ maxDetailsDepth

theorem exists_of_readOptionalText {s : Option String}
    (h : readOptional (readText "a string") cs = .ok (s, rest)) :
    ∃ w text, Spells w text ∧ Json.skipGap cs = text ++ rest := by
  rcases exists_of_readOptional h with ⟨-, hnull⟩ | ⟨x, -, hread⟩
  · exact ⟨.null, _, .null, hnull⟩
  · obtain ⟨text, htext, hcs⟩ := exists_of_readText hread
    rw [Json.skipGap_skipGap] at hcs
    exact ⟨.str x, text, htext, hcs⟩

/-- **What is read for a field is the text of a value.** -/
theorem exists_of_readField {f : Field} {d e : Entry} (hd : d.Shallow)
    (h : readField size f d cs = .ok (e, rest)) :
    (∃ w text, Spells w text ∧ Json.skipGap cs = text ++ rest) ∧ e.Shallow := by
  cases f with
  | timestamp | traceId | event =>
      obtain ⟨⟨s, left⟩, hread, heq⟩ := exists_of_bind h
      cases heq
      obtain ⟨text, htext, hcs⟩ := exists_of_readText hread
      exact ⟨⟨.str s, text, htext, hcs⟩, hd⟩
  | level =>
      obtain ⟨⟨level, left⟩, hread, heq⟩ := exists_of_bind h
      cases heq
      exact ⟨exists_of_readLevel hread, hd⟩
  | platform | runtime | library | error =>
      obtain ⟨⟨s, left⟩, hread, heq⟩ := exists_of_bind h
      cases heq
      exact ⟨exists_of_readOptionalText hread, hd⟩
  | details =>
      obtain ⟨⟨v, left⟩, hread, heq⟩ := exists_of_bind h
      cases heq
      rcases exists_of_readOptional hread with ⟨rfl, hnull⟩ | ⟨x, rfl, hvalue⟩
      · exact ⟨⟨.null, _, .null, hnull⟩, fun v hv => by cases hv⟩
      · obtain ⟨w, text, hw, hcs, rfl, hdepth⟩ := Json.exists_spelling hvalue
        rw [Json.skipGap_skipGap] at hcs
        refine ⟨⟨w, text, hw, hcs⟩, fun v hv => ?_⟩
        cases hv
        exact hdepth

end Entry

end Linkage.Log
