import Linkage.Proofs.FieldText
import Linkage.Proofs.Json.Skipping

/-!
# Texts that are read as entries

A text that is read as an entry is an object whose members come in any order, with
members that no entry has among them, or an array of one value for each field. In both
cases its form is a list of parts, in the order in which they are written (`EntryText`).

The form says all that a reader takes from a text: an entry that is read has the fields
that the parts tell, and every other field as it is in the blank entry
(`EntryText.tells`). And every text that is read has a form (`exists_entryText`). The
state that is carried through the members is the draft: its fields are those told by the
parts so far, and it has seen the fields of these parts (`Drafts`).
-/

namespace Linkage.Log.Entry

open Linkage.Json (Gap Spells Passed Keyed Parts EndsNumeral Takes Gives exists_of_bind)

/-- A member at the top of a text: a field with a value as it is written, or no field. -/
inductive Part
  | known (f : Field) (w : Json)
  | unknown (key : String)

/-- The text of a member at the top of a text. -/
inductive PartText : Part → List Char → Prop where
  | known {f : Field} {w : Json} {text chars : List Char} : Keyed f.key text chars →
      Spells w text → PartText (.known f w) chars
  | unknown {key : String} {text chars : List Char} : Field.ofKey? key = none →
      Keyed key text chars → Passed text → PartText (.unknown key) chars

/-- The text of an entry with these parts, in either form. -/
inductive EntryText : List Part → List Char → Prop where
  | object {parts : List (Part × List Char)} {before body after : List Char} :
      Gap before → Gap after → (∀ p ∈ parts, PartText p.1 p.2) →
      Parts '\x7d' true (parts.map Prod.snd) body →
      EntryText (parts.map Prod.fst) (before ++ '\x7b' :: (body ++ after))
  | positions {values : List (Json × List Char)} {before body after : List Char} :
      Gap before → Gap after → values.length = Field.all.length →
      (∀ v ∈ values, Spells v.1 v.2) → Parts ']' true (values.map Prod.snd) body →
      EntryText ((Field.all.zip (values.map Prod.fst)).map fun p => .known p.1 p.2)
        (before ++ '[' :: (body ++ after))

/-- The entry has the fields that the parts tell, and no others than a blank entry. -/
structure Tells (parts : List Part) (e : Entry) : Prop where
  known : ∀ {f w}, Part.known f w ∈ parts → e.value? f = f.taken w
  absent : ∀ {f}, (∀ w, Part.known f w ∉ parts) → e.value? f = blank.value? f

/-! ## Members -/

/-- The draft has got what the parts tell, and has seen their fields. -/
structure Drafts (parts : List Part) (d : Draft) : Prop where
  tells : Tells parts d.entry
  seen : ∀ {f}, f ∈ d.seen ↔ ∃ w, Part.known f w ∈ parts

variable {parts : List Part} {d : Draft} {size : Nat} {cs rest rest' : List Char}

theorem drafts_blank : Drafts [] {} where
  tells := ⟨fun h => absurd h (by simp), fun _ => rfl⟩
  seen := by simp

theorem Drafts.unknown (h : Drafts parts d) (key : String) :
    Drafts (parts ++ [.unknown key]) d := by
  have hmem (f : Field) (w : Json) :
      Part.known f w ∈ parts ++ [.unknown key] ↔ Part.known f w ∈ parts := by simp
  refine ⟨⟨fun hp => h.tells.known ((hmem _ _).mp hp), fun hp => h.tells.absent ?_⟩, ?_⟩
  · intro w hw
    exact hp w ((hmem _ _).mpr hw)
  · intro f
    simp only [hmem, h.seen]

/-- A field that is read for the first time. -/
theorem Drafts.known (h : Drafts parts d) {f : Field} {w : Json} {e : Entry} (hnew : f ∉ d.seen)
    (hvalue : e.value? f = f.taken w) (hadopt : e = e.adopt d.entry f) :
    Drafts (parts ++ [.known f w]) ⟨e, f :: d.seen⟩ := by
  have hothers {g : Field} (hg : g ≠ f) : e.value? g = d.entry.value? g := by
    rw [hadopt, value?_adopt_of_ne hg]
  -- the fields of the parts so far have been seen, and this one has not
  have hold {g : Field} {v : Json} (hp : Part.known g v ∈ parts) : g ≠ f := by
    rintro rfl
    exact hnew (h.seen.mpr ⟨v, hp⟩)
  refine ⟨⟨fun hp => ?_, fun hp => ?_⟩, ?_⟩
  · rcases List.mem_append.mp hp with hp | hp
    · exact (hothers (hold hp)).trans (h.tells.known hp)
    · cases List.mem_singleton.mp hp
      exact hvalue
  · rename_i g
    have hg : g ≠ f := by
      rintro rfl
      exact hp w (by simp)
    exact (hothers hg).trans (h.tells.absent fun v hv => hp v (by simp [hv]))
  · intro g
    rw [List.mem_cons, h.seen]
    constructor
    · rintro (rfl | ⟨v, hv⟩)
      · exact ⟨w, by simp⟩
      · exact ⟨v, by simp [hv]⟩
    · rintro ⟨v, hv⟩
      rcases List.mem_append.mp hv with hv | hv
      · exact .inr ⟨v, hv⟩
      · cases List.mem_singleton.mp hv
        exact .inl rfl

theorem key_of_ofKey? {key : String} {f : Field} (h : Field.ofKey? key = some f) : key = f.key := by
  have hfound := List.find?_some h
  exact (decide_eq_true_iff.mp hfound).symm

theorem readMember_known {f : Field} {text chars : List Char} (hkey : Keyed f.key text chars)
    (size : Nat) (d : Draft) (rest : List Char) : ∃ after, Gap after ∧
      readMember size d (chars ++ rest) =
        if f ∈ d.seen then .error (.refused (.repeated f.key))
        else do
          let (e, rest) ← readField size f d.entry (after ++ (text ++ rest))
          return (⟨e, f :: d.seen⟩, rest) := by
  obtain ⟨raw, before, after, hraw, hbefore, hafter, rfl⟩ := hkey
  refine ⟨after, hafter, ?_⟩
  simp only [List.cons_append, List.append_assoc, readMember, Json.readString_text hraw,
    Json.ok_bind, ofKey?_key, Json.readMark_gap (by decide : Json.isGap ':' = false) hbefore]

theorem readMember_unknown {key : String} {text chars : List Char}
    (hunknown : Field.ofKey? key = none) (hkey : Keyed key text chars) (size : Nat) (d : Draft)
    (rest : List Char) : ∃ after, Gap after ∧
      readMember size d (chars ++ rest) = do
        return (d, ← Json.skipValue size (after ++ (text ++ rest))) := by
  obtain ⟨raw, before, after, hraw, hbefore, hafter, rfl⟩ := hkey
  refine ⟨after, hafter, ?_⟩
  simp only [List.cons_append, List.append_assoc, readMember, Json.readString_text hraw,
    Json.ok_bind, hunknown, Json.readMark_gap (by decide : Json.isGap ':' = false) hbefore]

/-- A member is taken as it is written. -/
theorem takes_part {p : Part × List Char} (h : PartText p.1 p.2) :
    Takes '\x7d' (readMember size) Prod.snd (fun done d => Drafts (done.map Prod.fst) d) p := by
  obtain ⟨part, chars⟩ := p
  dsimp only at h
  cases h with
  | @known f w text _ hkey hw =>
      refine ⟨Json.labelled_begins hkey, ?_⟩
      intro done d d' rest rest' hd hends hread
      obtain ⟨after, hafter, hmember⟩ := readMember_known hkey size d rest
      rw [hmember] at hread
      split at hread
      case isTrue => cases hread
      case isFalse hnew =>
        obtain ⟨⟨e, left⟩, hfield, heq⟩ := exists_of_bind hread
        cases heq
        obtain ⟨hvalue, hadopt, rfl⟩ := readField_spelled hafter hw hends hfield
        rw [List.map_append]
        exact ⟨hd.known hnew hvalue hadopt, rfl⟩
  | @unknown key text _ hunknown hkey hpassed =>
      refine ⟨Json.labelled_begins hkey, ?_⟩
      intro done d d' rest rest' hd hends hread
      obtain ⟨after, hafter, hmember⟩ := readMember_unknown hunknown hkey size d rest
      rw [hmember, Json.skipValue_gap hafter] at hread
      obtain ⟨left, hskip, heq⟩ := exists_of_bind hread
      cases heq
      rw [List.map_append]
      exact ⟨hd.unknown key, hpassed.skipValue hends hskip⟩

/-- What is read as a member is the text of a part. -/
theorem gives_part : Gives (readMember size) Prod.snd
    (fun (_ : List (Part × List Char)) d => d.entry.Shallow) fun p => PartText p.1 p.2 where
  gives := by
    intro done d d' cs rest hd hstart hread
    unfold readMember at hread
    split at hread
    case h_1 left =>
      obtain ⟨⟨key, left₁⟩, hstring, hmember⟩ := exists_of_bind hread
      obtain ⟨raw, rfl, hraw⟩ := Json.exists_of_readString hstring
      dsimp only at hmember
      split at hmember
      case h_1 hunknown =>
        obtain ⟨left₂, hmark, hvalue⟩ := exists_of_bind hmember
        obtain ⟨left₃, hskip, heq⟩ := exists_of_bind hvalue
        cases heq
        obtain ⟨text, htext, hpassed⟩ := Json.exists_passed hskip
        obtain ⟨chars, hkey, hchars⟩ := Json.exists_keyed hraw hmark htext
        exact ⟨(.unknown key, chars), .unknown hunknown hkey hpassed, hchars, hd⟩
      case h_2 f hf =>
        split at hmember
        case isTrue => cases hmember
        case isFalse =>
          obtain ⟨left₂, hmark, hvalue⟩ := exists_of_bind hmember
          obtain ⟨⟨e, left₃⟩, hfield, heq⟩ := exists_of_bind hvalue
          cases heq
          obtain ⟨⟨w, text, hw, htext⟩, he⟩ := exists_of_readField hd hfield
          rw [key_of_ofKey? hf] at hraw
          obtain ⟨chars, hkey, hchars⟩ := Json.exists_keyed hraw hmark htext
          exact ⟨(.known f w, chars), .known hkey hw, hchars, he⟩
    case h_2 => cases hread

/-! ## The positional form -/

/-- The values of the positional form are taken for the fields in their order. -/
theorem readPositions_spelled {fields : List Field} {values : List (Json × List Char)}
    {index : Nat} {body : List Char} {d e : Entry} (hlength : values.length = fields.length)
    (hnodup : fields.Nodup) (hspells : ∀ v ∈ values, Spells v.1 v.2)
    (hparts : Parts ']' (index == 0) (values.map Prod.snd) body)
    (hread : readPositions size index d fields (body ++ rest) = .ok (e, rest')) :
    (∀ p ∈ fields.zip (values.map Prod.fst), e.value? p.1 = p.1.taken p.2) ∧
      ∀ g, g ∉ fields → e.value? g = d.value? g := by
  induction fields generalizing values index body d with
  | nil =>
      obtain ⟨left, -, heq⟩ := exists_of_bind hread
      cases heq
      exact ⟨by simp, fun g _ => rfl⟩
  | cons f fields ih =>
      obtain ⟨hf, hnodup⟩ := List.nodup_cons.mp hnodup
      cases values with
      | nil => cases hlength
      | cons v values =>
          obtain ⟨hv, hspells⟩ := List.forall_mem_cons.mp hspells
          cases hparts with
          | part hlead hparts =>
              rw [readPositions, List.append_assoc, List.append_assoc,
                Json.nextItem_lead Json.closes_bracket hlead hv.begins, Json.ok_bind] at hread
              obtain ⟨⟨e₁, left⟩, hfield, hread⟩ := exists_of_bind hread
              have hends := hparts.endsNumeral Json.closes_bracket rest
              have hnext : Parts ']' (index + 1 == 0) (values.map Prod.snd) _ := hparts
              obtain ⟨hvalue, hadopt, rfl⟩ := readField_spelled Json.Gap.nil hv hends hfield
              obtain ⟨hvalues, hothers⟩ := ih (Nat.succ.inj hlength) hnodup hspells hnext hread
              -- the fields behind this one are others, so it keeps the value that was read
              refine ⟨?_, ?_⟩
              · rw [List.map_cons, List.zip_cons_cons]
                refine List.forall_mem_cons.mpr ⟨?_, hvalues⟩
                exact (hothers f hf).trans hvalue
              · intro g hg
                rw [List.mem_cons, not_or] at hg
                rw [hothers g hg.2, hadopt, value?_adopt_of_ne hg.1]

theorem exists_of_readPositions {fields : List Field} {index : Nat} {d e : Entry}
    (hd : d.Shallow) (h : readPositions size index d fields cs = .ok (e, rest)) :
    (∃ values : List (Json × List Char), ∃ body, values.length = fields.length ∧
      (∀ v ∈ values, Spells v.1 v.2) ∧ Parts ']' (index == 0) (values.map Prod.snd) body ∧
      cs = body ++ rest) ∧ e.Shallow := by
  induction fields generalizing index d cs with
  | nil =>
      obtain ⟨left, hmark, heq⟩ := exists_of_bind h
      cases heq
      obtain ⟨gap, hgap, rfl⟩ := Json.exists_gap_of_readMark hmark
      exact ⟨⟨[], gap ++ [']'], rfl, by simp, .done hgap, by simp⟩, hd⟩
  | cons f fields ih =>
      rw [readPositions] at h
      obtain ⟨next, hnext, hstep⟩ := exists_of_bind h
      cases next with
      | done left => cases hstep
      | item left =>
          obtain ⟨hstart, lead, hlead, rfl⟩ := Json.exists_lead_of_nextItem hnext
          obtain ⟨⟨e₁, left₁⟩, hfield, hrest⟩ := exists_of_bind hstep
          obtain ⟨⟨w, text, hw, htext⟩, he₁⟩ := exists_of_readField hd hfield
          rw [hstart] at htext
          obtain ⟨⟨values, body, hlength, hspells, hparts, rfl⟩, he⟩ := ih he₁ hrest
          refine ⟨⟨(w, text) :: values, lead ++ (text ++ body), ?_, ?_, ?_, ?_⟩, he⟩
          · rw [List.length_cons, List.length_cons, hlength]
          · exact List.forall_mem_cons.mpr ⟨hw, hspells⟩
          · exact .part hlead hparts
          · rw [htext, List.append_assoc, List.append_assoc]

/-! ## Whole texts -/

theorem eq_entry_of_finish {e : Entry} (h : finish d = .ok e) : e = d.entry := by
  unfold finish at h
  split at h
  · cases h
  · exact (Except.ok.inj h).symm

theorem EntryText.tells_of_read {e : Entry} (h : EntryText parts cs)
    (hread : read size cs = .ok (e, rest)) : Tells parts e := by
  cases h with
  | object hbefore _ hspells hparts =>
      rw [read, Json.skipGap_append hbefore, Json.skipGap_cons (by decide)] at hread
      dsimp only at hread
      rw [if_neg (by decide), if_pos rfl] at hread
      obtain ⟨⟨d, left⟩, hmembers, hfinish⟩ := exists_of_bind hread
      obtain ⟨hdrafts, -⟩ := hparts.readItems Json.closes_brace
        (fun p hp => takes_part (hspells p hp)) drafts_blank hmembers
      obtain ⟨e', hentry, heq⟩ := exists_of_bind hfinish
      cases heq
      rw [eq_entry_of_finish hentry]
      exact hdrafts.tells
  | @positions values _ _ _ hbefore _ hlength hspells hparts =>
      rw [read, Json.skipGap_append hbefore, Json.skipGap_cons (by decide)] at hread
      dsimp only at hread
      rw [if_pos rfl] at hread
      have hfirst : Parts ']' (0 == 0) (values.map Prod.snd) _ := hparts
      obtain ⟨hvalues, -⟩ := readPositions_spelled hlength (by decide) hspells hfirst hread
      refine ⟨fun hknown => ?_, fun {f} habsent => ?_⟩
      · obtain ⟨p, hp, heq⟩ := List.mem_map.mp hknown
        cases heq
        exact hvalues p hp
      · -- there is a value for every field
        have hfields : f ∈ (Field.all.zip (values.map Prod.fst)).map Prod.fst := by
          rw [List.map_fst_zip (by rw [List.length_map, hlength])]
          cases f
          all_goals decide
        obtain ⟨p, hp, rfl⟩ := List.mem_map.mp hfields
        exact absurd (List.mem_map.mpr ⟨p, hp, rfl⟩) (habsent p.2)

theorem parse_eq_ok {s : String} {e : Entry} (h : parse s = .ok e) :
    ∃ rest, read s.length s.toList = .ok (e, rest) ∧ Gap rest := by
  obtain ⟨⟨e', rest⟩, hread, hend⟩ := exists_of_bind h
  unfold Json.endOfText at hend
  split at hend
  · rename_i hrest
    cases hend
    exact ⟨rest, hread, Json.skipGap_eq_nil_iff.mp hrest⟩
  · cases hend

/-- **The form of a text tells the entry** that is read from it. -/
theorem EntryText.tells {s : String} {e : Entry} (h : EntryText parts s.toList)
    (hparse : parse s = .ok e) : Tells parts e := by
  obtain ⟨rest, hread, -⟩ := parse_eq_ok hparse
  exact h.tells_of_read hread

/-- **Every text that is read has a form**, and its details are not nested too deeply. -/
theorem exists_entryText {s : String} {e : Entry} (h : parse s = .ok e) :
    (∃ parts, EntryText parts s.toList) ∧ e.Shallow := by
  obtain ⟨rest, hread, hrest⟩ := parse_eq_ok h
  obtain ⟨gap, hgap, htext⟩ := Json.exists_gap s.toList
  have hblank : blank.Shallow := fun v hv => by cases hv
  unfold read at hread
  split at hread
  · cases hread
  · rename_i c left hleft
    rw [hleft] at htext
    split at hread
    case isTrue hc =>
      subst hc
      obtain ⟨⟨values, body, hlength, hspells, hparts, rfl⟩, he⟩ :=
        exists_of_readPositions hblank hread
      rw [htext]
      exact ⟨⟨_, .positions hgap hrest hlength hspells hparts⟩, he⟩
    case isFalse =>
    split at hread
    case isTrue hc =>
      subst hc
      obtain ⟨⟨d, left'⟩, hmembers, hfinish⟩ := exists_of_bind hread
      obtain ⟨e', hentry, heq⟩ := exists_of_bind hfinish
      cases heq
      obtain ⟨ps, body, hspells, rfl, hparts, he⟩ := gives_part.readItems hblank hmembers
      rw [htext, eq_entry_of_finish hentry]
      exact ⟨⟨_, .object hgap hrest hspells hparts⟩, he⟩
    case isFalse => exact absurd hread (refuse_ne_ok "struct LogEntry" _ _)

end Linkage.Log.Entry
