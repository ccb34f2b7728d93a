import Linkage.Proofs.EntryText
import Mathlib

/-!
# Reading and writing again normalizes

A text that is read as an entry may be written in many ways, and the line of the entry
that was read is written in one. This line is read as the same entry, since all that a
reader gives can be read back: its details have sorted members, are nested no deeper
than the reader goes, and are never null.

Two texts have one line if they tell the same values for the same fields. Neither the
order of the members nor what is passed over tells anything (`Alike`).
-/

namespace Linkage.Log.Entry

open Linkage.Json (FloatFree Reordered Spells)

/-! ## An entry is determined by its fields -/

theorem name_injective {l l' : Level} (h : l.name = l'.name) : l = l' := by
  have hlevel := ofName?_name l
  rw [h, ofName?_name] at hlevel
  exact (Option.some.inj hlevel).symm

theorem map_str_injective {s s' : Option String} (h : s.map Json.str = s'.map Json.str) : s = s' :=
  Option.map_injective (fun _ _ => Json.str.inj) h

theorem eq_of_value?_eq {e e' : Entry} (h : ∀ f, e.value? f = e'.value? f) : e = e' := by
  have htext {s s' : String} (hs : some (Json.str s) = some (Json.str s')) : s = s' :=
    Json.str.inj (Option.some.inj hs)
  obtain ⟨timestamp, traceId, level, event, platform, runtime, library, error, details⟩ := e
  obtain ⟨timestamp', traceId', level', event', platform', runtime', library', error',
    details'⟩ := e'
  obtain rfl := htext (h .timestamp)
  obtain rfl := htext (h .traceId)
  obtain rfl := name_injective (htext (h .level))
  obtain rfl := htext (h .event)
  obtain rfl := map_str_injective (h .platform)
  obtain rfl := map_str_injective (h .runtime)
  obtain rfl := map_str_injective (h .library)
  obtain rfl := map_str_injective (h .error)
  obtain rfl : details = details' := h .details
  rfl

/-! ## Forms that tell the same -/

/-- The field of a part, with its value as it is written. -/
def Part.known? : Part → Option (Field × Json)
  | .known f w => some (f, w)
  | .unknown _ => none

/--
The forms differ only in the order of the members, in members that are passed over, and
in the order of members inside the values.
-/
def Alike (parts parts' : List Part) : Prop :=
  ∃ fields, (parts.filterMap Part.known?).Perm fields ∧
    List.Forall₂ (fun p q => p.1 = q.1 ∧ Reordered p.2 q.2) fields (parts'.filterMap Part.known?)

variable {parts parts' : List Part} {e e' : Entry}

/-- What the parts tell: the fields, each with what it is when its value has been read. -/
def told (parts : List Part) : List (Field × Option Json) :=
  (parts.filterMap Part.known?).map fun p => (p.1, p.1.taken p.2)

theorem mem_told_iff {f : Field} {v : Option Json} :
    (f, v) ∈ told parts ↔ ∃ w, Part.known f w ∈ parts ∧ f.taken w = v := by
  unfold told
  constructor
  · intro h
    obtain ⟨⟨g, w⟩, hmem, heq⟩ := List.mem_map.mp h
    obtain ⟨part, hpart, hknown⟩ := List.mem_filterMap.mp hmem
    cases heq
    cases part with
    | known g' w' =>
        cases hknown
        exact ⟨w, hpart, rfl⟩
    | unknown key => cases hknown
  · rintro ⟨w, hw, rfl⟩
    exact List.mem_map.mpr ⟨(f, w), List.mem_filterMap.mpr ⟨_, hw, rfl⟩, rfl⟩

theorem taken_eq_of_sorted_eq {f : Field} {w w' : Json} (h : w.sorted = w'.sorted) :
    f.taken w = f.taken w' := by
  unfold Field.taken
  rw [h]

/-- Alike forms tell the same, since what is told of a value depends on its sorted members. -/
theorem Alike.perm_told (h : Alike parts parts') : (told parts).Perm (told parts') := by
  obtain ⟨fields, hperm, hall⟩ := h
  have heq : fields.map (fun p => (p.1, p.1.taken p.2)) = told parts' := by
    rw [told, ← List.forall₂_eq_eq_eq, List.forall₂_map_left_iff, List.forall₂_map_right_iff]
    refine hall.imp fun p q hpq => ?_
    obtain ⟨hfield, hvalue⟩ := hpq
    rw [hfield, taken_eq_of_sorted_eq hvalue.sorted_eq]
  rw [← heq]
  exact hperm.map _

/-- **Alike forms tell one entry.** -/
theorem eq_of_alike (h : Tells parts e) (h' : Tells parts' e') (halike : Alike parts parts') :
    e = e' := by
  have hperm := halike.perm_told
  refine eq_of_value?_eq fun f => ?_
  -- a field is told by both forms, with the same value, or by neither
  by_cases hf : ∃ w, Part.known f w ∈ parts
  · obtain ⟨w, hw⟩ := hf
    have htold := hperm.mem_iff.mp (mem_told_iff.mpr ⟨w, hw, rfl⟩)
    obtain ⟨w', hw', htaken⟩ := mem_told_iff.mp htold
    rw [h.known hw, h'.known hw', htaken]
  · have habsent' : ∀ w, Part.known f w ∉ parts' := by
      intro w' hw'
      have htold := hperm.mem_iff.mpr (mem_told_iff.mpr ⟨w', hw', rfl⟩)
      obtain ⟨w, hw, -⟩ := mem_told_iff.mp htold
      exact hf ⟨w, hw⟩
    rw [h.absent fun w hw => hf ⟨w, hw⟩, h'.absent habsent']

/-! ## What has been read can be read back -/

theorem EntryText.spells {cs : List Char} (h : EntryText parts cs) {f : Field} {w : Json}
    (hw : Part.known f w ∈ parts) : ∃ text, Spells w text := by
  cases h with
  | object _ _ hparts _ =>
      obtain ⟨⟨part, chars⟩, hp, rfl⟩ := List.mem_map.mp hw
      cases hparts _ hp with
      | known _ hspells => exact ⟨_, hspells⟩
  | positions _ _ hlength hspells _ =>
      obtain ⟨⟨g, v⟩, hp, heq⟩ := List.mem_map.mp hw
      cases heq
      obtain ⟨⟨v, text⟩, hv, rfl⟩ := List.mem_map.mp (List.of_mem_zip hp).2
      exact ⟨text, hspells _ hv⟩

/-- Details that have been read are a value as it was spelled, and not null. -/
theorem exists_of_details {s : String} (h : parse s = .ok e) {v : Json} (hv : e.details = some v) :
    v ≠ .null ∧ Json.depth v ≤ maxDetailsDepth ∧ ∃ w text, Spells w text ∧ v = w.sorted := by
  obtain ⟨⟨parts, htext⟩, hshallow⟩ := exists_entryText h
  have htells := htext.tells h
  by_cases hdetails : ∃ w, Part.known .details w ∈ parts
  · obtain ⟨w, hw⟩ := hdetails
    have hvalue : some v = Field.details.taken w := hv.symm.trans (htells.known hw)
    obtain ⟨text, hspells⟩ := htext.spells hw
    by_cases hnull : w = .null
    · rw [hnull, taken_null] at hvalue
      cases hvalue
    · rw [taken_eq_some (by decide) hnull] at hvalue
      cases hvalue
      exact ⟨fun h => hnull (Json.sorted_eq_null_iff.mp h), hshallow _ hv, w, text, hspells, rfl⟩
  · have hblank := htells.absent fun w hw => hdetails ⟨w, hw⟩
    cases hv.symm.trans hblank

theorem restorable_of_parse {s : String} (h : parse s = .ok e)
    (hfree : ∀ v ∈ e.details, FloatFree v) : e.Restorable ∧ e.details ≠ some .null := by
  refine ⟨fun v hv => ?_, fun hnull => ?_⟩
  · obtain ⟨-, hdepth, w, text, hspells, rfl⟩ := exists_of_details h hv
    exact ⟨hspells.readable (hfree _ hv), hdepth⟩
  · exact (exists_of_details h hnull).1 rfl

/-! ## The members of a line -/

theorem value?_ne_null (h : e.details ≠ some .null) (f : Field) : e.value? f ≠ some .null := by
  intro hnull
  cases f with
  | timestamp | traceId | level | event => cases hnull
  | platform | runtime | library | error =>
      obtain ⟨s, -, hs⟩ := Option.map_eq_some_iff.mp hnull
      cases hs
  | details => exact h hnull

theorem member_ne_null (h : e.details ≠ some .null) {f : Field} (hf : f ∈ e.fields) :
    (e.member f).2 ≠ .null := by
  obtain ⟨v, hv⟩ := Option.isSome_iff_exists.mp (mem_fields.mp hf)
  rintro hnull
  refine value?_ne_null h f ?_
  rw [member, hv] at hnull
  rw [hv]
  exact congrArg some hnull

/-- The keys of a line are those of its fields, in the order of all fields. -/
theorem keys_sublist (e : Entry) :
    ((e.fields.map e.member).map Prod.fst).Sublist (Field.all.map Field.key) := by
  rw [List.map_map]
  exact List.filter_sublist.map Field.key

/--
**Reading and writing again normalizes.** The line of an entry that was read is one line
without a break and is read as the same entry, if the details hold no floating-point
number (minus zero is read as one, and so are integers beyond 64 bits). It has the
members of the fields in their order, each once, all that are required, and none that is
null. Every text that is read has a form, and texts of alike forms have one line.
-/
theorem parse_normalizes :
    (∀ {s : String} {e : Entry}, parse s = .ok e → (∀ v ∈ e.details, FloatFree v) →
      '\n' ∉ e.line.toList ∧ parse e.line = .ok e ∧
      ∃ members : List (String × Json), e.line = (Json.obj members).compact ∧
        (members.map Prod.fst).Sublist (Field.all.map Field.key) ∧
        (∀ f : Field, f.isRequired = true → f.key ∈ members.map Prod.fst) ∧
        ∀ m ∈ members, m.2 ≠ .null) ∧
    (∀ {s : String} {e : Entry}, parse s = .ok e → ∃ parts, EntryText parts s.toList) ∧
    ∀ {s s' : String} {e e' : Entry} {parts parts' : List Part}, parse s = .ok e →
      parse s' = .ok e' → EntryText parts s.toList → EntryText parts' s'.toList →
      Alike parts parts' → e'.line = e.line := by
  refine ⟨?_, fun hparse => (exists_entryText hparse).1, ?_⟩
  · intro s e hparse hfree
    obtain ⟨hrestorable, hdetails⟩ := restorable_of_parse hparse hfree
    have hback : parse e.line = .ok e := by
      rw [parse_line hrestorable, readBack_of_details_ne_null hdetails]
    refine ⟨Json.newline_notMem_compact _, hback, e.fields.map e.member, ?_, keys_sublist e, ?_, ?_⟩
    · rw [line, toJson_eq]
    · intro f hf
      rw [List.map_map]
      exact List.mem_map.mpr ⟨f, mem_fields_of_isRequired e hf, rfl⟩
    · intro m hm
      obtain ⟨f, hf, rfl⟩ := List.mem_map.mp hm
      exact member_ne_null hdetails hf
  · intro s s' e e' parts parts' hparse hparse' htext htext' halike
    rw [eq_of_alike (htext.tells hparse) (htext'.tells hparse') halike]

/-! ## A text and the line of its entry -/

/-- The line of an entry has the form of its fields. -/
theorem entryText_line (h : e.Restorable) :
    EntryText (e.fields.map fun f => .known f (e.member f).2) e.line.toList := by
  have hpart : ∀ f ∈ e.fields,
      PartText (.known f (e.member f).2) (Json.memberChars (e.member f)) := by
    intro f hf
    obtain ⟨v, hv⟩ := Option.isSome_iff_exists.mp (mem_fields.mp hf)
    have hreadable : Json.Readable v := by
      cases f with
      | timestamp | traceId | level | event =>
          cases hv
          exact .str _
      | platform | runtime | library | error =>
          obtain ⟨s, -, rfl⟩ := Option.map_eq_some_iff.mp hv
          exact .str s
      | details => exact (h v hv).1
    have hmember : e.member f = (f.key, v) := by rw [member, hv]; rfl
    rw [hmember]
    exact .known (Json.keyed_quote _ _) hreadable.spells
  have hline : e.line.toList = Json.compactChars e.toJson := String.toList_ofList
  have htext := @EntryText.object
    (e.fields.map fun f => (.known f (e.member f).2, Json.memberChars (e.member f))) [] _ []
    Json.Gap.nil Json.Gap.nil (List.forall_mem_map.mpr hpart) (Json.parts_joined '\x7d' true _)
  rw [hline, compactChars_toJson]
  simpa [Function.comp_def] using htext

/-- The details come first, their members are not sorted, and a member is passed over. -/
def looseText : String :=
  " \x7b\"details\":\x7b\"b\":[1],\"a\":null\x7d,\"more\":\"\\ud800\",\"timestamp\":\"t\"," ++
    "\"trace_id\":\"\",\"level\":\"info\",\"event\":\"e\"\x7d\n"

def looseEntry : Entry :=
  { timestamp := "t", traceId := "", level := .info, event := "e"
    details := some (.obj [("a", .null), ("b", .arr [.int 1])]) }

theorem parse_looseText : parse looseText = .ok looseEntry := by cbv

/-- Details with their members in another order. -/
def looseDetails : Json := .obj [("b", .arr [.int 1]), ("a", .null)]

/-- The members of the text, each with its own text. -/
def looseParts : List (Part × List Char) :=
  [(.known .details looseDetails, Json.memberChars ("details", looseDetails)),
    (.unknown "more", Json.quote "more" ++ ':' :: "\"\\ud800\"".toList),
    (.known .timestamp (.str "t"), Json.memberChars ("timestamp", .str "t")),
    (.known .traceId (.str ""), Json.memberChars ("trace_id", .str "")),
    (.known .level (.str "info"), Json.memberChars ("level", .str "info")),
    (.known .event (.str "e"), Json.memberChars ("event", .str "e"))]

theorem spells_looseDetails : Spells looseDetails (Json.compactChars looseDetails) := by
  have hone : Json.Readable (.arr [.int 1]) :=
    .arr (List.forall_mem_singleton.mpr (.int ⟨by decide, by decide⟩))
  have hread : ∀ m ∈ [("b", .arr [.int 1]), ("a", .null)], Json.Readable (Prod.snd m) :=
    List.forall_mem_cons.mpr ⟨hone, List.forall_mem_singleton.mpr .null⟩
  have hmembers := @Spells.obj
    ([("b", .arr [.int 1]), ("a", .null)].map fun m =>
      ⟨m.1, m.2, Json.compactChars m.2, Json.memberChars m⟩) _
    (List.forall_mem_map.mpr fun m _ => Json.keyed_quote m.1 (Json.compactChars m.2))
    (List.forall_mem_map.mpr fun m hm => (hread m hm).spells) (Json.parts_joined '\x7d' true _)
  rw [looseDetails, Json.compactChars, Json.compactMembers_eq]
  exact hmembers

theorem partText_str (f : Field) (s : String) :
    PartText (.known f (.str s)) (Json.memberChars (f.key, .str s)) :=
  .known (Json.keyed_quote _ _) (Json.Readable.str s).spells

theorem partText_loose : ∀ p ∈ looseParts, PartText p.1 p.2 := by
  have hdetails : PartText (.known .details looseDetails)
      (Json.memberChars ("details", looseDetails)) :=
    .known (Json.keyed_quote _ _) spells_looseDetails
  have hmore : PartText (.unknown "more") (Json.quote "more" ++ ':' :: "\"\\ud800\"".toList) :=
    .unknown (by decide) (Json.keyed_quote _ _) (.str (.unit (by decide) .nil))
  refine List.forall_mem_cons.mpr ⟨hdetails, List.forall_mem_cons.mpr ⟨hmore, ?_⟩⟩
  refine List.forall_mem_cons.mpr ⟨partText_str .timestamp "t", ?_⟩
  refine List.forall_mem_cons.mpr ⟨partText_str .traceId "", ?_⟩
  refine List.forall_mem_cons.mpr ⟨partText_str .level "info", ?_⟩
  exact List.forall_mem_singleton.mpr (partText_str .event "e")

theorem entryText_looseText : EntryText (looseParts.map Prod.fst) looseText.toList := by
  have htext : looseText.toList =
      [' '] ++ '\x7b' :: (Json.joined '\x7d' true (looseParts.map Prod.snd) ++ ['\n']) := by cbv
  rw [htext]
  exact .object (List.forall_mem_singleton.mpr (by decide))
    (List.forall_mem_singleton.mpr (by decide)) partText_loose (Json.parts_joined '\x7d' true _)

theorem alike_looseParts : Alike (looseParts.map Prod.fst)
    (looseEntry.fields.map fun f => .known f (looseEntry.member f).2) := by
  have hdetails : Reordered looseDetails (.obj [("a", .null), ("b", .arr [.int 1])]) :=
    Json.reordered_of_perm (List.Perm.swap _ _ _) (by decide) []
  refine ⟨[(.timestamp, .str "t"), (.traceId, .str ""), (.level, .str "info"), (.event, .str "e"),
    (.details, looseDetails)], ?_, ?_⟩
  · -- the details move behind all others
    exact @List.perm_append_comm _ [(Field.details, looseDetails)] _
  · exact .cons ⟨rfl, .refl⟩ (.cons ⟨rfl, .refl⟩ (.cons ⟨rfl, .refl⟩ (.cons ⟨rfl, .refl⟩
      (.cons ⟨rfl, hdetails⟩ .nil))))

theorem floatFree_looseEntry : ∀ v ∈ looseEntry.details, FloatFree v := by
  intro v hv
  cases hv
  refine .obj (List.forall_mem_cons.mpr ⟨.null, List.forall_mem_singleton.mpr ?_⟩)
  exact .arr (List.forall_mem_singleton.mpr (.int 1))

theorem parse_normalizes_looseText :
    parse looseText = .ok looseEntry ∧ (∀ v ∈ looseEntry.details, FloatFree v) ∧
      EntryText (looseParts.map Prod.fst) looseText.toList ∧
      Alike (looseParts.map Prod.fst)
        (looseEntry.fields.map fun f => .known f (looseEntry.member f).2) ∧
      '\n' ∈ looseText.toList ∧ '\n' ∉ looseEntry.line.toList ∧
      ∃ e, parse looseEntry.line = .ok e ∧ e.line = looseEntry.line := by
  obtain ⟨hnormal, -, halike⟩ := parse_normalizes
  obtain ⟨hbreak, hback, -⟩ := hnormal parse_looseText floatFree_looseEntry
  have hrestorable := (restorable_of_parse parse_looseText floatFree_looseEntry).1
  have hline := halike parse_looseText hback entryText_looseText (entryText_line hrestorable)
    alike_looseParts
  exact ⟨parse_looseText, floatFree_looseEntry, entryText_looseText, alike_looseParts, by decide,
    hbreak, looseEntry, hback, hline⟩

end Linkage.Log.Entry
