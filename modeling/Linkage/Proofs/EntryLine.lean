import Linkage.Log.Entry.Reader
import Linkage.Proofs.Json.Values

/-!
# A line gives its entry back

The reader takes the members of a line one after the other into a draft, and
each of them brings one field of the entry that was written. The order does not
matter for that, and neither do the fields that were left out: they are absent
in the draft from the start.

Details that are null are the one thing that a line cannot give back. They are
written, and the reader takes a null for an absent value.
-/

namespace Linkage.Log.Entry

open Linkage.Json (Readable EndsNumeral Reader ReadError ReadsItems ok_bind)

/-! ## What comes back -/

/-- The entry as a reader gives it: details that are null are absent. -/
def readBack (e : Entry) : Entry :=
  { e with details := e.details.filter fun | .null => false | _ => true }

theorem readBack_of_details_ne_null {e : Entry} (h : e.details ≠ some .null) : e.readBack = e := by
  obtain ⟨timestamp, traceId, level, event, platform, runtime, library, error, details⟩ := e
  cases details with
  | none => rfl
  | some v =>
      cases v with
      | null => exact absurd rfl h
      | _ => rfl

theorem readBack_of_details_null {e : Entry} (h : e.details = some .null) :
    e.readBack = { e with details := none } := by
  rw [readBack, h]
  rfl

/--
The details can be read back: there are none, or they hold no floating-point
number and are nested at most 126 containers deep.
-/
def Restorable (e : Entry) : Prop :=
  ∀ v ∈ e.details, Readable v ∧ Json.depth v ≤ 126

/-! ## The members of a line -/

/-- The value of a field, if it is written. -/
def value? (e : Entry) : Field → Option Json
  | .timestamp => some (.str e.timestamp)
  | .traceId => some (.str e.traceId)
  | .level => some (.str e.level.name)
  | .event => some (.str e.event)
  | .platform => e.platform.map .str
  | .runtime => e.runtime.map .str
  | .library => e.library.map .str
  | .error => e.error.map .str
  | .details => e.details

/-- The fields that are written, in their order. -/
def fields (e : Entry) : List Field := Field.all.filter fun f => (e.value? f).isSome

/-- The member of a field in a line. -/
def member (e : Entry) (f : Field) : String × Json := (f.key, (e.value? f).getD .null)

theorem optional_eq (e : Entry) (f : Field) :
    Json.optional f.key (e.value? f) =
      if (e.value? f).isSome then [e.member f] else [] := by
  rw [member]
  cases e.value? f with
  | none => rfl
  | some v => rfl

/-- A line is made of the fields that are written. -/
theorem toJson_eq (e : Entry) : e.toJson = .obj (e.fields.map e.member) := by
  have hmembers (fs : List Field) : (fs.filter fun f => (e.value? f).isSome).map e.member =
      fs.flatMap fun f => Json.optional f.key (e.value? f) := by
    induction fs with
    | nil => rfl
    | cons f fs ih =>
        rw [List.filter_cons, List.flatMap_cons, optional_eq, ← ih]
        split
        · rfl
        · rfl
  rw [fields, hmembers, toJson]
  simp [Field.all, value?, Field.key, Json.optional]

theorem mem_fields {e : Entry} {f : Field} : f ∈ e.fields ↔ (e.value? f).isSome := by
  have hall : f ∈ Field.all := by
    cases f
    all_goals decide
  simp [fields, hall]

theorem nodup_fields (e : Entry) : e.fields.Nodup :=
  List.Nodup.sublist List.filter_sublist (by decide)

/-! ## Reading the value of a field -/

variable {size : Nat} {rest : List Char}

theorem skipGap_quote (s : String) (rest : List Char) :
    Json.skipGap (Json.quote s ++ rest) =
      '"' :: (s.toList.flatMap Json.escape ++ '"' :: rest) := by
  rw [Json.quote_append, Json.skipGap_cons (by decide)]

theorem readText_quote (wanted s : String) (rest : List Char) :
    readText wanted (Json.quote s ++ rest) = .ok (s, rest) := by
  rw [readText, skipGap_quote]
  exact Json.readString_escapes s rest

/-- A value that does not begin like null is read as a value that is there. -/
theorem readOptional_of_leads {α : Type} {read : Reader EntryProblem α} {a : α} {c : Char}
    {cs : List Char} (hc : Json.Leads c) (hread : read (c :: cs) = .ok (a, rest)) :
    readOptional read (c :: cs) = .ok (some a, rest) := by
  rw [readOptional, Json.skipGap_cons hc.no_gap]
  split
  case h_1 heq =>
    cases heq
    exact absurd rfl hc.ne_null
  case h_2 =>
    rw [hread]
    rfl

theorem leads_quote : Json.Leads '"' := ⟨by decide, by decide, by decide, by decide⟩

theorem readOptional_quote (wanted s : String) (rest : List Char) :
    readOptional (readText wanted) (Json.quote s ++ rest) = .ok (some s, rest) :=
  readOptional_of_leads leads_quote (readText_quote wanted s rest)

theorem ofName?_name (l : Level) : Level.ofName? l.name = some l := by
  cases l
  all_goals decide

theorem readLevel_quote (l : Level) (rest : List Char) :
    readLevel (Json.quote l.name ++ rest) = .ok (l, rest) := by
  rw [readLevel, skipGap_quote]
  simp only [↓reduceIte, Json.readString_escapes, ok_bind, levelOfName, ofName?_name]
  rfl

theorem readOptional_details {e : Entry} (h : e.Restorable) {v : Json} (hv : e.details = some v)
    (hsize : (Json.compactChars v).length ≤ size) (hrest : EndsNumeral rest) :
    readOptional (Json.readValue size maxDetailsDepth) (Json.compactChars v ++ rest) =
      .ok (e.readBack.details, rest) := by
  obtain ⟨hreadable, hlevels⟩ := h v hv
  have hdepth : Json.depth v ≤ maxDetailsDepth := hlevels
  by_cases hnull : v = .null
  · subst hnull
    rw [readBack_of_details_null hv]
    rfl
  · have hread := hreadable.readsBack (ε := EntryProblem) hdepth hsize rest hrest
    obtain ⟨c, cs, hc, hleads⟩ := hreadable.leads hnull
    have hback : e.readBack = e := by
      refine readBack_of_details_ne_null ?_
      simpa [hv] using hnull
    rw [hc, List.cons_append] at hread ⊢
    rw [readOptional_of_leads hleads hread, hback, hv]

/-- The entry `d` with a field taken over from `e`. -/
def adopt (e d : Entry) : Field → Entry
  | .timestamp => { d with timestamp := e.timestamp }
  | .traceId => { d with traceId := e.traceId }
  | .level => { d with level := e.level }
  | .event => { d with event := e.event }
  | .platform => { d with platform := e.platform }
  | .runtime => { d with runtime := e.runtime }
  | .library => { d with library := e.library }
  | .error => { d with error := e.error }
  | .details => { d with details := e.details }

/-- **Reading the value of a field takes the field over**, and nothing else. -/
theorem readField_value {e : Entry} (h : e.Restorable) {f : Field} (hf : f ∈ e.fields)
    (hsize : (Json.compactChars (e.member f).2).length ≤ size) (hrest : EndsNumeral rest)
    (d : Entry) :
    readField size f d (Json.compactChars (e.member f).2 ++ rest) =
      .ok (e.readBack.adopt d f, rest) := by
  obtain ⟨v, hv⟩ := Option.isSome_iff_exists.mp (mem_fields.mp hf)
  have hmember : (e.member f).2 = v := by rw [member, hv]; rfl
  rw [hmember] at hsize ⊢
  cases f with
  | timestamp | traceId | event =>
      cases hv
      rw [readField, Json.compactChars, readText_quote]
      rfl
  | level =>
      cases hv
      rw [readField, Json.compactChars, readLevel_quote]
      rfl
  | platform | runtime | library | error =>
      obtain ⟨s, hs, rfl⟩ := Option.map_eq_some_iff.mp hv
      rw [readField, Json.compactChars, readOptional_quote, ← hs]
      rfl
  | details =>
      rw [readField, readOptional_details h hv hsize hrest]
      rfl

/-! ## Reading the members -/

/-- A draft that has got one more field of an entry. -/
def Draft.take (e : Entry) (d : Draft) (f : Field) : Draft := ⟨e.adopt d.entry f, f :: d.seen⟩

theorem ofKey?_key (f : Field) : Field.ofKey? f.key = some f := by
  cases f
  all_goals decide

/-- The members of a line are read one after the other, each for the first time. -/
theorem readsItems_members {e : Entry} (h : e.Restorable)
    (hsize : ∀ f ∈ e.fields, (Json.compactChars (e.member f).2).length ≤ size) :
    ReadsItems '\x7d' (readMember size) (Draft.take e.readBack)
      (fun f => Json.memberChars (e.member f))
      fun d left => left ⊆ e.fields ∧ left.Nodup ∧ ∀ f ∈ left, f ∉ d.seen where
  begins _ := ⟨'"', _, rfl, by decide, by decide⟩
  reads := by
    rintro d f left rest ⟨hleft, -, hnew⟩ hends
    have hf : f ∈ e.fields := hleft (List.mem_cons_self ..)
    have hfield := readField_value h hf (hsize f hf) hends d.entry
    rw [Json.memberChars, List.append_assoc, Json.quote_append, List.cons_append, readMember]
    have hkey : (e.member f).1 = f.key := rfl
    simp only [Json.readString_escapes, ok_bind, hkey, ofKey?_key,
      if_neg (hnew f (List.mem_cons_self ..)), Json.readMark_colon, hfield]
    rfl
  next := by
    rintro d f left ⟨hleft, hnodup, hnew⟩
    -- a field that is left cannot be the one that was just seen
    obtain ⟨hf, hnodup⟩ := List.nodup_cons.mp hnodup
    refine ⟨fun g hg => hleft (List.mem_cons_of_mem _ hg), hnodup, ?_⟩
    rintro g hg hseen
    rcases List.mem_cons.mp hseen with rfl | hseen
    · exact hf hg
    · exact hnew g (List.mem_cons_of_mem _ hg) hseen

theorem foldl_take (e : Entry) (fs : List Field) (d : Draft) :
    fs.foldl (Draft.take e) d = ⟨fs.foldl e.adopt d.entry, fs.reverse ++ d.seen⟩ := by
  induction fs generalizing d with
  | nil => rfl
  | cons f fs ih => simp [ih, Draft.take]

/-- The fields that are written bring the whole entry. -/
theorem foldl_adopt_fields (e : Entry) : e.fields.foldl e.readBack.adopt blank = e.readBack := by
  obtain ⟨timestamp, traceId, level, event, platform, runtime, library, error, details⟩ := e
  -- a field that is left out is absent in the blank entry as well
  cases platform
  all_goals cases runtime
  all_goals cases library
  all_goals cases error
  all_goals cases details
  all_goals rfl

/-- Every field that an entry must have is written. -/
theorem mem_fields_of_isRequired (e : Entry) {f : Field} (h : f.isRequired = true) :
    f ∈ e.fields := by
  rw [mem_fields]
  cases f with
  | timestamp | traceId | level | event => rfl
  | platform | runtime | library | error | details => exact absurd h (by decide)

theorem finish_of_required {d : Draft} (h : ∀ f : Field, f.isRequired = true → f ∈ d.seen) :
    finish d = .ok d.entry := by
  have hnone : (Field.all.find? fun f => f.isRequired && f ∉ d.seen) = none := by
    refine List.find?_eq_none.mpr ?_
    rintro f - hmissing
    simp only [Bool.and_eq_true, decide_eq_true_eq] at hmissing
    exact hmissing.2 (h f hmissing.1)
  rw [finish, hnone]

/-- The characters of a line behind its opening brace. -/
theorem compactChars_toJson (e : Entry) :
    Json.compactChars e.toJson =
      '\x7b' :: Json.joined '\x7d' true (e.fields.map fun f => Json.memberChars (e.member f)) := by
  rw [toJson_eq, Json.compactChars, Json.compactMembers_eq, List.map_map]
  rfl

/-- A line is longer than the value of any of its members. -/
theorem length_value_le {e : Entry} {f : Field} (hf : f ∈ e.fields) :
    (Json.compactChars (e.member f).2).length ≤ (Json.compactChars e.toJson).length := by
  have hpart := Json.length_le_joined '\x7d' (fun f => Json.memberChars (e.member f)) true hf
  have hvalue := Json.length_value_lt (e.member f)
  rw [compactChars_toJson, List.length_cons]
  omega

theorem read_line {e : Entry} (h : e.Restorable)
    (hsize : (Json.compactChars e.toJson).length ≤ size) :
    read size (Json.compactChars e.toJson) = .ok (e.readBack, []) := by
  have hvalues : ∀ f ∈ e.fields, (Json.compactChars (e.member f).2).length ≤ size :=
    fun f hf => Nat.le_trans (length_value_le hf) hsize
  have hbound : e.fields.length < size + 1 := by
    have hlt := Json.length_lt_joined '\x7d' (fun f => Json.memberChars (e.member f)) true
      fun f (_ : f ∈ e.fields) => by simp [Json.memberChars, Json.quote]
    rw [compactChars_toJson, List.length_cons] at hsize
    omega
  have hfold := (readsItems_members h hvalues).foldItems Json.closes_brace (s := {})
    ⟨List.Subset.refl _, nodup_fields e, by simp⟩ hbound true []
  have hfinish : finish ⟨e.readBack, e.fields.reverse⟩ = .ok e.readBack :=
    finish_of_required fun f hf => List.mem_reverse.mpr (mem_fields_of_isRequired e hf)
  rw [List.append_nil, foldl_take, foldl_adopt_fields, List.append_nil] at hfold
  rw [compactChars_toJson, read, Json.skipGap_cons (by decide)]
  dsimp only
  rw [if_neg (by decide), if_pos rfl, Json.readItems, hfold, ok_bind]
  dsimp only
  rw [hfinish]
  rfl

/-- The line of an entry is read as the entry that it gives back. -/
theorem parse_line {e : Entry} (h : e.Restorable) : parse e.line = .ok e.readBack := by
  have hline : e.line.toList = Json.compactChars e.toJson := String.toList_ofList
  have hsize : (Json.compactChars e.toJson).length = e.line.length := by
    rw [← hline, String.length_toList]
  rw [parse, hline, read_line h (Nat.le_of_eq hsize), ok_bind]
  rfl

/--
**The round trip of a line.** An entry whose details can be read back is read from
its own line, in every field; only details that are null come back as absent. So
two such entries share a line only if they give the same entry back.
-/
theorem line_round_trip (e : Entry) (h : e.Restorable) :
    parse e.line = .ok e.readBack ∧
      (e.details ≠ some .null → e.readBack = e) ∧
      (e.details = some .null → e.readBack = { e with details := none }) ∧
      ∀ e' : Entry, e'.Restorable → e.readBack ≠ e'.readBack → e.line ≠ e'.line := by
  refine ⟨parse_line h, readBack_of_details_ne_null, readBack_of_details_null, ?_⟩
  intro e' h' hne hline
  have hback := parse_line h
  rw [hline, parse_line h'] at hback
  exact hne (Except.ok.inj hback).symm

/-- An entry with a line break and quotes in its text, and with a null inside its details. -/
def quotedEntry : Entry :=
  { timestamp := "2024-02-29T00:00:00Z"
    traceId := "syslookup::r\n1::001"
    level := .warn
    event := "a \"quoted\" event"
    library := some ""
    details := some (.obj [("a\tb", .arr [.null, .int (-1)]), ("slots", .int 44)]) }

theorem quotedEntry_restorable : quotedEntry.Restorable := by
  rintro v hv
  obtain rfl := Option.some.inj hv
  refine ⟨.obj (by unfold Json.SortedByKey; decide) ?_, by decide⟩
  simp only [List.mem_cons, List.not_mem_nil, or_false, forall_eq_or_imp, forall_eq]
  refine ⟨.arr ?_, .int ⟨by decide, by decide⟩⟩
  simp only [List.mem_cons, List.not_mem_nil, or_false, forall_eq_or_imp, forall_eq]
  exact ⟨.null, .int ⟨by decide, by decide⟩⟩

theorem line_round_trip_quotedEntry :
    quotedEntry.Restorable ∧ parse quotedEntry.line = .ok quotedEntry ∧
      quotedEntry.line ≠ { quotedEntry with details := some .null }.line := by
  obtain ⟨hparse, hback, -, hdiffer⟩ := line_round_trip quotedEntry quotedEntry_restorable
  have hnull : Restorable { quotedEntry with details := some .null } := by
    rintro v hv
    obtain rfl := Option.some.inj hv
    exact ⟨.null, by decide⟩
  have hdetails : quotedEntry.details ≠ some .null := by
    intro h
    cases h
  refine ⟨quotedEntry_restorable, by rw [hparse, hback hdetails], hdiffer _ hnull ?_⟩
  intro h
  cases congrArg Entry.details h

end Linkage.Log.Entry
