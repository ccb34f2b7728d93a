import Linkage.Proofs.FallbackTable
import Linkage.Proofs.Json.Pretty
import Linkage.Report

/-!
# Report texts lose nothing

The reports on a table and on a probe hold no other numbers than ordinals, so their pretty
texts give them back, with the members of each object sorted by key. From what is read, the
names of the table can be collected again, and the probe can be put together again entry by
entry (`ProbeReport.ofJson?`). So different probes have different texts.
-/

namespace Linkage

namespace Json

/-! ## Reading members -/

/-- The text of a member that is a string. -/
def textAt? (key : String) (v : Json) : Option String :=
  match v.get? key with
  | some (.str s) => some s
  | _ => none

/-- The truth value of a member that is one. -/
def truthAt? (key : String) (v : Json) : Option Bool :=
  match v.get? key with
  | some (.bool b) => some b
  | _ => none

/-- The items of a member that is an array. -/
def itemsAt? (key : String) (v : Json) : Option (List Json) :=
  match v.get? key with
  | some (.arr items) => some items
  | _ => none

theorem mapM_map_of_some {α β : Type} {read : Json → Option β} {write : α → Json} {f : α → β}
    (h : ∀ x, read (write x) = some (f x)) (xs : List α) :
    (xs.map write).mapM read = some (xs.map f) := by
  induction xs with
  | nil => rfl
  | cons x xs ih => simp [h, ih]

end Json

open Json (Printable parse? depth maxDepth)

/-! ## Tables -/

/-- A slot as it is read. -/
def FallbackSlot.told (s : FallbackSlot) : Json :=
  .obj [("name", .str s.name), ("ordinal", .int s.ordinal)]

theorem FallbackSlot.sorted_toJson (s : FallbackSlot) : s.toJson.sorted = s.told := by
  simp only [toJson, told, Json.sorted, Json.sortedMembers, Json.insertAll, List.foldl_cons,
    List.foldl_nil, Json.insert, String.reduceEq, String.reduceLT, ↓reduceIte]

namespace FallbackTable

/-- The names of the slots in a report that was read, in their order. -/
def namesIn? (report : Json) : Option (List String) := do
  (← report.itemsAt? "slots").mapM (Json.textAt? "name")

theorem map_name_slots (t : FallbackTable) : t.slots.map (·.name) = t.names := by
  rw [slots, List.map_map]
  exact List.zipIdx_map_fst 0 t.names

/-- The names can be collected from the slots again. -/
theorem namesIn?_slots (t : FallbackTable) (front : Json) :
    namesIn? (.obj [("array_symbol", front), ("slots", .arr (t.slots.map FallbackSlot.told))]) =
      some t.names := by
  have hname (s : FallbackSlot) : s.told.textAt? "name" = some s.name := rfl
  have hnames := Json.mapM_map_of_some hname t.slots
  rw [map_name_slots] at hnames
  exact hnames

theorem depth_report (t : FallbackTable) : depth t.report ≤ maxDepth := by
  have hslots : Json.depthItems (t.slots.map FallbackSlot.toJson) ≤ 1 := by
    refine Json.depthItems_le_iff.mpr fun v hv => ?_
    obtain ⟨slot, -, rfl⟩ := List.mem_map.mp hv
    exact Nat.le_of_eq rfl
  simp only [report, depth, Json.depthMembers, maxDepth]
  omega

/-- The ordinals are as large as the table at most. -/
theorem printable_report {t : FallbackTable} (h : t.size ≤ UInt64.size) : Printable t.report := by
  have hslots : Printable (.arr (t.slots.map FallbackSlot.toJson)) := by
    refine .arr (List.forall_mem_map.mpr fun slot hslot => .obj ?_)
    have hordinal : slot.ordinal < t.size := by
      obtain ⟨i, hi⟩ := List.mem_iff_getElem?.mp hslot
      rw [slots_getElem?] at hi
      obtain ⟨name, hname, rfl⟩ := Option.map_eq_some_iff.mp hi
      exact (List.getElem?_eq_some_iff.mp hname).1
    have hfits : Json.FitsInteger slot.ordinal := by
      unfold UInt64.size at h
      constructor
      all_goals omega
    simp [Printable.int hfits, Printable.str]
  exact .obj (by simp [hslots, Printable.str])

theorem sorted_report (t : FallbackTable) : t.report.sorted =
    .obj [("array_symbol", .str arrayName), ("slots", .arr (t.slots.map FallbackSlot.told))] := by
  have hslots : Json.sortedItems (t.slots.map FallbackSlot.toJson) =
      t.slots.map FallbackSlot.told := by
    rw [Json.sortedItems_eq, List.map_map]
    exact List.map_congr_left fun slot _ => slot.sorted_toJson
  simp only [report, Json.sorted, Json.sortedMembers, hslots, Json.insertAll, List.foldl_cons,
    List.foldl_nil, Json.insert, String.reduceEq, String.reduceLT, ↓reduceIte]

end FallbackTable

/-! ## Probes -/

/-- The place to look that has a name. -/
def ProbeSource.ofName? (name : String) : Option ProbeSource :=
  [system, process].find? (·.name = name)

namespace ProbeEntry

/-- An entry as it is read: the members that are absent are missing. -/
def told (e : ProbeEntry) : Json :=
  .obj <|
    Json.optional "address" (e.address.map .str) ++
    Json.optional "error" (e.error.map .str) ++
    [("found", .bool e.found), ("name", .str e.name)] ++
    Json.optional "origin" (e.origin.map .str)

/-- The entry that a value tells. -/
def ofJson? (v : Json) : Option ProbeEntry := do
  let name ← v.textAt? "name"
  let found ← v.truthAt? "found"
  return {
    name, found
    address := v.textAt? "address", origin := v.textAt? "origin", error := v.textAt? "error" }

theorem sorted_toJson (e : ProbeEntry) : e.toJson.sorted = e.told := by
  obtain ⟨name, found, address, origin, error⟩ := e
  cases address with
  | none | some address =>
      cases origin with
      | none | some origin =>
          cases error with
          | none | some error =>
              simp only [toJson, told, Json.optional, Option.map_none, Option.map_some,
                List.nil_append, List.cons_append, List.append_nil, Json.sorted,
                Json.sortedMembers, Json.insertAll, List.foldl_cons, List.foldl_nil,
                Json.insert, String.reduceEq, String.reduceLT, ↓reduceIte]

theorem ofJson?_told (e : ProbeEntry) : ofJson? e.told = some e := by
  obtain ⟨name, found, address, origin, error⟩ := e
  cases address with
  | none | some address =>
      cases origin with
      | none | some origin =>
          cases error with
          | none | some error => rfl

/-- An entry holds no number and no container. -/
theorem printable_toJson (e : ProbeEntry) : Printable e.toJson ∧ depth e.toJson = 1 := by
  obtain ⟨name, found, address, origin, error⟩ := e
  have hstr := Printable.str
  have hbool := Printable.bool
  cases address with
  | none | some address =>
      cases origin with
      | none | some origin =>
          cases error with
          | none | some error =>
              exact ⟨.obj (by simp [Json.optional, hstr, hbool]), rfl⟩

end ProbeEntry

namespace ProbeReport

/-- A report as it is read. -/
def told (r : ProbeReport) : Json :=
  .obj [("results", .arr (r.results.map ProbeEntry.told)), ("source", .str r.source.name)]

/-- The report that a value tells. -/
def ofJson? (v : Json) : Option ProbeReport := do
  let source ← ProbeSource.ofName? (← v.textAt? "source")
  let results ← (← v.itemsAt? "results").mapM ProbeEntry.ofJson?
  return { source, results }

theorem ofJson?_told (r : ProbeReport) : ofJson? r.told = some r := by
  have hsource : r.told.textAt? "source" = some r.source.name := rfl
  have hname : ProbeSource.ofName? r.source.name = some r.source := by
    cases r.source with
    | system | process => rfl
  have hitems : r.told.itemsAt? "results" = some (r.results.map ProbeEntry.told) := rfl
  have hresults : (r.results.map ProbeEntry.told).mapM ProbeEntry.ofJson? = some r.results := by
    rw [Json.mapM_map_of_some ProbeEntry.ofJson?_told, List.map_id']
  simp [ofJson?, hsource, hname, hitems, hresults]

/-- **The text of a report tells the report.** -/
theorem parse?_text (r : ProbeReport) : parse? r.text = some r.told := by
  have hresults : Json.depthItems (r.results.map ProbeEntry.toJson) ≤ 1 := by
    refine Json.depthItems_le_iff.mpr (List.forall_mem_map.mpr fun e _ => ?_)
    exact Nat.le_of_eq e.printable_toJson.2
  have hdepth : depth r.toJson ≤ maxDepth := by
    simp only [toJson, depth, Json.depthMembers, maxDepth]
    omega
  have hprintable : Printable r.toJson := by
    have hresults : Printable (.arr (r.results.map ProbeEntry.toJson)) :=
      .arr (List.forall_mem_map.mpr fun e _ => e.printable_toJson.1)
    exact .obj (by simp [hresults, Printable.str])
  have hsorted : r.toJson.sorted = r.told := by
    have hresults : Json.sortedItems (r.results.map ProbeEntry.toJson) =
        r.results.map ProbeEntry.told := by
      rw [Json.sortedItems_eq, List.map_map]
      exact List.map_congr_left fun e _ => e.sorted_toJson
    simp only [toJson, told, Json.sorted, Json.sortedMembers, hresults, Json.insertAll,
      List.foldl_cons, List.foldl_nil, Json.insert, String.reduceEq, String.reduceLT, ↓reduceIte]
  rw [text, hprintable.parse?_pretty hdepth, hsorted]

/-- The text of a report reads back as the report. -/
theorem read_text (r : ProbeReport) : (parse? r.text).bind ofJson? = some r := by
  rw [r.parse?_text, Option.bind_some, r.ofJson?_told]

end ProbeReport

/-! ## Faithfulness -/

/-- **The text of a table tells the table**, if no ordinal is too large for 64 bits. -/
theorem FallbackTable.parse?_reportText {t : FallbackTable} (h : t.size ≤ UInt64.size) :
    parse? t.reportText = some (.obj
      [("array_symbol", .str arrayName), ("slots", .arr (t.slots.map FallbackSlot.told))]) := by
  rw [reportText, (printable_report h).parse?_pretty (depth_report t), sorted_report]

/--
**Report texts lose nothing.**

The text on a table tells the name of the array, and for each ordinal its name, whatever the names
are, and an ordinal is a number of 64 bits. The names that are read from it make the same table
again. The text on a probe tells its source and its entries, in order, and of each entry the members
that are present and no other. So it tells the probe, and different probes have different texts.
-/
theorem reportTexts_faithful (t : FallbackTable) (hsize : t.size ≤ UInt64.size)
    (r r' : ProbeReport) :
    (∃ slots,
      parse? t.reportText =
        some (.obj [("array_symbol", .str "funcs"), ("slots", .arr slots)]) ∧
      ∀ i : Nat, slots[i]? = t.names[i]?.map fun name =>
        Json.obj [("name", .str name), ("ordinal", .int i)]) ∧
    ((parse? t.reportText).bind FallbackTable.namesIn? = some t.names ∧
      FallbackTable.ofNames t.names = .ok t) ∧
    parse? r.text = some (.obj
      [("results", .arr (r.results.map fun e => .obj (
          Json.optional "address" (e.address.map .str) ++
          Json.optional "error" (e.error.map .str) ++
          [("found", .bool e.found), ("name", .str e.name)] ++
          Json.optional "origin" (e.origin.map .str)))),
        ("source", .str r.source.name)]) ∧
    (parse? r.text).bind ProbeReport.ofJson? = some r ∧
    (r.text = r'.text ↔ r = r') := by
  have htable := FallbackTable.parse?_reportText hsize
  refine ⟨⟨_, htable, fun i => ?_⟩, ⟨?_, FallbackTable.ofNames_of_nodup t.nodup⟩, r.parse?_text,
    r.read_text, ?_, ?_⟩
  · rw [List.getElem?_map, FallbackTable.slots_getElem?, Option.map_map]
    rfl
  · rw [htable, Option.bind_some, FallbackTable.namesIn?_slots]
  · intro h
    have hread := r.read_text
    rw [h, r'.read_text] at hread
    exact (Option.some.inj hread).symm
  · rintro rfl
    rfl

/-- An empty name and one full of escapes come back, and two places to look have two texts. -/
theorem reportTexts_faithful_escapes :
    let t : FallbackTable := ⟨["", "a\"\\\n\x01"], by decide⟩
    let inSystem : ProbeReport := ⟨.system, []⟩
    let inProcess : ProbeReport := ⟨.process, []⟩
    t.size ≤ UInt64.size ∧
      (parse? t.reportText).bind FallbackTable.namesIn? = some ["", "a\"\\\n\x01"] ∧
      inSystem.text ≠ inProcess.text := by
  intro t inSystem inProcess
  have hsize : t.size ≤ UInt64.size := by decide
  obtain ⟨-, ⟨hnames, -⟩, -, -, hequal⟩ := reportTexts_faithful t hsize inSystem inProcess
  exact ⟨hsize, hnames, fun h => absurd (hequal.mp h) (by decide)⟩

end Linkage
