import Linkage.Proofs.Delivery
import Linkage.Proofs.EntryLine
import Linkage.Proofs.Session

/-!
# A log is a stream of lines

A sink with an emitter writes the entries that pass its level, one line for each,
and nothing else. No line holds a line break, so the text falls apart into the
lines again where the breaks are.

Numbers are taken by the entries that pass and have no identifier of their own.
Which number an entry gets depends on those before it that are written, and so a
log at a higher level is the log of all levels with some of its lines left out
and the others numbered anew.
-/

namespace Linkage

/-! ## Other places keep what they hold -/

theorem FileSystem.look_append_of_ne {fs fs' : FileSystem} {at_ other : Location} {octets : Bytes}
    (h : fs.append at_ octets = .ok fs') (hne : other ≠ at_) : fs'.look other = fs.look other := by
  unfold append at h
  split at h
  · obtain rfl := Except.ok.inj h
    simp [look, put, hne]
  · exact absurd h (by simp)
  · obtain rfl := Except.ok.inj h
    rfl

namespace Log

namespace Outputs

theorem held?_write_of_ne {o : Outputs} {d other : Destination} (hne : other ≠ d)
    (text : String) : (o.write d text).1.held? other = o.held? other := by
  cases d with
  | stdout =>
      cases other with
      | stdout => exact absurd rfl hne
      | stderr | file | buffer => rfl
  | stderr =>
      cases other with
      | stderr => exact absurd rfl hne
      | stdout | file | buffer => rfl
  | buffer =>
      cases other with
      | buffer => exact absurd rfl hne
      | stdout | stderr | file =>
          simp only [write]
          split
          all_goals rfl
  | file at_ =>
      cases hfiles : o.files.append at_ (Utf8.encode text) with
      | error cause => simp only [write, hfiles]
      | ok files =>
          cases other with
          | file place =>
              have hplace : place ≠ at_ := fun h => hne (congrArg Destination.file h)
              simp only [write, hfiles, held?, FileSystem.look_append_of_ne hfiles hplace]
          | stdout | stderr | buffer =>
              simp only [write, hfiles]
              rfl

/-- A text was written to a destination since an earlier state, and nothing else. -/
structure Wrote (before after : Outputs) (d : Destination) (text : String) : Prop where
  here : after.held? d = (before.held? d).map (· ++ Utf8.encode text)
  elsewhere : ∀ other, other ≠ d → after.held? other = before.held? other

theorem wrote_nothing (o : Outputs) (d : Destination) : Wrote o o d "" :=
  ⟨by simp [Utf8.encode], fun _ _ => rfl⟩

theorem Wrote.trans {o o' o'' : Outputs} {d : Destination} {s t : String} (h : Wrote o o' d s)
    (h' : Wrote o' o'' d t) : Wrote o o'' d (s ++ t) where
  here := by
    rw [h'.here, h.here, Option.map_map, Utf8.encode_append]
    simp [Function.comp_def]
  elsewhere other hne := by rw [h'.elsewhere other hne, h.elsewhere other hne]

theorem wrote_write {o : Outputs} {d : Destination} (h : o.Accepts d) (text : String) :
    Wrote o (o.write d text).1 d text :=
  ⟨held?_write h text, fun _ hne => held?_write_of_ne hne text⟩

end Outputs

/-! ## Lines and their numbers -/

/-- A line of a log: its entry, and whether the emitter chooses the identifier. -/
structure Line where
  entry : Entry
  isAuto : Bool

/-- The line of an entry that no emitter has seen: one without an identifier needs one. -/
def Line.of (entry : Entry) : Line := ⟨entry, entry.traceId = ""⟩

/-- The line with a number, if the emitter chooses its identifier. -/
def Line.number (run : String) (n : Nat) (l : Line) : Line :=
  if l.isAuto then { l with entry := { l.entry with traceId := Emitter.traceId run n } } else l

/-- Gives the lines that need a number the numbers behind those that were taken, in order. -/
def renumber (run : String) (taken : Nat) (lines : List Line) : List Line :=
  lines.mapIdx fun i l => l.number run (taken + (lines.take i).countP (·.isAuto) + 1)

namespace Line

variable (run : String) (n : Nat) (l : Line)

@[simp] theorem isAuto_number : (l.number run n).isAuto = l.isAuto := by
  unfold number
  split
  · rfl
  · rfl

@[simp] theorem level_number : (l.number run n).entry.level = l.entry.level := by
  unfold number
  split
  · rfl
  · rfl

/-- The last number counts. -/
@[simp] theorem number_number (m : Nat) : (l.number run m).number run n = l.number run n := by
  unfold number
  split
  · rfl
  · rfl

end Line

@[simp] theorem renumber_nil (run : String) (taken : Nat) : renumber run taken [] = [] := rfl

theorem renumber_cons (run : String) (taken : Nat) (l : Line) (rest : List Line) :
    renumber run taken (l :: rest) =
      l.number run (taken + 1) :: renumber run (taken + if l.isAuto then 1 else 0) rest := by
  have hcount (i : Nat) : taken + ((l :: rest).take (i + 1)).countP (·.isAuto) + 1 =
      (taken + if l.isAuto then 1 else 0) + (rest.take i).countP (·.isAuto) + 1 := by
    rw [List.take_succ_cons, List.countP_cons]
    omega
  simp only [renumber, List.mapIdx_cons, hcount]
  rfl

/-- The numbers follow each other without gaps. -/
theorem traceIds_renumber (run : String) (taken : Nat) (lines : List Line) :
    ((renumber run taken lines).filter (·.isAuto)).map (·.entry.traceId) =
      (List.range (lines.countP (·.isAuto))).map fun k =>
        Emitter.traceId run (taken + k + 1) := by
  induction lines generalizing taken with
  | nil => rfl
  | cons l rest ih =>
      rw [renumber_cons, List.filter_cons, List.countP_cons, Line.isAuto_number]
      cases hauto : l.isAuto with
      | false => simpa using ih taken
      | true =>
          -- the first line takes a number, and the others go on behind it
          have hnext (k : Nat) : taken + 1 + k + 1 = taken + (k + 1) + 1 := by omega
          simp only [if_true, List.map_cons, ih, hnext, List.range_succ_eq_map, List.map_map,
            Function.comp_def]
          simp [Line.number, hauto]

/-- **Leaving lines out and numbering the others anew** forgets the numbers from before. -/
theorem renumber_filter_renumber (run : String) {p : Line → Bool}
    (hp : ∀ l n, p (l.number run n) = p l) (taken before : Nat) (lines : List Line) :
    renumber run taken ((renumber run before lines).filter p) =
      renumber run taken (lines.filter p) := by
  induction lines generalizing taken before with
  | nil => rfl
  | cons l rest ih =>
      rw [renumber_cons, List.filter_cons, List.filter_cons, hp]
      split
      · rw [renumber_cons, renumber_cons, Line.number_number, Line.isAuto_number, ih]
      · exact ih ..

/-- Different numbers make different identifiers. -/
theorem Emitter.traceId_inj {run : String} {m n : Nat} (h : traceId run m = traceId run n) :
    m = n := by
  have hdigits : Numeral.padded 3 m = Numeral.padded 3 n := by
    have hlists := congrArg String.toList h
    simpa [traceId] using hlists
  have hread := congrArg Numeral.ofDecimal hdigits
  rwa [Numeral.ofDecimal_padded, Numeral.ofDecimal_padded] at hread

/-- A number has three digits at least, and more only if it needs them. -/
theorem Emitter.traceId_digits (run : String) (n : Nat) :
    ∃ digits : List Char, traceId run n = "syslookup::" ++ run ++ "::" ++ String.ofList digits ∧
      digits.length = max 3 (Numeral.decimal n).length ∧ (∀ c ∈ digits, c.isDigit = true) ∧
      Numeral.ofDecimal digits = n := by
  refine ⟨Numeral.padded 3 n, rfl, ?_, ?_, Numeral.ofDecimal_padded 3 n⟩
  · simp only [Numeral.padded, List.length_append, List.length_replicate]
    omega
  · intro c hc
    rcases List.mem_append.mp hc with hzero | hdigit
    · obtain ⟨-, rfl⟩ := List.mem_replicate.mp hzero
      rfl
    · exact Json.isDigit_of_mem_decimal hdigit

example : Emitter.traceId "42" 7 = "syslookup::42::007" := by decide

example : Emitter.traceId "42" 1000 = "syslookup::42::1000" := by decide

/-! ## The text of a log -/

/-- The text of some lines, each with its line break. -/
def textOf (lines : List Line) : String := String.join (lines.map fun l => l.entry.line ++ "\n")

theorem textOf_append (lines rest : List Line) :
    textOf (lines ++ rest) = textOf lines ++ textOf rest := by
  rw [textOf, List.map_append, String.join_append]
  rfl

/-- No entry breaks its line. -/
theorem Entry.newline_notMem_line (e : Entry) : '\n' ∉ e.line.toList :=
  Json.newline_notMem_compact e.toJson

/-- **The text falls apart into the lines** where its line breaks are. -/
theorem splitOn_textOf (lines : List Line) :
    (textOf lines).toList.splitOn '\n' = lines.map (·.entry.line.toList) ++ [[]] := by
  have htext : (textOf lines).toList = lines.flatMap fun l => l.entry.line.toList ++ ['\n'] := by
    simp [textOf, String.toList_join, List.flatMap_map]
  rw [htext]
  clear htext
  induction lines with
  | nil => rfl
  | cons l rest ih =>
      rw [List.flatMap_cons, List.append_assoc, List.singleton_append,
        List.splitOn_append_cons_self_of_not_mem l.entry.newline_notMem_line, ih]
      rfl

/-! ## What an emitter writes -/

/-- The entry takes a number from an emitter behind a filter. -/
def Level.numbers (filter : Level) (entry : Entry) : Bool :=
  filter.passes entry.level && entry.traceId = ""

/-- The lines of some entries behind a filter, numbered behind the numbers that were taken. -/
def linesFrom (run : String) (taken : Nat) (filter : Level) (entries : List Entry) : List Line :=
  renumber run taken ((entries.filter (filter.passes ·.level)).map Line.of)

theorem Emitter.past_identify (e : Emitter) (entry : Entry) :
    (e.identify entry).1 = e.past (if entry.traceId = "" then 1 else 0) := by
  unfold identify
  split
  · rfl
  · rfl

theorem Emitter.destination_identify (e : Emitter) (entry : Entry) :
    (e.identify entry).1.destination = e.destination := by
  rw [past_identify]
  rfl

theorem Emitter.snd_identify (e : Emitter) (entry : Entry) :
    (e.identify entry).2 = { entry with
      traceId := if entry.traceId = "" then traceId e.run (e.taken + 1) else entry.traceId } := by
  unfold identify
  split
  · rfl
  · rfl

theorem linesFrom_singleton (e : Emitter) (filter : Level) (entry : Entry) :
    linesFrom e.run e.taken filter [entry] =
      if filter.passes entry.level then [⟨(e.identify entry).2, entry.traceId = ""⟩] else [] := by
  unfold linesFrom
  by_cases h : filter.passes entry.level
  · by_cases hid : entry.traceId = ""
    all_goals simp [h, renumber_cons, Line.of, Line.number, Emitter.identify, hid]
  · simp [h]

/-- The first entry takes its number before all others do. -/
theorem linesFrom_cons (run : String) (taken : Nat) (filter : Level) (entry : Entry)
    (rest : List Entry) :
    linesFrom run taken filter (entry :: rest) =
      linesFrom run taken filter [entry] ++
        linesFrom run (taken + [entry].countP filter.numbers) filter rest := by
  unfold linesFrom
  by_cases h : filter.passes entry.level
  · by_cases hid : entry.traceId = ""
    all_goals simp [h, hid, renumber_cons, Line.of, Level.numbers]
  · simp [h, Level.numbers]

/-! ## The log of a process, entry by entry -/

namespace ProcessLog

/-- A log with an emitter and a level, whose destination takes what is written. -/
structure Connected (l : ProcessLog) (e : Emitter) (level : Level) : Prop where
  sink : l.sink? = some ⟨some e, level⟩
  accepts : l.outputs.Accepts e.destination

variable {l : ProcessLog} {e : Emitter} {level : Level}

/-- An entry that passes takes a line, and one that does not leaves the log as it is. -/
theorem Connected.emit_eq (h : l.Connected e level) (entry : Entry) :
    l.emit entry =
      if level.passes entry.level then
        ⟨some ⟨some (e.identify entry).1, level⟩,
          (l.outputs.write e.destination ((e.identify entry).2.line ++ "\n")).1⟩
      else l := by
  obtain ⟨sink?, outputs⟩ := l
  obtain rfl : sink? = _ := h.sink
  simp only [ProcessLog.emit, Sink.emit]
  split
  · simp only [Emitter.emit, e.destination_identify]
  · rfl

/-- **One entry** takes its line, and its number if it needs one. -/
theorem Connected.emit (h : l.Connected e level) (entry : Entry) :
    (l.emit entry).Connected (e.past ([entry].countP level.numbers)) level ∧
      Outputs.Wrote l.outputs (l.emit entry).outputs e.destination
        (textOf (linesFrom e.run e.taken level [entry])) := by
  rw [h.emit_eq, linesFrom_singleton]
  by_cases hpass : level.passes entry.level
  · have hpast : (e.identify entry).1 = e.past ([entry].countP level.numbers) := by
      rw [e.past_identify]
      simp [Level.numbers, hpass]
    have htext : textOf [⟨(e.identify entry).2, entry.traceId = ""⟩] =
        (e.identify entry).2.line ++ "\n" := by
      simp [textOf]
    rw [if_pos hpass, if_pos hpass, hpast, htext]
    exact ⟨⟨rfl, Outputs.accepts_write h.accepts _⟩, Outputs.wrote_write h.accepts _⟩
  · have hpast : e.past ([entry].countP level.numbers) = e := by
      simp [Level.numbers, hpass, Emitter.past]
    rw [if_neg hpass, if_neg hpass, hpast]
    exact ⟨h, Outputs.wrote_nothing _ _⟩

/-- **Any number of entries** take their lines and numbers one after the other. -/
theorem Connected.foldl_emit (h : l.Connected e level) (entries : List Entry) :
    (entries.foldl ProcessLog.emit l).Connected (e.past (entries.countP level.numbers)) level ∧
      Outputs.Wrote l.outputs (entries.foldl ProcessLog.emit l).outputs e.destination
        (textOf (linesFrom e.run e.taken level entries)) := by
  induction entries generalizing l e with
  | nil => exact ⟨h, Outputs.wrote_nothing _ _⟩
  | cons entry rest ih =>
      obtain ⟨hfirst, hwrote⟩ := h.emit entry
      obtain ⟨hrest, hwrote'⟩ := ih hfirst
      refine ⟨?_, ?_⟩
      · have hcount : (entry :: rest).countP level.numbers =
            [entry].countP level.numbers + rest.countP level.numbers := by
          rw [← List.singleton_append, List.countP_append]
        rw [hcount, ← Emitter.past_past]
        exact hrest
      · rw [linesFrom_cons, textOf_append]
        exact hwrote.trans hwrote'

end ProcessLog

/-! ## The law of the stream -/

theorem Level.passes_trace (level : Level) : Level.trace.passes level = true := by
  cases level
  all_goals rfl

/-- What is to say of the lines of a new emitter, behind a filter. -/
structure IsStream (run : String) (filter : Level) (entries : List Entry) (lines : List Line) :
    Prop where
  /--
  Every entry that passes has its line, in order. The identifier of an entry stays if it has
  one, and else it is made of the number of such entries up to here.
  -/
  line_of_entry :
    let passing := entries.filter (filter.passes ·.level)
    ∀ i, lines[i]? = passing[i]?.map fun entry =>
      if entry.traceId = "" then
        let number := (passing.take i).countP (·.traceId = "") + 1
        ⟨{ entry with traceId := Emitter.traceId run number }, true⟩
      else ⟨entry, false⟩
  /-- The only line break of a line is the one behind it. -/
  unbroken : ∀ l ∈ lines, '\n' ∉ l.entry.line.toList
  /-- The text falls apart into the lines. -/
  splits : (textOf lines).toList.splitOn '\n' = lines.map (·.entry.line.toList) ++ [[]]
  /-- A line gives its entry back. -/
  reads_back : ∀ l ∈ lines, l.entry.Restorable →
    Entry.parse l.entry.line = .ok l.entry.readBack
  /-- The identifiers that were chosen count from one, without gaps. -/
  chosen : (lines.filter (·.isAuto)).map (·.entry.traceId) =
    (List.range (entries.countP filter.numbers)).map fun k => Emitter.traceId run (k + 1)
  /-- No two entries were given the same identifier. -/
  distinct : ((lines.filter (·.isAuto)).map (·.entry.traceId)).Nodup
  /-- The lines are those of all levels, without the ones that do not pass, and numbered anew. -/
  renumbered : lines =
    renumber run 0 ((linesFrom run 0 .trace entries).filter (filter.passes ·.entry.level))

variable (run : String) (filter : Level) (entries : List Entry)

theorem getElem?_linesFrom (i : Nat) :
    let passing := entries.filter (filter.passes ·.level)
    (linesFrom run 0 filter entries)[i]? = passing[i]?.map fun entry =>
      if entry.traceId = "" then
        let number := (passing.take i).countP (·.traceId = "") + 1
        ⟨{ entry with traceId := Emitter.traceId run number }, true⟩
      else ⟨entry, false⟩ := by
  dsimp only
  generalize hpassing : entries.filter (filter.passes ·.level) = passing
  rw [linesFrom, hpassing, renumber, List.getElem?_mapIdx, List.getElem?_map, Option.map_map,
    ← List.map_take, List.countP_map, Nat.zero_add]
  congr 1
  funext entry
  by_cases hid : entry.traceId = ""
  · simp [Line.of, Line.number, hid, Function.comp_def]
  · simp [Line.of, Line.number, hid]

theorem chosen_linesFrom :
    ((linesFrom run 0 filter entries).filter (·.isAuto)).map (·.entry.traceId) =
      (List.range (entries.countP filter.numbers)).map fun k => Emitter.traceId run (k + 1) := by
  have hcount : ((entries.filter (filter.passes ·.level)).map Line.of).countP (·.isAuto) =
      entries.countP filter.numbers := by
    rw [List.countP_map, List.countP_filter]
    congr 1
    funext entry
    simp [Line.of, Level.numbers, Bool.and_comm]
  rw [linesFrom, traceIds_renumber, hcount]
  simp

theorem linesFrom_eq_renumber (taken : Nat) :
    linesFrom run taken filter entries =
      renumber run taken
        ((linesFrom run taken .trace entries).filter (filter.passes ·.entry.level)) := by
  -- at the most verbose level nothing is left out
  have hall : (entries.filter (Level.trace.passes ·.level)) = entries := by
    simp [Level.passes_trace]
  have hkeep : (entries.map Line.of).filter (filter.passes ·.entry.level) =
      (entries.filter (filter.passes ·.level)).map Line.of := by
    rw [List.filter_map]
    rfl
  rw [linesFrom, linesFrom, hall, renumber_filter_renumber run (by simp), hkeep]

theorem isStream_linesFrom : IsStream run filter entries (linesFrom run 0 filter entries) where
  line_of_entry := getElem?_linesFrom run filter entries
  unbroken l _ := l.entry.newline_notMem_line
  splits := splitOn_textOf _
  reads_back _ _ h := Entry.parse_line h
  chosen := chosen_linesFrom run filter entries
  distinct := by
    rw [chosen_linesFrom]
    refine List.Pairwise.map _ (fun m n hne h => ?_) List.nodup_range
    have hmn := Emitter.traceId_inj h
    omega
  renumbered := linesFrom_eq_renumber run filter entries 0

end Log

/-! ## The log of a session -/

namespace Session

open Log (Destination Emitter Entry Level)

/--
**A log is the stream of its entries.**

When a new emitter has been installed whose destination takes what is written, all
that is written afterwards are the lines of the entries that pass the level, and
they go to that destination. They make a stream: the lines can be told apart, give
their entries back, and bear numbers that count the entries without an identifier.
The emitter has taken one number for each of these, and so never more than there
were entries. A number is written with at least three digits.
-/
theorem emit_stream (s : Session) (d : Destination) (run : String) (level : Level)
    (entries : List Entry)
    (h : (s.install ⟨some { destination := d, run := run }, level⟩).log.outputs.Accepts d) :
    let emitter : Emitter := { destination := d, run := run }
    let begun := s.install ⟨some emitter, level⟩
    let after := entries.foldl emit begun
    let lines := Log.linesFrom run 0 level entries
    let count := entries.countP level.numbers
    after.log.outputs.held? d =
        (begun.log.outputs.held? d).map (· ++ Utf8.encode (Log.textOf lines)) ∧
      (∀ other, other ≠ d → after.log.outputs.held? other = begun.log.outputs.held? other) ∧
      Log.IsStream run level entries lines ∧
      after.log.sink? = some ⟨some { emitter with taken := count }, level⟩ ∧
      count ≤ entries.length ∧
      ∀ n, ∃ digits : List Char,
        Emitter.traceId run n = "syslookup::" ++ run ++ "::" ++ String.ofList digits ∧
          digits.length = max 3 (Numeral.decimal n).length ∧
          (∀ c ∈ digits, c.isDigit = true) ∧ Numeral.ofDecimal digits = n := by
  intro emitter begun after lines count
  have hbegun : begun.log.Connected emitter level := ⟨rfl, h⟩
  obtain ⟨hafter, hwrote⟩ := hbegun.foldl_emit entries
  have hlog : after.log = entries.foldl Log.ProcessLog.emit begun.log :=
    log_foldl_emit (by rw [hbegun.sink]; rfl) entries
  rw [hlog]
  refine ⟨hwrote.here, hwrote.elsewhere, Log.isStream_linesFrom run level entries, ?_,
    List.countP_le_length, Emitter.traceId_digits run⟩
  rw [hafter.sink, Emitter.past]
  simp [emitter, count]

/-- Two of four entries take a number: one does not pass, and one has an identifier. -/
theorem emit_stream_four_entries :
    let entries : List Entry :=
      [.new ⟨0, 0⟩ .debug "first", .new ⟨0, 0⟩ .info "second",
        { Entry.new ⟨0, 0⟩ .warn "third" with traceId := "fixed" }, .new ⟨0, 0⟩ .error "fourth"]
    let begun := ({} : Session).install ⟨some { destination := .buffer, run := "42" }, .info⟩
    begun.log.outputs.Accepts .buffer ∧
      (entries.foldl emit begun).log.sink? =
        some ⟨some { destination := .buffer, run := "42", taken := 2 }, .info⟩ ∧
      (Log.linesFrom "42" 0 .info entries).map (·.entry.traceId) =
        ["syslookup::42::001", "fixed", "syslookup::42::002"] := by
  intro entries begun
  have haccepts : begun.log.outputs.Accepts .buffer := Log.Outputs.accepts_buffer_iff.mpr rfl
  obtain ⟨-, -, -, hsink, -, -⟩ := emit_stream {} .buffer "42" .info entries haccepts
  exact ⟨haccepts, hsink, by decide⟩

end Session

end Linkage
