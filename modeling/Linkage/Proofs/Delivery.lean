import Linkage.Log.Sink

/-!
# What is logged arrives

An entry passes through three hands on its way out: the sink looks at its level,
the emitter numbers it, and the outputs take its line. As long as the destination
takes what is written, none of them loses or reorders anything:

* the lines stand behind what the destination held before, in order;
* their numbers go on from the numbers that were taken before.
-/

namespace Linkage

theorem Utf8.encode_append (s t : String) : encode (s ++ t) = encode s ++ encode t := by
  simp [encode]

namespace FileSystem

variable {fs fs' : FileSystem} {at_ : Location} {octets : Bytes}

/-! ## Files grow at their end -/

/-- Only a device that is full refuses what is put at its end. -/
theorem append_ok_iff (octets : Bytes) :
    (∃ fs', fs.append at_ octets = .ok fs') ↔ fs.look at_ ≠ some (.device .full) := by
  unfold append
  split
  · rename_i hfile
    simp [hfile]
  · rename_i hfull
    simp [hfull]
  · rename_i hfull
    simpa using hfull

/-- A file has the octets at its end afterwards, and everything else is as it was. -/
theorem look_append (h : fs.append at_ octets = .ok fs') :
    fs'.look at_ =
      match fs.look at_ with
      | some (.file content) => some (.file (content ++ octets))
      | node => node := by
  unfold append at h
  split at h
  · rename_i content hfile
    have hroot : at_ ≠ [] := by
      rintro rfl
      exact absurd hfile (by simp [look])
    obtain rfl := Except.ok.inj h
    rw [hfile]
    simp [look, put, hroot]
  · exact absurd h (by simp)
  · rename_i hfile hfull
    obtain rfl := Except.ok.inj h
    split
    · rename_i content hlook
      exact absurd hlook (hfile content)
    · rfl

end FileSystem

namespace Log

namespace Outputs

variable {o : Outputs} {d : Destination}

/-! ## One destination -/

/-- What a destination holds; at a location only a file keeps what is written. -/
def held? (o : Outputs) : Destination → Option Bytes
  | .stdout => some (Utf8.encode o.stdout)
  | .stderr => some (Utf8.encode o.stderr)
  | .buffer => some (Utf8.encode o.buffer)
  | .file at_ =>
    match o.files.look at_ with
    | some (.file content) => some content
    | _ => none

/-- Every write to a destination succeeds. -/
def Accepts (o : Outputs) (d : Destination) : Prop := ∀ text, (o.write d text).2 = .ok ()

theorem accepts_file_iff {at_ : Location} :
    o.Accepts (.file at_) ↔ o.files.look at_ ≠ some (.device .full) := by
  have hwrite : ∀ text, (o.write (.file at_) text).2 = .ok () ↔
      ∃ fs, o.files.append at_ (Utf8.encode text) = .ok fs := by
    intro text
    cases h : o.files.append at_ (Utf8.encode text) <;> simp [write, h]
  constructor
  · intro h
    exact (FileSystem.append_ok_iff _).mp ((hwrite "").mp (h ""))
  · intro h text
    exact (hwrite text).mpr ((FileSystem.append_ok_iff _).mpr h)

theorem accepts_buffer_iff : o.Accepts .buffer ↔ o.refusal? = none := by
  constructor
  · intro h
    have hw := h ""
    unfold write at hw
    cases hr : o.refusal? with
    | none => rfl
    | some refusal => cases refusal <;> simp [hr] at hw
  · intro h text
    simp [write, h]

/-- What was written stands behind what was held. -/
theorem held?_write (h : o.Accepts d) (text : String) :
    (o.write d text).1.held? d = (o.held? d).map (· ++ Utf8.encode text) := by
  cases d with
  | stdout => simp [write, held?, Utf8.encode_append]
  | stderr => simp [write, held?, Utf8.encode_append]
  | buffer => simp [write, held?, accepts_buffer_iff.mp h, Utf8.encode_append]
  | file at_ =>
      obtain ⟨fs, hfs⟩ :=
        (FileSystem.append_ok_iff (Utf8.encode text)).mpr (accepts_file_iff.mp h)
      simp only [write, hfs, held?, FileSystem.look_append hfs]
      cases o.files.look at_ with
      | none => rfl
      | some node => cases node <;> rfl

/-- A write that is refused has changed nothing, or has written all the same. -/
theorem held?_write_cases (o : Outputs) (d : Destination) (text : String) :
    (o.write d text).1.held? d = o.held? d ∨
      (o.write d text).1.held? d = (o.held? d).map (· ++ Utf8.encode text) := by
  cases d with
  | stdout | stderr => exact .inr (held?_write (fun _ => rfl) text)
  | buffer =>
      cases hr : o.refusal? with
      | none => exact .inr (held?_write (accepts_buffer_iff.mpr hr) text)
      | some refusal =>
          cases refusal with
          | write => exact .inl (by simp [write, hr])
          | flush | file cause =>
              exact .inr (by simp [write, hr, held?, Utf8.encode_append])
  | file at_ =>
      cases happend : o.files.append at_ (Utf8.encode text) with
      | error cause => exact .inl (by simp [write, happend])
      | ok files =>
          have haccepts : o.Accepts (.file at_) :=
            accepts_file_iff.mpr ((FileSystem.append_ok_iff _).mp ⟨files, happend⟩)
          exact .inr (held?_write haccepts text)

/-- A destination goes on taking what is written. -/
theorem accepts_write (h : o.Accepts d) (text : String) : (o.write d text).1.Accepts d := by
  cases d with
  | stdout => exact fun _ => rfl
  | stderr => exact fun _ => rfl
  | buffer =>
      have hr := accepts_buffer_iff.mp h
      exact accepts_buffer_iff.mpr (by simp [write, hr])
  | file at_ =>
      have hfull := accepts_file_iff.mp h
      obtain ⟨fs, hfs⟩ := (FileSystem.append_ok_iff (Utf8.encode text)).mpr hfull
      rw [accepts_file_iff]
      simp only [write, hfs, FileSystem.look_append hfs]
      split
      · simp
      · exact hfull

end Outputs

namespace Emitter

/-! ## One emitter -/

/-- The entries with the identifiers that an emitter gives to entries without one. -/
def numbered (e : Emitter) (entries : List Entry) : List Entry :=
  entries.mapIdx fun k entry => { entry with traceId := traceId e.run (e.taken + k + 1) }

/-- The octets of some entries, each one on a line of its own. -/
def linesOf (entries : List Entry) : Bytes :=
  entries.flatMap fun entry => Utf8.encode (entry.line ++ "\n")

/-- The emitter after a number of further identifiers. -/
def past (e : Emitter) (count : Nat) : Emitter := { e with taken := e.taken + count }

theorem numbered_cons (e : Emitter) (entry : Entry) (rest : List Entry) :
    e.numbered (entry :: rest) = e.numbered [entry] ++ (e.past 1).numbered rest := by
  simp [numbered, past, Nat.add_assoc, Nat.add_comm, Nat.add_left_comm]

theorem linesOf_append (entries rest : List Entry) :
    linesOf (entries ++ rest) = linesOf entries ++ linesOf rest :=
  List.flatMap_append

theorem past_past (e : Emitter) (m n : Nat) : (e.past m).past n = e.past (m + n) := by
  simp [past, Nat.add_assoc]

end Emitter

namespace ProcessLog

/-! ## The log of a process -/

/-- A log that writes every entry: its sink has an emitter, admits all levels, and is obeyed. -/
structure Open (l : ProcessLog) (e : Emitter) (level : Level) : Prop where
  sink : l.sink? = some ⟨some e, level⟩
  admits : ∀ entryLevel, level.passes entryLevel = true
  accepts : l.outputs.Accepts e.destination

variable {l : ProcessLog} {e : Emitter} {level : Level}

/-- One entry takes one number and one line. -/
theorem Open.emit (h : l.Open e level) {entry : Entry} (hid : entry.traceId = "") :
    (l.emit entry).Open (e.past 1) level ∧
      (l.emit entry).outputs.held? e.destination =
        (l.outputs.held? e.destination).map (· ++ Emitter.linesOf (e.numbered [entry])) := by
  have hemit : l.emit entry =
      ⟨some ⟨some (e.past 1), level⟩, (l.outputs.write e.destination
        ({ entry with traceId := Emitter.traceId e.run (e.taken + 1) }.line ++ "\n")).1⟩ := by
    simp [ProcessLog.emit, h.sink, Sink.emit, h.admits, Emitter.emit, Emitter.identify, hid,
      Emitter.past]
  rw [hemit]
  refine ⟨⟨rfl, h.admits, Outputs.accepts_write h.accepts _⟩, ?_⟩
  rw [Outputs.held?_write h.accepts]
  simp [Emitter.linesOf, Emitter.numbered]

/-- Many entries take as many numbers, and their lines follow each other. -/
theorem Open.foldl_emit (h : l.Open e level) {entries : List Entry}
    (hid : ∀ entry ∈ entries, entry.traceId = "") :
    (entries.foldl ProcessLog.emit l).Open (e.past entries.length) level ∧
      (entries.foldl ProcessLog.emit l).outputs.held? e.destination =
        (l.outputs.held? e.destination).map (· ++ Emitter.linesOf (e.numbered entries)) := by
  induction entries generalizing l e with
  | nil => exact ⟨h, by simp [Emitter.linesOf, Emitter.numbered]⟩
  | cons entry rest ih =>
      obtain ⟨hopen, hheld⟩ := h.emit (hid entry (by simp))
      -- the others find the log open, with the next number in the emitter
      obtain ⟨hopen', hheld'⟩ := ih hopen fun entry hm => hid entry (by simp [hm])
      refine ⟨?_, ?_⟩
      · rw [List.length_cons, Nat.add_comm, ← Emitter.past_past]
        exact hopen'
      · have hdest : (e.past 1).destination = e.destination := rfl
        rw [List.foldl_cons, ← hdest, hheld', hdest, hheld, Option.map_map,
          Emitter.numbered_cons e entry rest, Emitter.linesOf_append]
        simp [Function.comp_def]

end ProcessLog

end Log

end Linkage
