import Linkage.Proofs.BufferedWriter
import Linkage.Proofs.LostLines
import Mathlib.Data.List.Basic
import Mathlib.Data.List.Induction

/-!
# A file that several emitters write to

Any number of emitters can be opened on one file, at any time, and each of them can
write in between the others. All of them found the file by the same path, so they
write at the same location, and every line is put at its end. What the file held is
still there in front, and the lines follow in the order of the calls.

Each emitter has its own buffer, but none of them holds anything back when another
emitter has its turn.
-/

namespace Linkage

namespace FileSystem

/-! ## The file at the start -/

/-- The content that a log starts from: that of its file, or none where a file can be made. -/
inductive StartsFrom (fs : FileSystem) (path : Path) : Bytes → Prop
  | file {content : Bytes} (here : fs.stat path = .ok (.file content)) :
      StartsFrom fs path content
  | missing (absent : fs.stat path = .error .notFound)
      (opens : ∃ opened, fs.openFile path = .ok opened) : StartsFrom fs path []

variable {fs : FileSystem} {content : Bytes}

/-- Either way the path leads to the place where the file is, or will be. -/
theorem StartsFrom.leads {path : Path} (h : fs.StartsFrom path content) :
    ∃ at_, fs.Leads path at_ ∧
      (fs.look at_ = some (.file content) ∨ fs.look at_ = none ∧ content = []) := by
  cases h with
  | file here =>
      obtain ⟨at_, hleads, hlook⟩ := leads_of_stat here (by simp)
      exact ⟨at_, hleads, .inl hlook⟩
  | missing absent opens =>
      obtain ⟨⟨at_, files⟩, hopen⟩ := opens
      obtain ⟨hleads, -, -⟩ := leads_of_openFile hopen
      refine ⟨at_, hleads, .inr ⟨?_, rfl⟩⟩
      rw [hleads.stat_eq] at absent
      cases hlook : fs.look at_ with
      | none => rfl
      | some node => simp [hlook] at absent

end FileSystem

namespace Log

/-! ## What is done with a log file -/

/-- A use of a log file: an emitter is opened on it, or one of those that were writes an entry. -/
inductive Use
  | attach (run : String)
  | emit (index : Nat) (entry : Entry)

namespace Use

/-- The name of the run of an emitter that is opened. -/
def run? : Use → Option String
  | .attach run => some run
  | .emit _ _ => none

/-- The use takes a number from an emitter. -/
def numbers (index : Nat) : Use → Bool
  | .attach _ => false
  | .emit i entry => i = index && entry.traceId = ""

/-- The runs of the emitters that were opened, in order. -/
def runs (uses : List Use) : List String := uses.filterMap run?

/-- Every emitter that writes was opened before. -/
def InOrder (uses : List Use) : Prop :=
  ∀ k index entry, uses[k]? = some (.emit index entry) → index < (runs (uses.take k)).length

/--
The entry that a use writes when other uses have come before it. If it needs a number, it
has the next one of its own emitter, and the run of that emitter.
-/
def written (before : List Use) : Use → Option Entry
  | .attach _ => none
  | .emit index entry =>
    let run := (runs before).getD index ""
    if entry.traceId = "" then
      some { entry with traceId := Emitter.traceId run (before.countP (numbers index) + 1) }
    else some entry

/-- The entries that some uses write, in the order of the uses. -/
def carried (uses : List Use) : List Entry :=
  (List.range uses.length).filterMap fun k => uses[k]?.bind (written (uses.take k))

variable {uses : List Use} {use : Use}

theorem inOrder_append (h : InOrder (uses ++ [use])) :
    InOrder uses ∧ ∀ index entry, use = .emit index entry → index < (runs uses).length := by
  constructor
  · intro k index entry hk
    obtain ⟨hlt, -⟩ := List.getElem?_eq_some_iff.mp hk
    have hk' := h k index entry (by rw [List.getElem?_append_left hlt, hk])
    rwa [List.take_append_of_le_length (Nat.le_of_lt hlt)] at hk'
  · intro index entry huse
    have hlast := h uses.length index entry (by simp [huse])
    simpa using hlast

theorem carried_append (uses : List Use) (use : Use) :
    carried (uses ++ [use]) = carried uses ++ (written uses use).toList := by
  have hfront : ∀ k ∈ List.range uses.length,
      ((uses ++ [use])[k]?.bind (written ((uses ++ [use]).take k))) =
        uses[k]?.bind (written (uses.take k)) := by
    intro k hk
    have hlt : k < uses.length := List.mem_range.mp hk
    rw [List.getElem?_append_left hlt, List.take_append_of_le_length (Nat.le_of_lt hlt)]
  unfold carried
  rw [List.length_append, List.length_singleton, List.range_succ, List.filterMap_append,
    List.filterMap_congr hfront]
  congr 1
  cases h : written uses use with
  | none => simp [h]
  | some entry => simp [h]

theorem runs_append (uses rest : List Use) : runs (uses ++ rest) = runs uses ++ runs rest :=
  List.filterMap_append

end Use

/-! ## The emitters of one file -/

/-- The emitters that were opened on a file, in order, and the outputs. -/
structure Sharing where
  emitters : List Emitter := []
  outputs : Outputs

/-- Why a use fails. -/
inductive UseFailure
  | unopened (cause : FileError)
  | noEmitter
  | refused (cause : Refusal)

namespace Sharing

/-- Makes use of the file at a path. -/
def step (path : Path) (s : Sharing) : Use → Except UseFailure Sharing
  | .attach run =>
    match Emitter.ofTarget (.file path) run s.outputs with
    | .ok (e?, outputs) => .ok ⟨s.emitters ++ e?.toList, outputs⟩
    | .error cause => .error (.unopened cause)
  | .emit index entry =>
    match s.emitters[index]? with
    | none => .error .noEmitter
    | some e =>
      match e.emit entry s.outputs with
      | (e, outputs, .ok ()) => .ok ⟨s.emitters.set index e, outputs⟩
      | (_, _, .error cause) => .error (.refused cause)

/-- Makes use of the file at a path several times, as long as nothing fails. -/
def run (path : Path) (s : Sharing) (uses : List Use) : Except UseFailure Sharing :=
  uses.foldlM (step path) s

/-- The emitters after some uses: each one has taken the numbers of its own entries. -/
def emittersAfter (at_ : Location) (uses : List Use) : List Emitter :=
  (Use.runs uses).mapIdx fun index run =>
    { destination := .file at_, run, taken := uses.countP (Use.numbers index) }

/--
What holds after some uses of a file that held some content at first: the lines were
written behind it, the emitters count their entries, and nothing else has changed.
-/
structure After (path : Path) (at_ : Location) (content : Bytes) (start : Outputs)
    (uses : List Use) (s : Sharing) : Prop where
  leads : s.outputs.files.Leads path at_
  holds : s.outputs.files.look at_ =
      some (.file (content ++ Emitter.linesOf (Use.carried uses))) ∨
    s.outputs.files.look at_ = none ∧ content = [] ∧ uses = []
  emitters : s.emitters = emittersAfter at_ uses
  /-- No entry was written by an emitter that was not opened. -/
  idle : ∀ index, (Use.runs uses).length ≤ index → uses.countP (Use.numbers index) = 0
  elsewhere : ∀ other, other ≠ at_ → s.outputs.files.look other = start.files.look other
  streams : s.outputs = { start with files := s.outputs.files }

variable {path : Path} {at_ : Location} {content : Bytes} {start : Outputs} {uses : List Use}
  {s : Sharing}

theorem emittersAfter_attach (run : String)
    (hidle : uses.countP (Use.numbers (Use.runs uses).length) = 0) :
    emittersAfter at_ (uses ++ [.attach run]) =
      emittersAfter at_ uses ++ [{ destination := .file at_, run }] := by
  have hcount (index : Nat) : (uses ++ [Use.attach run]).countP (Use.numbers index) =
      uses.countP (Use.numbers index) := by
    simp [List.countP_append, Use.numbers]
  have hruns : Use.runs (uses ++ [.attach run]) = Use.runs uses ++ [run] := by
    rw [Use.runs_append]
    rfl
  simp only [emittersAfter, hruns, hcount, List.mapIdx_concat, hidle]

/-- An entry moves its own emitter on, and no other one. -/
theorem emittersAfter_emit {index : Nat} {entry : Entry} {e : Emitter}
    (he : (emittersAfter at_ uses)[index]? = some e) :
    emittersAfter at_ (uses ++ [.emit index entry]) =
      (emittersAfter at_ uses).set index (e.past (if entry.traceId = "" then 1 else 0)) := by
  have hruns : Use.runs (uses ++ [.emit index entry]) = Use.runs uses := by
    rw [Use.runs_append]
    exact List.append_nil _
  refine List.ext_getElem? fun i => ?_
  by_cases hi : index = i
  · subst hi
    obtain ⟨hlt, -⟩ := List.getElem?_eq_some_iff.mp he
    rw [List.getElem?_set_self hlt]
    simp only [emittersAfter, List.getElem?_mapIdx] at he
    simp only [emittersAfter, hruns, List.getElem?_mapIdx, List.countP_append]
    cases hrun : (Use.runs uses)[index]? with
    | none => simp [hrun] at he
    | some run =>
        obtain rfl : _ = e := by simpa [hrun] using he
        by_cases hid : entry.traceId = ""
        · simp [Use.numbers, hid, Emitter.past]
        · simp [Use.numbers, hid, Emitter.past]
  · rw [List.getElem?_set_ne hi]
    simp [emittersAfter, hruns, List.countP_append, Use.numbers, hi]

/-- **One more emitter** finds the file, or makes an empty one, and has taken no number. -/
theorem After.attach (h : After path at_ content start uses s) (run : String) :
    ∃ s', s.step path (.attach run) = .ok s' ∧
      After path at_ content start (uses ++ [.attach run]) s' := by
  have hcarried : Use.carried (uses ++ [.attach run]) = Use.carried uses := by
    rw [Use.carried_append]
    exact List.append_nil _
  -- the file system afterwards: the file that was there, or a new one
  obtain ⟨files, hopen, hgrown, hfile, helsewhere⟩ : ∃ files,
      s.outputs.files.openFile path = .ok (at_, files) ∧
      s.outputs.files.Grown files ∧
      files.look at_ = some (.file (content ++ Emitter.linesOf (Use.carried uses))) ∧
      ∀ other, other ≠ at_ → files.look other = s.outputs.files.look other := by
    rcases h.holds with hfile | ⟨hnone, rfl, rfl⟩
    · exact ⟨_, by rw [h.leads.openFile_eq, hfile], .refl _, hfile, fun _ _ => rfl⟩
    · refine ⟨_, by rw [h.leads.openFile_eq, hnone],
        FileSystem.grown_put_of_none hnone _, ?_, fun other hne =>
        FileSystem.look_put_of_ne hne _⟩
      exact FileSystem.look_put _ (FileSystem.ne_root_of_look hnone (by simp)) _
  refine ⟨⟨s.emitters ++ [{ destination := .file at_, run }], { s.outputs with files }⟩, ?_, ?_⟩
  · simp [step, Emitter.ofTarget, Outputs.openTarget, hopen, bind, Except.bind, pure, Except.pure]
  · refine ⟨hgrown.leads h.leads, .inl ?_, ?_, ?_, ?_, ?_⟩
    · rw [hcarried]
      exact hfile
    · rw [emittersAfter_attach run (h.idle _ (Nat.le_refl _)), h.emitters]
    · intro index hindex
      have hcount := h.idle index (by
        rw [Use.runs_append] at hindex
        simp at hindex
        omega)
      simp [List.countP_append, hcount, Use.numbers]
    · intro other hne
      rw [helsewhere other hne, h.elsewhere other hne]
    · rw [h.streams]

/-- **One more entry** puts its line at the end of the file, with the number of its emitter. -/
theorem After.emit (h : After path at_ content start uses s) {index : Nat} (entry : Entry)
    (hindex : index < (Use.runs uses).length) :
    ∃ s', s.step path (.emit index entry) = .ok s' ∧
      After path at_ content start (uses ++ [.emit index entry]) s' := by
  obtain ⟨run, hrun⟩ : ∃ run, (Use.runs uses)[index]? = some run :=
    ⟨_, List.getElem?_eq_getElem hindex⟩
  let e : Emitter := { destination := .file at_, run, taken := uses.countP (Use.numbers index) }
  have he : (emittersAfter at_ uses)[index]? = some e := by
    simp [emittersAfter, hrun, e]
  have hfile : s.outputs.files.look at_ =
      some (.file (content ++ Emitter.linesOf (Use.carried uses))) := by
    rcases h.holds with hfile | ⟨-, -, rfl⟩
    · exact hfile
    · exact absurd hindex (by simp [Use.runs])
  let line := (e.identify entry).2.line ++ "\n"
  have hwritten : Use.written uses (.emit index entry) = some (e.identify entry).2 := by
    by_cases hid : entry.traceId = ""
    · simp [Use.written, hrun, Emitter.identify, hid, e]
    · simp [Use.written, Emitter.identify, hid]
  have hcarried : Emitter.linesOf (Use.carried (uses ++ [.emit index entry])) =
      Emitter.linesOf (Use.carried uses) ++ Utf8.encode line := by
    rw [Use.carried_append, hwritten, Emitter.linesOf_append]
    simp [Emitter.linesOf, line]
  let node := FileNode.file (content ++ Emitter.linesOf (Use.carried uses) ++ Utf8.encode line)
  let files := s.outputs.files.put at_ node
  have happend : s.outputs.files.append at_ (Utf8.encode line) = .ok files :=
    FileSystem.append_eq hfile (Utf8.encode line)
  have hgrown : s.outputs.files.Grown files :=
    FileSystem.grown_put_of_not_directory (by simp [hfile]) (by simp [node])
  have hemit : e.emit entry s.outputs =
      (e.past (if entry.traceId = "" then 1 else 0), { s.outputs with files }, .ok ()) := by
    refine Prod.ext (Emitter.fst_emit e s.outputs entry) ?_
    rw [Emitter.snd_emit]
    show s.outputs.write (.file at_) line = _
    simp only [Outputs.write, happend]
  have hstep : s.step path (.emit index entry) =
      .ok ⟨(emittersAfter at_ uses).set index (e.past (if entry.traceId = "" then 1 else 0)),
        { s.outputs with files }⟩ := by
    simp only [step, h.emitters, he, hemit]
  refine ⟨_, hstep, ?_⟩
  refine ⟨hgrown.leads h.leads, .inl ?_, (emittersAfter_emit he).symm, ?_, ?_, ?_⟩
  · rw [hcarried, FileSystem.look_put _ (FileSystem.ne_root_of_look hfile (by simp)),
      ← List.append_assoc]
  · intro i hi
    have hruns : Use.runs (uses ++ [.emit index entry]) = Use.runs uses := by
      rw [Use.runs_append]
      exact List.append_nil _
    rw [hruns] at hi
    have hne : index ≠ i := by omega
    simp [List.countP_append, h.idle i hi, Use.numbers, hne]
  · intro other hne
    rw [FileSystem.look_put_of_ne hne, h.elsewhere other hne]
  · rw [h.streams]

theorem run_append (path : Path) (s : Sharing) (uses : List Use) (use : Use) :
    s.run path (uses ++ [use]) = s.run path uses >>= fun s => s.step path use := by
  simp [run, List.foldlM_append]

/--
**Any number of uses** put their lines at the end, if each emitter is opened before it writes.
-/
theorem after_run (hleads : start.files.Leads path at_)
    (hstart : start.files.look at_ = some (.file content) ∨
      start.files.look at_ = none ∧ content = [])
    (horder : Use.InOrder uses) :
    ∃ s, run path ⟨[], start⟩ uses = .ok s ∧ After path at_ content start uses s := by
  induction uses using List.reverseRecOn with
  | nil =>
      refine ⟨⟨[], start⟩, rfl, hleads, ?_, rfl, fun _ _ => rfl, fun _ _ => rfl, rfl⟩
      rcases hstart with hfile | ⟨hnone, hempty⟩
      · exact .inl (by simpa [Use.carried, Emitter.linesOf] using hfile)
      · exact .inr ⟨hnone, hempty, rfl⟩
  | append_singleton uses use ih =>
      obtain ⟨hbefore, huse⟩ := Use.inOrder_append horder
      obtain ⟨s, hrun, hafter⟩ := ih hbefore
      rw [run_append, hrun]
      cases use with
      | attach run => exact hafter.attach run
      | emit index entry => exact hafter.emit entry (huse index entry rfl)

/-- The lines are a text that falls apart into them where its line breaks are. -/
theorem splitOn_linesOf (entries : List Entry) :
    ∃ text : String, Emitter.linesOf entries = Utf8.encode text ∧
      text.toList.splitOn '\n' = entries.map (·.line.toList) ++ [[]] := by
  have htext : Emitter.linesOf entries = Utf8.encode (textOf (entries.map Line.of)) := by
    induction entries with
    | nil => rfl
    | cons entry rest ih =>
        rw [← List.singleton_append, List.map_append, textOf_append, Utf8.encode_append, ← ih,
          Emitter.linesOf_append]
        simp [Emitter.linesOf, textOf, Line.of]
  refine ⟨_, htext, ?_⟩
  rw [splitOn_textOf, List.map_map]
  rfl

/-- An emitter that was opened on a path writes to the file that was opened there. -/
theorem ofTarget_file {run : String} {o o' : Outputs} {e? : Option Emitter}
    (h : Emitter.ofTarget (.file path) run o = .ok (e?, o')) :
    ∃ at_ files, o.files.openFile path = .ok (at_, files) ∧
      e? = some { destination := .file at_, run } ∧ o' = { o with files } := by
  obtain ⟨⟨destination?, outputs⟩, hopen, h⟩ := FileSystem.bind_eq_ok_iff.mp h
  obtain ⟨⟨at_, files⟩, hfile, hopen⟩ := FileSystem.bind_eq_ok_iff.mp hopen
  cases hopen
  cases h
  exact ⟨at_, files, hfile, rfl, rfl⟩

/-- Opening a target changes nothing that exists. -/
theorem look_ofTarget {target : Target} {run : String} {o o' : Outputs} {e? : Option Emitter}
    (h : Emitter.ofTarget target run o = .ok (e?, o')) :
    o' = { o with files := o'.files } ∧
      ∀ at_ node, o.files.look at_ = some node → o'.files.look at_ = some node := by
  cases target with
  | off | stderr | stdout =>
      cases h
      exact ⟨rfl, fun _ _ => id⟩
  | file path =>
      obtain ⟨at_, files, hopen, -, rfl⟩ := ofTarget_file h
      obtain ⟨-, -, hfiles⟩ := FileSystem.leads_of_openFile hopen
      refine ⟨rfl, fun other node hnode => ?_⟩
      show files.look other = some node
      rw [hfiles]
      split
      · -- a new file is not where something stands
        rename_i hnone
        have hne : other ≠ at_ := by
          rintro rfl
          exact absurd (hnone.symm.trans hnode) (by simp)
        rw [FileSystem.look_put_of_ne hne, hnode]
      · exact hnode

/-- A sink without an emitter has left the outputs as they were. -/
theorem ofConfig_of_no_emitter {config : Config} {run : String} {o : Outputs}
    (h : (Sink.ofConfig config run o).1.emitter? = none) :
    (Sink.ofConfig config run o).2 = o := by
  unfold Sink.ofConfig at h ⊢
  cases hopen : Emitter.ofTarget config.logTarget run o with
  | error cause => rfl
  | ok opened =>
      obtain ⟨e?, outputs⟩ := opened
      simp only [hopen] at h ⊢
      subst h
      cases htarget : config.logTarget with
      | off =>
          rw [htarget] at hopen
          cases hopen
          rfl
      | stderr | stdout =>
          rw [htarget] at hopen
          cases hopen
      | file path =>
          rw [htarget] at hopen
          obtain ⟨_, _, -, he, -⟩ := ofTarget_file hopen
          cases he

/--
**A log file grows by whole lines, whoever writes to it.**

Emitters are opened on a path that leads to a file, or to where one can be made, and each of
them writes entries once it is open, in any order among each other. No use fails. The file then
holds what it held before and behind it the lines of the entries, in the order of the calls. Each
line is whole and gives its entry back, and a number in it counts the entries of its own emitter.
Nothing else changes. A buffer in front of the file, however small, makes no difference to a line.

Opening leaves all that exists as it is, and where nothing could be opened nothing was changed.
-/
theorem run_appends_lines (path : Path) (content : Bytes) (start : Outputs) (uses : List Use)
    (hstart : start.files.StartsFrom path content) (horder : Use.InOrder uses) :
    (∃ at_ after, run path ⟨[], start⟩ uses = .ok after ∧
      (uses ≠ [] → after.outputs.files.read path =
        .ok (content ++ Emitter.linesOf (Use.carried uses))) ∧
      after.emitters = emittersAfter at_ uses ∧
      after.outputs = { start with files := after.outputs.files } ∧
      (∀ other, other ≠ at_ → after.outputs.files.look other = start.files.look other) ∧
      (uses ≠ [] → ∀ capacity line,
        Buffered.writeLine ⟨capacity, []⟩ line after.outputs.files at_ =
          (after.outputs.files.append at_ (Utf8.encode (line ++ "\n"))).map
            fun files => (⟨capacity, []⟩, files))) ∧
    (∃ text : String, Emitter.linesOf (Use.carried uses) = Utf8.encode text ∧
      text.toList.splitOn '\n' = (Use.carried uses).map (·.line.toList) ++ [[]]) ∧
    (∀ entry ∈ Use.carried uses, entry.Restorable →
      Entry.parse entry.line = .ok entry.readBack) ∧
    (∀ target run o e? o', Emitter.ofTarget target run o = .ok (e?, o') →
      o' = { o with files := o'.files } ∧
        ∀ at_ node, o.files.look at_ = some node → o'.files.look at_ = some node) ∧
    ∀ config run o, (Sink.ofConfig config run o).1.emitter? = none →
      (Sink.ofConfig config run o).2 = o := by
  obtain ⟨at_, hleads, hfirst⟩ := hstart.leads
  obtain ⟨after, hrun, hafter⟩ := after_run hleads hfirst horder
  have hfile (hused : uses ≠ []) : after.outputs.files.look at_ =
      some (.file (content ++ Emitter.linesOf (Use.carried uses))) := by
    rcases hafter.holds with hfile | ⟨-, -, hnone⟩
    · exact hfile
    · exact absurd hnone hused
  refine ⟨⟨at_, after, hrun, fun hused => hafter.leads.read_eq (hfile hused), hafter.emitters,
    hafter.streams, hafter.elsewhere, fun hused => Buffered.writeLine_eq (hfile hused)⟩,
    splitOn_linesOf _, fun _ _ => Entry.parse_line, fun _ _ _ _ _ => look_ofTarget,
    fun _ _ _ => ofConfig_of_no_emitter⟩

/-- Two emitters take turns on a file that has a line already. -/
theorem run_appends_lines_two_emitters :
    let path := Path.ofString "log"
    let old := Utf8.encode "old\n"
    let start : Outputs := { files :=
      ⟨fun at_ => if at_ = [Utf8.encode "log"] then some (.file old) else none, []⟩ }
    let first := Entry.new ⟨0, 0⟩ .info "first"
    let second := { Entry.new ⟨0, 0⟩ .warn "second" with traceId := "fixed" }
    let third := Entry.new ⟨0, 0⟩ .error "third"
    let uses : List Use :=
      [.attach "1", .emit 0 first, .attach "2", .emit 1 third, .emit 1 second, .emit 0 third]
    start.files.stat path = .ok (.file old) ∧
      ((Use.carried uses).map (·.traceId) =
        ["syslookup::1::001", "syslookup::2::001", "fixed", "syslookup::1::002"]) ∧
      ∃ after, run path ⟨[], start⟩ uses = .ok after ∧
        after.outputs.files.read path = .ok (old ++ Emitter.linesOf (Use.carried uses)) := by
  intro path old start first second third uses
  have hstat : start.files.stat path = .ok (.file old) := by rfl
  have horder : Use.InOrder uses := by
    intro k index entry hk
    match k with
    | 0 | 2 => cases hk
    | 1 | 3 | 4 | 5 =>
        cases hk
        decide
    | k + 6 => cases hk
  obtain ⟨⟨at_, after, hrun, hread, -⟩, -⟩ :=
    run_appends_lines path old start uses (.file hstat) horder
  exact ⟨hstat, by decide, after, hrun, hread (by simp [uses])⟩

end Sharing

end Log

end Linkage
