import Linkage.Proofs.Degradation
import Linkage.Proofs.FileName
import Linkage.Proofs.LogStream
import Linkage.Proofs.SetupLog
import Linkage.Proofs.Standing
import Linkage.Proofs.Utf8
import Linkage.Report

/-!
# When a lookup can be told of in JSON

A path is octets, and JSON is text. A status tells its paths as they are, and so
it cannot be written where one of them is no text. Log lines and causes tell
paths in their lossy form, and can always be written.

The paths of a status were joined from configured directories and the names of a
layout. Joining puts a separator or nothing between two parts, so it neither
breaks text nor mends what is none: a path is text exactly if its directory is.
What can be told is therefore decided by the directories that a runtime is found
by.
-/

namespace Linkage

/-! ## Joined paths -/

/-- The path is text throughout. -/
def Path.IsText (p : Path) : Prop := Utf8.IsText p.bytes

/-- **A name behind a directory neither breaks text nor mends what is none.** -/
theorem Path.isText_child (p : Path) {name : String} (h : IsEntryName (Utf8.encode name)) :
    (p.child name).IsText ↔ p.IsText := by
  obtain ⟨bytes⟩ := p
  have hname := Utf8.isText_encode name
  have hcut (before : Bytes) :
      Utf8.IsText (before ++ separator :: Utf8.encode name) ↔ Utf8.IsText before :=
    (Utf8.isText_append_cons (by decide)).trans (and_iff_left hname)
  unfold child join ofString
  rw [isAbsolute_entryName h, if_neg Bool.false_ne_true]
  dsimp only
  split
  · rename_i hend
    rcases hend with rfl | hlast
    · exact iff_of_true hname ⟨"", rfl⟩
    · -- the separator at the end of the directory is one that was there before
      obtain ⟨before, rfl⟩ := List.getLast?_eq_some_iff.mp hlast
      have hdir : Utf8.IsText (before ++ [separator]) ↔ Utf8.IsText before :=
        (Utf8.isText_append_cons (by decide)).trans (and_iff_left ⟨"", rfl⟩)
      show Utf8.IsText ((before ++ [separator]) ++ Utf8.encode name) ↔ Utf8.IsText _
      rw [List.append_assoc, List.singleton_append, hcut, hdir]
  · exact hcut bytes

/-- A path that may be missing can be written unless it is there and no text. -/
theorem Path.optionalToJson_cases (p? : Option Path) :
    (∃ json?, optionalToJson p? = .ok json?) ∧ (∀ path ∈ p?, path.IsText) ∨
      optionalToJson p? = .error .pathNotText ∧ ∃ path ∈ p?, ¬path.IsText := by
  cases p? with
  | none => exact .inl ⟨⟨none, rfl⟩, by simp⟩
  | some path =>
      cases hread : Utf8.text? path.bytes with
      | some s =>
          refine .inl ⟨⟨some (.str s), ?_⟩, ?_⟩
          · simp [optionalToJson, toJson, text?, hread, Except.map]
          · rintro _ ⟨⟩
            exact ⟨s, Utf8.text?_eq_some_iff.mp hread⟩
      | none =>
          refine .inr ⟨?_, path, rfl, Utf8.text?_eq_none_iff.mp hread⟩
          simp [optionalToJson, toJson, text?, hread, Except.map]

namespace Config

/-! ## Directories -/

/-- The directory of the helper library, or else the installation that it belongs to. -/
def helperRoot? (c : Config) : Option Path := c.libraryDir <|> c.installRoot

/--
The configured directories that a runtime is found by: on POSIX that of the helper library, on
Windows the system root, and for the universal runtime both.
-/
def directories (c : Config) (platform : Platform) (runtime : RuntimeLibrary) : List Path :=
  match platform with
  | .posix => c.helperRoot?.toList
  | .windows =>
    c.systemRoot.toList ++ if runtime = .universal then c.helperRoot?.toList else []

variable {c : Config} {path : Path}

theorem isText_helperPath {platform : Platform} (h : c.helperPath platform = .ok path) :
    ∃ dir, c.helperRoot? = some dir ∧ (path.IsText ↔ dir.IsText) := by
  have hfile (dir : Path) : (Layout.helperLibrary platform dir).IsText ↔ dir.IsText :=
    dir.isText_child (Layout.isEntryName_helperFile platform)
  unfold helperPath helperDir at h
  unfold helperRoot?
  cases hdir : c.libraryDir with
  | some dir =>
      simp only [hdir] at h
      obtain rfl := Except.ok.inj h
      exact ⟨dir, rfl, hfile dir⟩
  | none =>
      cases hroot : c.installRoot with
      | none => simp [hdir, hroot, Except.map] at h
      | some root =>
          simp only [hdir, hroot] at h
          obtain rfl := Except.ok.inj h
          exact ⟨root, rfl, (hfile _).trans
            (root.isText_child (Layout.isEntryName_librarySubdir platform))⟩

/-- The runtimes of Windows stand under the system root. -/
theorem isText_runtimeFile {name : String} (hname : Path.IsEntryName (Utf8.encode name))
    (h : c.systemRoot.map (fun root => (Layout.system32 root).child name) = some path) :
    ∃ root, c.systemRoot = some root ∧ (path.IsText ↔ root.IsText) := by
  obtain ⟨root, hroot, rfl⟩ := Option.map_eq_some_iff.mp h
  exact ⟨root, hroot,
    (Path.isText_child _ hname).trans (root.isText_child Layout.isEntryName_system32)⟩

end Config

namespace Status

/-! ## Statuses -/

/-- The paths that a status tells. -/
def paths (s : Status) : List Path := s.primaryLibrary.toList ++ s.helperLibrary.toList

/-- **A status can be written unless one of its paths is no text.** -/
theorem members_cases (s : Status) :
    (∃ members, s.members = .ok members) ∧ (∀ path ∈ s.paths, path.IsText) ∨
      s.members = .error .pathNotText ∧ ∃ path ∈ s.paths, ¬path.IsText := by
  unfold members paths
  rcases Path.optionalToJson_cases s.primaryLibrary with
    ⟨⟨primary, hprimary⟩, htext⟩ | ⟨hprimary, path, hpath, hno⟩
  · rcases Path.optionalToJson_cases s.helperLibrary with
      ⟨⟨helper, hhelper⟩, htext'⟩ | ⟨hhelper, path, hpath, hno⟩
    · refine .inl ⟨⟨_, by rw [hprimary, hhelper]; rfl⟩, fun path hpath => ?_⟩
      rcases List.mem_append.mp hpath with hmem | hmem
      · exact htext path (Option.mem_toList.mp hmem)
      · exact htext' path (Option.mem_toList.mp hmem)
    · refine .inr ⟨by rw [hprimary, hhelper]; rfl, path, ?_, hno⟩
      exact List.mem_append_right _ (Option.mem_toList.mpr hpath)
  · refine .inr ⟨by rw [hprimary]; rfl, path, ?_, hno⟩
    exact List.mem_append_left _ (Option.mem_toList.mpr hpath)

/-- What is made of the members is refused if they are. -/
theorem map_members_eq_error_iff {α : Type} (s : Status) (f : List (String × Json) → α) :
    s.members.map f = .error .pathNotText ↔ ∃ path ∈ s.paths, ¬path.IsText := by
  rcases s.members_cases with ⟨⟨members, hmembers⟩, htext⟩ | ⟨hmembers, hno⟩
  · rw [hmembers]
    exact iff_of_false (by simp [Except.map]) fun ⟨path, hpath, hno⟩ => hno (htext path hpath)
  · rw [hmembers]
    exact iff_of_true rfl hno

theorem toJson_eq_error_iff (s : Status) :
    s.toJson = .error .pathNotText ↔ ∃ path ∈ s.paths, ¬path.IsText :=
  s.map_members_eq_error_iff Json.obj

end Status

/-- A report adds nothing to a status that could be refused. -/
theorem StatusReport.text_eq (r : StatusReport) :
    r.text = r.status.members.map fun members =>
      (Json.obj (members ++ Json.optional "helper_sha256" (r.helperDigest.map .str))).pretty := by
  unfold text toJson
  cases r.status.members with
  | ok members => rfl
  | error refusal => rfl

theorem StatusReport.text_eq_error_iff (r : StatusReport) :
    r.text = .error .pathNotText ↔ ∃ path ∈ r.status.paths, ¬path.IsText := by
  rw [text_eq, Status.map_members_eq_error_iff]

/-- **Which directories decide**: those that the runtime of a ready lookup is found by. -/
theorem Setup.Standing.exists_notText_iff {config : Config} {platform : Platform}
    {lookup : ReadyLookup} (h : Standing config platform lookup) :
    (∃ path ∈ (SystemLookup.status ⟨platform, .ready lookup⟩).paths, ¬path.IsText) ↔
      ∃ dir ∈ config.directories platform lookup.runtime, ¬dir.IsText := by
  unfold Config.directories
  cases h with
  | @side path library hfile =>
      obtain ⟨dir, hdir, htext⟩ :=
        Config.isText_helperPath (Config.runtimeFile?_side_eq_some_iff.mp hfile)
      have hpaths : (SystemLookup.status ⟨.posix, .ready (.direct .side ⟨library, path⟩)⟩).paths =
        [path] := rfl
      simp [hpaths, hdir, htext]
  | @legacy path library hfile =>
      obtain ⟨root, hroot, htext⟩ :=
        Config.isText_runtimeFile Layout.isEntryName_legacyRuntime hfile
      have hpaths : (SystemLookup.status
        ⟨.windows, .ready (.direct .legacy ⟨library, path⟩)⟩).paths = [path] := rfl
      simp [hpaths, ReadyLookup.runtime, hroot, htext]
  | @universal path library fallback hfile hhelper _ =>
      obtain ⟨root, hroot, htext⟩ :=
        Config.isText_runtimeFile Layout.isEntryName_universalRuntime hfile
      obtain ⟨dir, hdir, htext'⟩ := Config.isText_helperPath hhelper
      have hpaths : (SystemLookup.status
        ⟨.windows, .ready (.withFallback .universal ⟨library, path⟩ fallback)⟩).paths =
        [path, fallback.helper.path] := rfl
      simp [hpaths, ReadyLookup.runtime, hroot, htext, hdir, htext']

/-- A lookup that is not ready tells no path, and the paths of the others come from directories. -/
theorem SystemLookup.exists_notText_iff (platform : Platform) (config : Config) (loader : Loader) :
    (∃ path ∈ (establish platform config loader).1.status.paths, ¬path.IsText) ↔
      ∃ ready, (establish platform config loader).1.state = .ready ready ∧
        ∃ dir ∈ config.directories platform ready.runtime, ¬dir.IsText := by
  have hlookup : (establish platform config loader).1 =
      ⟨platform, (establish platform config loader).1.state⟩ := rfl
  rw [hlookup]
  dsimp only
  cases hstate : (establish platform config loader).1.state with
  | degraded cause =>
      refine iff_of_false (fun ⟨path, hpath, _⟩ => absurd hpath List.not_mem_nil) ?_
      rintro ⟨ready, hready, -⟩
      exact absurd hready (by simp)
  | ready lookup =>
      rw [(standing_of_ready hstate).exists_notText_iff]
      constructor
      · exact fun hdir => ⟨lookup, rfl, hdir⟩
      · rintro ⟨ready, hready, hdir⟩
        obtain rfl : lookup = ready := LookupState.ready.inj hready
        exact hdir

/-! ## Lines -/

namespace Log

/-- Behind what a destination held stand whole lines of some entries now, and nothing else. -/
def Added (entries : List Entry) (before after : Outputs) : Prop :=
  ∀ d, ∃ written : List Entry,
    (∀ e ∈ written, ∃ entry ∈ entries, ∃ id, e = { entry with traceId := id }) ∧
      after.held? d = (before.held? d).map (· ++ Emitter.linesOf written)

namespace Added

variable {entries : List Entry} {o o' o'' : Outputs}

theorem refl (entries : List Entry) (o : Outputs) : Added entries o o :=
  fun _ => ⟨[], by simp, by simp [Emitter.linesOf]⟩

theorem trans (h : Added entries o o') (h' : Added entries o' o'') : Added entries o o'' := by
  intro d
  obtain ⟨first, hfirst, hheld⟩ := h d
  obtain ⟨second, hsecond, hheld'⟩ := h' d
  refine ⟨first ++ second, fun e he => ?_, ?_⟩
  · rcases List.mem_append.mp he with hmem | hmem
    · exact hfirst e hmem
    · exact hsecond e hmem
  · rw [hheld', hheld, Option.map_map, Emitter.linesOf_append]
    simp [Function.comp_def]

end Added

/-- Whether it is refused or not, a line is added as a whole or not at all. -/
theorem Outputs.added_write {entries : List Entry} {entry : Entry} (hmem : entry ∈ entries)
    (o : Outputs) (d : Destination) (id : String) :
    Added entries o (o.write d ({ entry with traceId := id }.line ++ "\n")).1 := by
  intro other
  have hnothing : ∀ e ∈ ([] : List Entry),
      ∃ entry ∈ entries, ∃ id, e = { entry with traceId := id } := by simp
  by_cases hne : other = d
  · subst hne
    -- a buffer that refuses to be flushed has taken the line nevertheless
    rcases o.held?_write_cases other ({ entry with traceId := id }.line ++ "\n") with h | h
    · exact ⟨[], hnothing, by rw [h]; simp [Emitter.linesOf]⟩
    · refine ⟨[{ entry with traceId := id }], ?_, by rw [h]; simp [Emitter.linesOf]⟩
      rintro e he
      exact ⟨entry, hmem, id, List.mem_singleton.mp he⟩
  · exact ⟨[], hnothing, by rw [held?_write_of_ne hne]; simp [Emitter.linesOf]⟩

theorem ProcessLog.added_emit {entries : List Entry} {entry : Entry} (hmem : entry ∈ entries)
    (l : ProcessLog) : Added entries l.outputs (l.emit entry).outputs := by
  obtain ⟨sink?, outputs⟩ := l
  cases sink? with
  | none => exact .refl _ _
  | some sink =>
      obtain ⟨emitter?, level⟩ := sink
      unfold emit Sink.emit
      dsimp only
      split
      · cases emitter? with
        | none => exact .refl _ _
        | some e =>
            dsimp only [Emitter.emit]
            rw [e.snd_identify]
            exact outputs.added_write hmem _ _
      · exact .refl _ _

/-- **Any number of entries** add lines of theirs, whatever the sink is and takes. -/
theorem ProcessLog.added_foldl_emit {entries : List Entry} (l : ProcessLog)
    (logged : List Entry) (hsub : logged ⊆ entries) :
    Added entries l.outputs (logged.foldl emit l).outputs := by
  induction logged generalizing l with
  | nil => exact .refl _ _
  | cons entry rest ih =>
      obtain ⟨hmem, hrest⟩ := List.cons_subset.mp hsub
      exact (l.added_emit hmem).trans (ih (l.emit entry) hrest)

end Log

/--
**When a lookup can be told of in JSON.**

The status of a lookup, and the report on it, are refused exactly if it is ready and one of the
configured directories that its runtime is found by is no text. A degraded lookup can always be
told of. And so can the set-up: each of its log lines is text and JSON, under any identifier and
whatever the octets of the paths are, and nothing but such lines is added to any output.
-/
theorem Session.establish_told_in_json (s : Session) (platform : Platform) (config : Config)
    (loaderOf : FileSystem → Loader) :
    let lookup := (s.establish platform config loaderOf).1
    let actions := (s.establish platform config loaderOf).2.1
    let after := (s.establish platform config loaderOf).2.2
    let entries :=
      (actions.filterMap Action.milestone?).map (Log.Entry.ofMilestone s.clock)
    let untold := ∃ ready, lookup.state = .ready ready ∧
      ∃ dir ∈ config.directories platform ready.runtime, ¬dir.IsText
    (lookup.status.toJson = .error .pathNotText ↔ untold) ∧
      (∀ hash fs, (StatusReport.ofLookup lookup hash fs).text = .error .pathNotText ↔ untold) ∧
      (lookup.isDegraded → (∃ json, lookup.status.toJson = .ok json) ∧
        ∀ hash fs, ∃ text, (StatusReport.ofLookup lookup hash fs).text = .ok text) ∧
      (∀ entry ∈ entries, ∀ id, let e : Log.Entry := { entry with traceId := id }
        Utf8.text? (Utf8.encode e.line) = some e.line ∧ Log.Entry.parse e.line = .ok e) ∧
      Log.Added entries (s.configureLog config).log.outputs after.log.outputs := by
  intro lookup actions after entries untold
  have hpaths : (∃ path ∈ lookup.status.paths, ¬path.IsText) ↔ untold :=
    SystemLookup.exists_notText_iff platform config (loaderOf (s.filesSeen platform config))
  have hentries : entries = _ :=
    SystemLookup.story_eq platform config (loaderOf (s.filesSeen platform config)) s.clock
  refine ⟨?_, ?_, ?_, ?_, ?_⟩
  · exact lookup.status.toJson_eq_error_iff.trans hpaths
  · exact fun hash fs => (StatusReport.ofLookup lookup hash fs).text_eq_error_iff.trans hpaths
  · intro hdegraded
    obtain ⟨cause, hstate⟩ := SystemLookup.isDegraded_iff.mp hdegraded
    rcases lookup.status.members_cases with ⟨⟨members, hmembers⟩, -⟩ | ⟨-, hno⟩
    · refine ⟨⟨_, by rw [Status.toJson, hmembers]; rfl⟩, fun hash fs => ?_⟩
      have hreport : (StatusReport.ofLookup lookup hash fs).status.members = .ok members := hmembers
      rw [StatusReport.text_eq, hreport]
      exact ⟨_, rfl⟩
    · obtain ⟨ready, hready, -⟩ := hpaths.mp hno
      exact absurd (hstate.symm.trans hready) (by simp)
  · intro entry hmem id
    rw [hentries] at hmem
    exact ⟨Utf8.text?_encode _,
      SystemLookup.parse_of_mem_story (fun _ h => Setup.table_of_accepted h) hmem id⟩
  · have hlog : after.log = entries.foldl Log.ProcessLog.emit (s.configureLog config).log :=
      s.log_establish platform config loaderOf
    rw [hlog]
    exact Log.ProcessLog.added_foldl_emit _ entries (List.Subset.refl _)

end Linkage
