import Linkage.Proofs.LogStream
import Linkage.Proofs.SideBySide
import Linkage.Scripted.Fixture
import Linkage.Status

/-!
# A lookup does not depend on its log

A set-up logs before it asks for anything, while it asks, and when it is done.
Logging can open a file, fail to open one, write lines, or lose them. A loader
could see that only where it sees files, and so this file says which files a log
can touch: the one that its emitter writes to, and no other.

If the loader answers the same whatever stands at these places, then the lookup,
its status and everything that was asked of the loader are the same for every
target, every level and every sink. That holds at each moment of a set-up, with
all the lines written that were logged until then.
-/

namespace Linkage

namespace FileSystem

/-! ## File systems that differ in some places only -/

/-- Two file systems are the same, except for what stands at some places. -/
structure SameBut (places : List Location) (fs fs' : FileSystem) : Prop where
  current : fs.current = fs'.current
  node? : ∀ at_, at_ ∉ places → fs.node? at_ = fs'.node? at_

namespace SameBut

variable {places : List Location} {fs fs' fs'' : FileSystem}

theorem refl (places : List Location) (fs : FileSystem) : SameBut places fs fs :=
  ⟨rfl, fun _ _ => rfl⟩

theorem trans (h : SameBut places fs fs') (h' : SameBut places fs' fs'') :
    SameBut places fs fs'' :=
  ⟨h.current.trans h'.current, fun at_ hout => (h.node? at_ hout).trans (h'.node? at_ hout)⟩

end SameBut

theorem sameBut_put (fs : FileSystem) (at_ : Location) (node : FileNode) :
    fs.SameBut [at_] (fs.put at_ node) where
  current := rfl
  node? other hout := by
    have hne : other ≠ at_ := by simpa using hout
    simp [put, hne]

variable {fs fs' : FileSystem} {at_ : Location}

theorem sameBut_append {octets : Bytes} (h : fs.append at_ octets = .ok fs') :
    fs.SameBut [at_] fs' := by
  unfold append at h
  split at h
  · obtain rfl := Except.ok.inj h
    exact fs.sameBut_put at_ _
  · exact absurd h (by simp)
  · obtain rfl := Except.ok.inj h
    exact .refl _ fs

/-- A file is made at the place where it is opened, or nothing is made. -/
theorem sameBut_openFile {p : Path} (h : fs.openFile p = .ok (at_, fs')) :
    fs.SameBut [at_] fs' := by
  unfold openFile at h
  cases hplace : fs.place p with
  | error e => simp [hplace, bind, Except.bind] at h
  | ok place =>
      cases place with
      | directory dir => simp [hplace, bind, Except.bind] at h
      | entry entry slash =>
          cases hfind : fs.find entry with
          | error e =>
              simp only [hplace, hfind, bind, Except.bind] at h
              split at h <;> exact absurd h (by simp)
          | ok node? =>
              simp only [hplace, hfind, bind, Except.bind] at h
              split at h
              · exact absurd h (by simp)
              · split at h
                · -- only here is something put, and where it was not found
                  cases h
                  exact fs.sameBut_put at_ _
                · exact absurd h (by simp)
                · cases h
                  exact .refl _ fs

end FileSystem

/-! ## The places that a log writes to -/

namespace Log

open FileSystem (SameBut)

/-- The place of a destination among the files, if it has one. -/
def Destination.places : Destination → List Location
  | .file at_ => [at_]
  | .stdout | .stderr | .buffer => []

/-- The places that a sink writes to. -/
def Sink.places (s : Sink) : List Location :=
  match s.emitter? with
  | some e => e.destination.places
  | none => []

/-- The places that the log of a process writes to. -/
def ProcessLog.places (l : ProcessLog) : List Location :=
  match l.sink? with
  | some sink => sink.places
  | none => []

/-- A write changes a file at the place of its destination, or no file. -/
theorem Outputs.sameBut_write (o : Outputs) (d : Destination) (text : String) :
    o.files.SameBut d.places (o.write d text).1.files := by
  cases d with
  | stdout => exact .refl _ _
  | stderr => exact .refl _ _
  | buffer =>
      unfold write
      dsimp only
      split
      · exact .refl _ _
      · exact .refl _ _
      · exact .refl _ _
  | file at_ =>
      cases h : o.files.append at_ (Utf8.encode text) with
      | ok files =>
          simp only [write, h]
          exact FileSystem.sameBut_append h
      | error cause =>
          simp only [write, h]
          exact .refl _ _

/-- An entry changes neither where a sink writes nor anything that stands elsewhere. -/
theorem Sink.emit_frame (s : Sink) (entry : Entry) (o : Outputs) :
    (s.emit entry o).1.places = s.places ∧
      o.files.SameBut s.places (s.emit entry o).2.files := by
  obtain ⟨emitter?, level⟩ := s
  unfold emit
  split
  · cases emitter? with
    | none => exact ⟨rfl, .refl _ _⟩
    | some e =>
        have hplaces : (e.identify entry).1.destination.places = e.destination.places :=
          congrArg Destination.places (e.destination_identify entry)
        have hwrite := o.sameBut_write (e.identify entry).1.destination
          ((e.identify entry).2.line ++ "\n")
        rw [hplaces] at hwrite
        exact ⟨hplaces, hwrite⟩
  · exact ⟨rfl, .refl _ _⟩

/-- A target that is opened brings its own place, and one that cannot be opened none. -/
theorem Sink.sameBut_ofConfig (config : Config) (run : String) (o : Outputs) :
    o.files.SameBut (ofConfig config run o).1.places (ofConfig config run o).2.files := by
  unfold ofConfig Emitter.ofTarget
  cases config.logTarget with
  | off => exact .refl _ _
  | stderr => exact .refl _ _
  | stdout => exact .refl _ _
  | file path =>
      cases h : o.files.openFile path with
      | error cause =>
          simp only [Outputs.openTarget, h, bind, Except.bind]
          exact .refl _ _
      | ok opened =>
          obtain ⟨at_, files⟩ := opened
          simp only [Outputs.openTarget, h, bind, Except.bind, pure, Except.pure]
          exact FileSystem.sameBut_openFile h

/-- **Any number of entries** leave everything as it is that stands elsewhere. -/
theorem ProcessLog.foldl_emit_frame (l : ProcessLog) (entries : List Entry) :
    (entries.foldl emit l).places = l.places ∧
      l.outputs.files.SameBut l.places (entries.foldl emit l).outputs.files := by
  induction entries generalizing l with
  | nil => exact ⟨rfl, .refl _ _⟩
  | cons entry rest ih =>
      obtain ⟨hplaces, hrest⟩ := ih (l.emit entry)
      -- the others are written to the same places, for an entry does not move its emitter
      have hfirst : (l.emit entry).places = l.places ∧
          l.outputs.files.SameBut l.places (l.emit entry).outputs.files := by
        obtain ⟨sink?, outputs⟩ := l
        cases sink? with
        | none => exact ⟨rfl, .refl _ _⟩
        | some sink => exact sink.emit_frame entry outputs
      rw [hfirst.1] at hplaces hrest
      exact ⟨hplaces, hfirst.2.trans hrest⟩

end Log

namespace Session

open Log (Entry)

/-- The places that a set-up logs to. -/
def logPlaces (s : Session) (config : Config) : List Location := (s.configureLog config).log.places

/-- The session of a set-up after some of its actions: the milestones among them are logged. -/
def logged (s : Session) (config : Config) (actions : List Action) : Session :=
  (actions.filterMap Action.milestone?).foldl report (s.configureLog config)

variable (s : Session) (config : Config)

/-- Making the log leaves everything as it is that stands elsewhere. -/
theorem sameBut_configureLog :
    s.files.SameBut (s.logPlaces config) (s.configureLog config).files := by
  unfold logPlaces configureLog files Log.ProcessLog.configure
  cases h : s.log.sink? with
  | some sink => exact .refl _ _
  | none => exact Log.Sink.sameBut_ofConfig config s.id s.log.outputs

/-- **At any moment of a set-up** only what stands at the places of its log has changed. -/
theorem sameBut_logged (actions : List Action) :
    s.files.SameBut (s.logPlaces config) (s.logged config actions).files := by
  refine (s.sameBut_configureLog config).trans ?_
  unfold logged files
  rw [log_foldl_report (s.sink_isSome_configureLog config)]
  exact (Log.ProcessLog.foldl_emit_frame _ _).2

theorem filesSeen_eq (platform : Platform) :
    s.filesSeen platform config = (s.logged config [.reported (.started platform)]).files := rfl

end Session

/-! ## Loaders that answer the same -/

/-- Two loaders give the same answers for some paths. -/
def Loader.AgreesOn (paths : List Path) (loader loader' : Loader) : Prop :=
  ∀ path ∈ paths, loader.fileExists path = loader'.fileExists path ∧
    loader.load path = loader'.load path

/-- The files that a set-up can ask a loader for. -/
def Setup.candidates (platform : Platform) (config : Config) : List Path :=
  (match platform, config.systemRoot with
    | .windows, some root => [universalFile root, legacyFile root]
    | _, _ => []) ++ (config.helperFile? platform).toList

namespace SystemLookup

/-- **A set-up depends on three directories and on what it asks for**, and on nothing else. -/
theorem establish_congr {platform : Platform} {config config' : Config} {loader loader' : Loader}
    (hroot : config.systemRoot = config'.systemRoot)
    (hinstall : config.installRoot = config'.installRoot)
    (hdir : config.libraryDir = config'.libraryDir)
    (hloader : loader.AgreesOn (Setup.candidates platform config) loader') :
    establish platform config loader = establish platform config' loader' := by
  -- a path stands for itself, and nothing but a candidate is asked for
  let Asked (p q : Path) : Prop := p = q ∧ p ∈ Setup.candidates platform config
  have hanswers : loader.Alike Eq Asked loader' := by
    refine ⟨fun _ _ h => h.1, ?_, ?_⟩
    · rintro p _ ⟨rfl, hmem⟩
      exact (hloader p hmem).1
    · rintro p _ ⟨rfl, hmem⟩
      rw [(hloader p hmem).2]
      exact .refl _
  have hfiles : config.Alike Asked platform config' := by
    have hhelper : config'.helperFile? platform = config.helperFile? platform := by
      unfold Config.helperFile?
      rw [hdir, hinstall]
    constructor
    · rw [hhelper]
      cases hfile : config.helperFile? platform with
      | none => exact .none
      | some path => exact .some ⟨rfl, by simp [Setup.candidates, hfile]⟩
    · rintro rfl
      rw [← hroot]
      cases hsystem : config.systemRoot with
      | none => exact .none
      | some root =>
          exact .some ⟨⟨rfl, by simp [Setup.candidates, hsystem]⟩,
            ⟨rfl, by simp [Setup.candidates, hsystem]⟩⟩
  obtain ⟨hstate, hactions⟩ := alike_establish hanswers hfiles
  have hsame : List.Forall₂ Eq (establish platform config loader).2
      (establish platform config' loader').2 :=
    hactions.imp fun _ _ h => Action.Alike.eq h
  rw [List.forall₂_eq_eq_eq] at hsame
  exact Prod.ext (congrArg (SystemLookup.mk platform) hstate.eq) hsame

end SystemLookup

/--
**A lookup does not depend on its log.**

Let two configurations name the same directories, and ask for logs of any kind: none, a stream,
or a file that can be opened or cannot. Let two sessions have a sink of any kind, or none so far.
If the loader answers the same whatever the two logs write at their places, then both set-ups
come to the same lookup, with the same status and the same answer for every name. They ask the
loader for the same things and reach the same milestones, in the same order.

The logs grow in between. At no moment of either set-up does the loader answer differently.
-/
theorem Session.establish_log_independent (s s' : Session) (platform : Platform)
    (config config' : Config) (hroot : config.systemRoot = config'.systemRoot)
    (hinstall : config.installRoot = config'.installRoot)
    (hdir : config.libraryDir = config'.libraryDir) (loaderOf : FileSystem → Loader)
    (hloader : ∀ fs fs', s.files.SameBut (s.logPlaces config) fs →
      s'.files.SameBut (s'.logPlaces config') fs' →
      (loaderOf fs).AgreesOn (Setup.candidates platform config) (loaderOf fs')) :
    let run := s.establish platform config loaderOf
    let run' := s'.establish platform config' loaderOf
    run.1.platform = run'.1.platform ∧ run.1.state = run'.1.state ∧
      run.1.status = run'.1.status ∧ (∀ name, run.1.resolve name = run'.1.resolve name) ∧
      run.2.1 = run'.2.1 ∧
      ∀ done done', done <+: run.2.1 → done' <+: run'.2.1 →
        (loaderOf (s.logged config done).files).AgreesOn (Setup.candidates platform config)
          (loaderOf (s'.logged config' done').files) := by
  intro run run'
  have hmoments (done done' : List Action) :
      (loaderOf (s.logged config done).files).AgreesOn (Setup.candidates platform config)
        (loaderOf (s'.logged config' done').files) :=
    hloader _ _ (s.sameBut_logged config done) (s'.sameBut_logged config' done')
  -- the loader is made for the files that it sees once the start is logged
  have hsetup : SystemLookup.establish platform config (loaderOf (s.filesSeen platform config)) =
      SystemLookup.establish platform config' (loaderOf (s'.filesSeen platform config')) := by
    rw [s.filesSeen_eq, s'.filesSeen_eq]
    exact SystemLookup.establish_congr hroot hinstall hdir (hmoments _ _)
  obtain ⟨hlookup, hactions⟩ := Prod.ext_iff.mp hsetup
  change run.1 = run'.1 at hlookup
  rw [hlookup]
  exact ⟨rfl, rfl, rfl, fun _ => rfl, hactions,
    fun done done' _ _ => hmoments done done'⟩

/--
The fixture is ready with a log in a file and with a buffer that refuses every line, though its
loader looks into the file system: what it looks for is not the log.
-/
theorem Session.establish_log_independent_fixture :
    let logging : Config :=
      { Scripted.Fixture.config with logTarget := .file (.ofString "log"), logLevel := .trace }
    let refusing : Session :=
      { log :=
          { sink? := some
              { emitter? := some { destination := .buffer, run := "r", taken := 41 },
                level := .debug }
            outputs := { refusal? := some .write } } }
    let seen : Location := Installation.location ["dev", "null"]
    let loaderOf (fs : FileSystem) : Loader :=
      { Scripted.Fixture.loader.toLoader with
        fileExists := fun _ => .ok (fs.node? seen).isSome }
    let run := ({} : Session).establish .windows logging loaderOf
    let run' := refusing.establish .windows Scripted.Fixture.config loaderOf
    ({} : Session).logPlaces logging = [[FileSystem.scratch, Utf8.encode "log"]] ∧
      run.1.status = run'.1.status ∧ run.2.1 = run'.2.1 ∧ run.1.status.ready := by
  intro logging refusing seen loaderOf run run'
  have hplaces : ({} : Session).logPlaces logging = [[FileSystem.scratch, Utf8.encode "log"]] := by
    decide
  have hseen : seen ∉ ({} : Session).logPlaces logging := by decide
  have hseen' : seen ∉ refusing.logPlaces Scripted.Fixture.config := by decide
  obtain ⟨-, -, hstatus, -, hactions, -⟩ :=
    Session.establish_log_independent {} refusing .windows logging Scripted.Fixture.config
      rfl rfl rfl loaderOf fun fs fs' h h' path _ => by
        have hnode : fs.node? seen = fs'.node? seen :=
          (h.node? seen hseen).symm.trans (h'.node? seen hseen')
        exact ⟨congrArg (fun node => Except.ok node.isSome) hnode, rfl⟩
  exact ⟨hplaces, hstatus, hactions, by decide⟩

end Linkage
