import Linkage.Linker
import Linkage.Log.Sink
import Linkage.SystemLookup

/-!
# Sessions

A session is what a process keeps while it runs: its variables and its clock,
its log, and two things that are made once and then kept, the configuration of
the process and the lookup that all of it shares. Each is made when it is first
asked for, from what the variables are then.
-/

namespace Linkage

/-- What a process keeps. -/
structure Session where
  vars : Variables := fun _ => none
  /-- The installation that the executable belongs to. -/
  executableRoot : Option Path := none
  /-- Identifies the process in its log. -/
  id : String := ""
  clock : Instant := ⟨0, 0⟩
  log : Log.ProcessLog := {}
  /-- The configuration of the process, once it was asked for. -/
  config? : Option Config := none
  /-- The lookup of the process, once it was asked for. -/
  lookup? : Option SystemLookup := none

namespace Session

/-- The files as they are now. -/
def files (s : Session) : FileSystem := s.log.outputs.files

/-- Sets a variable, or takes it away. -/
def setVariable (s : Session) (name : String) (value : Option Bytes) : Session :=
  { s with vars := fun n => if n = name then value else s.vars n }

/-- The configuration that the variables ask for now. -/
def currentConfig (s : Session) : Config := Config.ofProcess s.vars s.executableRoot

/-- The configuration of the process, made when it is first asked for. -/
def config (s : Session) : Config × Session :=
  match s.config? with
  | some config => (config, s)
  | none => (s.currentConfig, { s with config? := some s.currentConfig })

/-- Sets the log up as a configuration asks, unless it is set up. -/
def configureLog (s : Session) (config : Config) : Session :=
  { s with log := s.log.configure s.id config }

/-- The session with a log, set up by the configuration of the process if need be. -/
def withLog (s : Session) : Session :=
  match s.log.sink? with
  | some _ => s
  | none =>
    let (config, s) := s.config
    s.configureLog config

/-- Puts another sink in place. -/
def install (s : Session) (sink : Log.Sink) : Session :=
  let s := s.withLog
  { s with log := s.log.install sink }

/-- Logs an entry. -/
def emit (s : Session) (entry : Log.Entry) : Session :=
  let s := s.withLog
  { s with log := s.log.emit entry }

/-- Logs a milestone at the time of the clock. -/
def report (s : Session) (m : Milestone) : Session := s.emit (.ofMilestone s.clock m)

/--
Sets up a lookup and logs its milestones. The loader sees the files as they are
when the first milestone has been logged.
-/
def establish (s : Session) (platform : Platform) (config : Config)
    (loaderOf : FileSystem → Loader) : SystemLookup × List Action × Session :=
  let s := s.configureLog config
  let loader := loaderOf (s.report (.started platform)).files
  let (lookup, actions) := SystemLookup.establish platform config loader
  (lookup, actions, (actions.filterMap Action.milestone?).foldl report s)

/-- The lookup of the process, made by the linker of the system when it is first asked for. -/
def lookup (s : Session) (linker : Linker) : SystemLookup × Session :=
  match s.lookup? with
  | some lookup => (lookup, s)
  | none =>
    let (config, s) := s.config
    let (lookup, _, s) := s.establish .host config linker.loader
    (lookup, { s with lookup? := some lookup })

/-- The symbol of a name in the lookup of the process. -/
def find (s : Session) (linker : Linker) (name : String) :
    Except NameError (Option Symbol) × Session :=
  let (lookup, s) := s.lookup linker
  (lookup.find name, s)

end Session

end Linkage
