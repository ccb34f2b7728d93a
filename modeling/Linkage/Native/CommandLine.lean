import Linkage.CommandLine.Run
import Linkage.Native.Loader

/-!
# The command line of a Linux process

The library of the lookup can be the end of the process: when it is loaded, when it
is asked for a name, or when the process is about to end anyway. In all other cases
the process ends as its command line says.
-/

namespace Linkage.Native

/-- The names that a command asks the lookup of the process for, if it uses that lookup. -/
def askedNames? : CommandLine.Command → Option (List String)
  | .status _ => some []
  | .table _ | .probe _ true _ _ => none
  | .probe names false _ _ => some names

/-- The octets of those names that can be looked up. -/
def validNames (names : List String) : List Bytes :=
  names.filterMap fun name => (SymbolName.ofString name).toOption.map (·.key.dropLast)

/-- The library that the lookup of a process stands on, if its path is known. -/
def helperPath? (s : Session) : Option Path := (s.config.1.helperPath .host).toOption

/-- The session at the time when the library of the lookup is loaded. -/
def begun (s : Session) : Session :=
  let (config, s) := s.config
  (s.configureLog config).report (.started .host)

/-- How a process ends before its command does, and the session by then. -/
def commandEnding? (s : Session) (argumentCount : Nat) (path : Path) (names : List String) :
    Option (Session × Ending) :=
  let files := (begun s).files
  match loadEnding? files argumentCount path with
  | some ending => some (begun s, ending)
  | none =>
    (askEnding? files argumentCount path (validNames names)).map ((s.lookup linker).2, ·)

/-- The last words of a process, and its exit code; one that is killed has none. -/
def finish (s : Session) : Ending → Session × Option Nat
  | .killed => (s, none)
  | .aborted words => (CommandLine.print s .stderr (words ++ "\n"), some Ending.abortCode)
  | .exited code => (s, some code)

/-- The library that a command line puts to use, and the names that it is asked for. -/
def used? (s : Session) (arguments : List Bytes) : Option (Path × List String) := do
  let command ← (CommandLine.parse arguments).toOption
  let names ← askedNames? command
  return (← helperPath? s, names)

/-- Runs a command line; the second part is the exit code, unless the process is killed. -/
def run (s : Session) (arguments : List Bytes) : Session × Option Nat :=
  let argumentCount := arguments.length + 1
  let used := used? s arguments
  match used.bind fun (path, names) => commandEnding? s argumentCount path names with
  | some (s, ending) => finish s ending
  | none =>
    let (after, code) := CommandLine.run linker s arguments
    match used.bind fun (path, _) => exitEnding? (begun s).files argumentCount path with
    | some ending => finish after ending
    | none => (after, some code)

end Linkage.Native
