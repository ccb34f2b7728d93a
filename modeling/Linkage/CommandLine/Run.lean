import Linkage.CommandLine.Arguments
import Linkage.Report
import Linkage.Session
import Linkage.Sha256

/-!
# Carrying out commands

A command makes a report and hands it over, to a file or to the standard output.
A probe that requires all names gives its verdict after that, so that the report
is there in any case.
-/

namespace Linkage.CommandLine

/-- Why a command fails. -/
inductive Failure
  /-- The report cannot be handed over. -/
  | io (e : FileError)
  /-- There is no report. -/
  | report (e : ReportError)
  /-- Some of the names of a probe were not found. -/
  | unresolved (missing total : Nat)
  deriving DecidableEq

namespace Failure

/-- What an unsuccessful probe says. -/
def unresolvedText (missing total : Nat) : String :=
  Numeral.text missing ++ " of " ++ Numeral.text total ++ " symbols unresolved"

/-- A failure as diagnostics show it. -/
def quoted : Failure → String
  | .io e => e.quoted
  | .report e => e.quoted
  | .unresolved missing total => Quoted.text (unresolvedText missing total)

end Failure

/-- What comes of a command: the session after it, and its failure if there is one. -/
abbrev Result := Session × Except Failure Unit

/-- Writes a text to one of the streams. -/
def print (s : Session) (stream : Log.Destination) (text : String) : Session :=
  { s with log.outputs := (s.log.outputs.write stream text).1 }

/-- The session with other files. -/
def setFiles (s : Session) (files : FileSystem) : Session :=
  { s with log.outputs.files := files }

/-- Writes a text to a file, in directories that are made for it. -/
def writeFile (s : Session) (path : Path) (text : String) : Result :=
  let (files, made) :=
    match path.parent? with
    | some parent => s.files.makeDirectories parent
    | none => (s.files, .ok ())
  let s := setFiles s files
  match made, files.write path (Utf8.encode text) with
  | .error e, _ => (s, .error (.io e))
  | .ok (), .error e => (s, .error (.io e))
  | .ok (), .ok files => (setFiles s files, .ok ())

/-- Hands a report over: to a file, or to the standard output with a line break behind it. -/
def deliver (s : Session) (text : String) : Option Path → Result
  | none => (print s .stdout (text ++ "\n"), .ok ())
  | some path =>
    match writeFile s path text with
    | (s, .ok ()) => (print s .stderr ("Wrote " ++ path.display ++ "\n"), .ok ())
    | (s, .error e) => (s, .error e)

/-- Hands the report on a lookup over. -/
def deliverStatus (s : Session) (lookup : SystemLookup) (output : Option Path) : Result :=
  match (StatusReport.ofLookup lookup Sha256.digest s.files).text with
  | .ok text => deliver s text output
  | .error e => (s, .error (.report (.json e)))

/-- Hands a probe over, and then fails if all names are required and one is missing. -/
def deliverProbe (s : Session) (report : ProbeReport) (requireAll : Bool)
    (output : Option Path) : Result :=
  match deliver s report.text output with
  | (s, .error e) => (s, .error e)
  | (s, .ok ()) =>
    let total := report.results.length
    if requireAll ∧ report.found ≠ total then
      (s, .error (.unresolved (total - report.found) total))
    else (s, .ok ())

/-- Carries a command out, on a system with a linker. -/
def perform (linker : Linker) (s : Session) : Command → Result
  | .status output =>
    let (lookup, s) := s.lookup linker
    deliverStatus s lookup output
  | .table output => deliver s FallbackTable.universal.reportText output
  | .probe names true requireAll output =>
    match ProbeReport.ofProcess linker names with
    | .ok report => deliverProbe s report requireAll output
    | .error e => (s, .error (.report e))
  | .probe names false requireAll output =>
    let (lookup, s) := s.lookup linker
    deliverProbe s (.ofLookup lookup names) requireAll output

/-- The exit code of a command that failed. -/
def failureCode : Nat := 1

/-- The exit code of wrong arguments. -/
def misuseCode : Nat := 2

/-- What help is printed for every request. -/
def usage : String :=
  "Usage: syslookup status [--output PATH]\n" ++
  "       syslookup table [--output PATH]\n" ++
  "       syslookup probe [--process] [--require-all] [--output PATH] NAME...\n"

/-- Runs a command line; the second part is the exit code. -/
def run (linker : Linker) (s : Session) (arguments : List Bytes) : Session × Nat :=
  match parse arguments with
  | .error .help => (print s .stdout usage, 0)
  | .error .misuse => (print s .stderr usage, misuseCode)
  | .ok command =>
    match perform linker s command with
    | (s, .ok ()) => (s, 0)
    | (s, .error e) => (print s .stderr ("Error: " ++ e.quoted ++ "\n"), failureCode)

end Linkage.CommandLine
