import Linkage.FileSystem
import Linkage.Log.Target

/-!
# Where lines end up

The outputs of a process are its two streams, its files, and one buffer in
memory. The buffer can be told to refuse what is written to it, or to take it
and refuse to be flushed; a file takes what its file system takes, and the
streams take everything.
-/

namespace Linkage.Log

/-- Why an output refuses a line. -/
inductive Refusal
  /-- It takes nothing. -/
  | write
  /-- It takes the line, and refuses to be flushed afterwards. -/
  | flush
  /-- The file system takes nothing. -/
  | file (cause : FileError)
  deriving DecidableEq

/-- The wording of a refusal. -/
def Refusal.message : Refusal → String
  | .write => "write refused"
  | .flush => "flush refused"
  | .file cause => cause.message

/-- A place that lines are written to. -/
inductive Destination
  | stdout
  | stderr
  /-- A file that was opened at a location. -/
  | file (at_ : Location)
  | buffer
  deriving DecidableEq

/-- What was written so far, and to where. -/
structure Outputs where
  stdout : String := ""
  stderr : String := ""
  buffer : String := ""
  /-- What the buffer refuses at the moment. -/
  refusal? : Option Refusal := none
  files : FileSystem := .empty

namespace Outputs

/-- Writes a text and flushes it. -/
def write (o : Outputs) (d : Destination) (text : String) : Outputs × Except Refusal Unit :=
  match d with
  | .stdout => ({ o with stdout := o.stdout ++ text }, .ok ())
  | .stderr => ({ o with stderr := o.stderr ++ text }, .ok ())
  | .file at_ =>
    match o.files.append at_ (Utf8.encode text) with
    | .ok files => ({ o with files }, .ok ())
    | .error cause => (o, .error (.file cause))
  | .buffer =>
    match o.refusal? with
    | none => ({ o with buffer := o.buffer ++ text }, .ok ())
    | some .write => (o, .error .write)
    | some refusal => ({ o with buffer := o.buffer ++ text }, .error refusal)

/-- Opens what a target names. A file is made if it does not exist, and keeps what it holds. -/
def openTarget (o : Outputs) : Target → Except FileError (Option Destination × Outputs)
  | .off => .ok (none, o)
  | .stderr => .ok (some .stderr, o)
  | .stdout => .ok (some .stdout, o)
  | .file path => do
    let (at_, files) ← o.files.openFile path
    return (some (.file at_), { o with files })

end Outputs

end Linkage.Log
