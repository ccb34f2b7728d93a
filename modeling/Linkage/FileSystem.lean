import Linkage.Installation
import Linkage.Path

/-!
# File systems

A file system here is what stands at each location: a directory, a file with its
content, or nothing. Paths are walked segment by segment, and every segment but
the last must lead to a directory. A link leads on to where it says. Files are never
removed, so a location stays good once a file was opened there.
-/

namespace Linkage

/-- Why an operation on files is refused. -/
inductive FileError
  | notFound
  | alreadyExists
  | notDirectory
  | isDirectory
  | noSpace
  | nameTooLong
  /-- The path holds a NUL. -/
  | interiorNul
  deriving DecidableEq

namespace FileError

/-- The number of an error, unless it was noticed before the system was asked. -/
def number? : FileError → Option Nat
  | .notFound => some 2
  | .alreadyExists => some 17
  | .notDirectory => some 20
  | .isDirectory => some 21
  | .noSpace => some 28
  | .nameTooLong => some 36
  | .interiorNul => none

/-- What an error says. -/
def text : FileError → String
  | .notFound => "No such file or directory"
  | .alreadyExists => "File exists"
  | .notDirectory => "Not a directory"
  | .isDirectory => "Is a directory"
  | .noSpace => "No space left on device"
  | .nameTooLong => "File name too long"
  | .interiorNul => "file name contained an unexpected NUL byte"

/-- The kind of an error. -/
def kind : FileError → String
  | .notFound => "NotFound"
  | .alreadyExists => "AlreadyExists"
  | .notDirectory => "NotADirectory"
  | .isDirectory => "IsADirectory"
  | .noSpace => "StorageFull"
  | .nameTooLong => "InvalidFilename"
  | .interiorNul => "InvalidInput"

/-- The wording of an error, with its number. -/
def message (e : FileError) : String :=
  match e.number? with
  | some n => e.text ++ " (os error " ++ Numeral.text n ++ ")"
  | none => e.text

/-- An error as diagnostics show it. -/
def quoted (e : FileError) : String :=
  match e.number? with
  | some n =>
    "Os \x7b code: " ++ Numeral.text n ++ ", kind: " ++ e.kind ++ ", message: " ++
      Quoted.text e.text ++ " \x7d"
  | none => "Error \x7b kind: " ++ e.kind ++ ", message: " ++ Quoted.text e.text ++ " \x7d"

end FileError

/-- A place that can be opened like a file and keeps nothing. -/
inductive Device
  /-- It takes everything, and is empty. -/
  | null
  /-- It takes nothing, and holds zeros without an end. -/
  | full
  /-- It takes everything, and holds zeros without an end. -/
  | zero
  deriving DecidableEq

/-- What stands at a location. -/
inductive FileNode
  | directory
  | file (content : Bytes)
  | device (kind : Device)
  /-- A file of the system, whose content is not known. -/
  | installed (kind : Installed)
  deriving DecidableEq

/-- What stands at each location, and the directory that relative paths start from. -/
structure FileSystem where
  node? : Location → Option FileNode
  current : Location

namespace FileSystem

/-- The name of the current directory in a file system that nothing was put into. -/
def scratch : Bytes := Utf8.encode "scratch"

/-- The devices that every system has, in the directory of devices. -/
def devices : List (String × Device) := [("null", .null), ("full", .full), ("zero", .zero)]

/-- The device at a location. -/
def deviceAt? (at_ : Location) : Option Device :=
  (devices.find? fun d => Installation.location ["dev", d.1] = at_).map (·.2)

/-- A file system with what every system has, and an empty current directory. -/
def empty : FileSystem where
  node? at_ :=
    if at_ = [scratch] ∨ Installation.isDirectory at_ then some .directory
    else ((deviceAt? at_).map .device).or ((Installation.fileAt? at_).map .installed)
  current := [scratch]

/-- The location that a link leads to, and every other location itself. -/
def follow (at_ : Location) : Location := (Installation.linkAt? at_).getD at_

/-- The longest name of an entry. -/
def maxName : Nat := 255

/-- The longest path. -/
def maxPath : Nat := 4095

/-- What stands at a location; at the root there is always a directory. -/
def look (fs : FileSystem) (at_ : Location) : Option FileNode :=
  if at_ = [] then some .directory else fs.node? at_

/-- The file system with something else at a location. -/
def put (fs : FileSystem) (at_ : Location) (node : FileNode) : FileSystem :=
  { fs with node? := fun l => if l = at_ then some node else fs.node? l }

/-- Follows segments from a location. Each one must start from a directory and lead somewhere. -/
def walk (fs : FileSystem) : Location → List Bytes → Except FileError Location
  | at_, [] => .ok at_
  | at_, s :: rest =>
    if fs.look at_ ≠ some .directory then .error .notDirectory
    else if s = Path.dot then walk fs at_ rest
    else if s = Path.dotDot then walk fs at_.dropLast rest
    else if maxName < s.length then .error .nameTooLong
    else
      let next := follow (at_ ++ [s])
      if fs.look next = none then .error .notFound else walk fs next rest

/-- Where a path ends: a directory that exists, or a name in one. -/
inductive Place
  /-- The path ends in a directory that it does not name: the root, `.`, or `..`. -/
  | directory (at_ : Location)
  /-- The path ends in a name; `slash` says whether a separator follows it. -/
  | entry (at_ : Location) (slash : Bool)

/-- Finds where a path ends. What it names there need not exist. -/
def place (fs : FileSystem) (p : Path) : Except FileError Place :=
  if 0 ∈ p.bytes then .error .interiorNul
  else if p.bytes = [] then .error .notFound
  else if maxPath < p.bytes.length then .error .nameTooLong
  else
    let base := if p.isAbsolute then [] else fs.current
    let steps := (Path.segments p.bytes).filter (· ≠ [])
    match steps.getLast? with
    | none => .ok (.directory base)
    | some name => do
      let dir ← fs.walk base steps.dropLast
      if fs.look dir ≠ some .directory then .error .notDirectory
      else if name = Path.dot then .ok (.directory dir)
      else if name = Path.dotDot then .ok (.directory dir.dropLast)
      else .ok (.entry (follow (dir ++ [name])) (p.bytes.getLast? = some Path.separator))

/-- What stands at the location where a path ends, if its name can be one. -/
def find (fs : FileSystem) (at_ : Location) : Except FileError (Option FileNode) :=
  if at_.getLast?.any (maxName < ·.length) then .error .nameTooLong else .ok (fs.look at_)

/-- What stands at a path. -/
def stat (fs : FileSystem) (p : Path) : Except FileError FileNode := do
  match ← fs.place p with
  | .directory _ => .ok .directory
  | .entry at_ slash =>
    match ← fs.find at_ with
    | none => .error .notFound
    | some .directory => .ok .directory
    | some node => if slash then .error .notDirectory else .ok node

/-- A file stands at a path. -/
def isFile (fs : FileSystem) (p : Path) : Bool :=
  match fs.stat p with
  | .ok (.file _) | .ok (.installed _) => true
  | _ => false

/-- A directory stands at a path. -/
def isDirectory (fs : FileSystem) (p : Path) : Bool :=
  match fs.stat p with
  | .ok .directory => true
  | _ => false

/-- The content of the file at a path. -/
def read (fs : FileSystem) (p : Path) : Except FileError Bytes := do
  match ← fs.stat p with
  | .directory => .error .isDirectory
  | .file content => .ok content
  | .device _ | .installed _ => .ok []

/--
Opens the file at a path for writing, and makes an empty one where there is none.
A separator behind the name asks for a directory, whatever the name is.
-/
def openFile (fs : FileSystem) (p : Path) : Except FileError (Location × FileSystem) := do
  match ← fs.place p with
  | .directory _ => .error .isDirectory
  | .entry at_ slash =>
    if slash then .error .isDirectory
    else
      match ← fs.find at_ with
      | none => .ok (at_, fs.put at_ (.file []))
      | some .directory => .error .isDirectory
      | some _ => .ok (at_, fs)

/-- Puts octets at the end of an open file. -/
def append (fs : FileSystem) (at_ : Location) (octets : Bytes) : Except FileError FileSystem :=
  match fs.look at_ with
  | some (.file content) => .ok (fs.put at_ (.file (content ++ octets)))
  | some (.device .full) => .error .noSpace
  | _ => .ok fs

/-- An open file without its content; a device has none to lose. -/
def truncate (fs : FileSystem) (at_ : Location) : FileSystem :=
  match fs.look at_ with
  | some (.file _) | some (.installed _) => fs.put at_ (.file [])
  | _ => fs

/-- Replaces the content of the file at a path. -/
def write (fs : FileSystem) (p : Path) (content : Bytes) : Except FileError FileSystem := do
  let (at_, fs) ← fs.openFile p
  (fs.truncate at_).append at_ content

/-- Makes a directory whose parent exists. -/
def makeDirectory (fs : FileSystem) (p : Path) : Except FileError FileSystem := do
  match ← fs.place p with
  | .directory _ => .error .alreadyExists
  | .entry at_ _ =>
    match ← fs.find at_ with
    | none => .ok (fs.put at_ .directory)
    | some _ => .error .alreadyExists

/-- Makes a directory and those above it, at most `bound` levels up; one that exists is as good. -/
def makeDirectoriesUpTo : (bound : Nat) → FileSystem → Path → FileSystem × Except FileError Unit
  | 0, fs, _ => (fs, .error .notFound)
  | bound + 1, fs, p =>
    if p.bytes = [] then (fs, .ok ())
    else
      match fs.makeDirectory p with
      | .ok made => (made, .ok ())
      | .error .notFound =>
        match p.parent? with
        | none => (fs, .error .notFound)
        | some above =>
          match makeDirectoriesUpTo bound fs above with
          | (fs, .error e) => (fs, .error e)
          | (fs, .ok ()) =>
            match fs.makeDirectory p with
            | .ok made => (made, .ok ())
            | .error e => (fs, if fs.isDirectory p then .ok () else .error e)
      | .error e => (fs, if fs.isDirectory p then .ok () else .error e)

/-- Makes a directory and those above it. A path has no more levels than octets. -/
def makeDirectories (fs : FileSystem) (p : Path) : FileSystem × Except FileError Unit :=
  makeDirectoriesUpTo (p.bytes.length + 1) fs p

/--
Puts a file at a path together with the directories above it. A path that ends
in `/` is a directory.
-/
def provide (fs : FileSystem) (p : Path) (content : Bytes) : FileSystem :=
  if p.bytes.getLast? = some Path.separator then (fs.makeDirectories p).1
  else
    let fs := (fs.makeDirectories (p.parent?.getD ⟨[]⟩)).1
    match fs.write p content with
    | .ok written => written
    | .error _ => fs

end FileSystem

end Linkage
