import Linkage.Text.Quoted

/-!
# File paths

A path is an octet string, and `/` separates its segments. Two things are read
off it:

* its *spelling*, which `join` and `parent?` keep as it is;
* its *components*, the steps that the spelling describes. Empty segments and
  `.` segments describe no step, except a `.` in front of a relative path; `..`
  is a step of its own, since what it leads to depends on the file system.

Two paths with the same components name the same file. Libraries are looked up
by components, so that how a directory was spelled in a variable does not matter.
-/

namespace Linkage

/-- A file path, in the spelling it was given. -/
structure Path where
  bytes : Bytes
  deriving DecidableEq, Inhabited

namespace Path

/-- The octet that separates segments. -/
def separator : UInt8 := 0x2F

/-- The path with a given text. -/
def ofString (s : String) : Path := ⟨Utf8.encode s⟩

/-- The text of a path, with U+FFFD for octets that are no text. -/
def display (p : Path) : String := Utf8.lossy p.bytes

/-- The text of a path, if it is text throughout. -/
def text? (p : Path) : Option String := Utf8.text? p.bytes

/-- The path between quotation marks. -/
def quoted (p : Path) : String := Quoted.fileName p.bytes

/-- One step that a path describes. -/
inductive Component
  /-- Start at the root directory. -/
  | root
  /-- Start at the current directory, said explicitly. -/
  | current
  /-- Go to the directory above. -/
  | up
  /-- Go to the entry of this name. -/
  | name (octets : Bytes)
  deriving DecidableEq

/-- The name `.`, which stays where it is. -/
def dot : Bytes := [0x2E]

/-- The name `..`, which goes up. -/
def dotDot : Bytes := [0x2E, 0x2E]

/-- The parts of an octet string between separators; there is one more than separators. -/
def segments : Bytes → List Bytes
  | [] => [[]]
  | b :: rest =>
    if b = separator then [] :: segments rest
    else
      match segments rest with
      | [] => [[b]]
      | s :: more => (b :: s) :: more

/-- Puts separators between parts; the inverse of `segments`. -/
def unsegment : List Bytes → Bytes
  | [] => []
  | [s] => s
  | s :: more => s ++ separator :: unsegment more

/-- A segment that describes a step. -/
def isStep (s : Bytes) : Bool := s ≠ [] && s ≠ dot

/-- The step that a segment describes. -/
def stepOf (s : Bytes) : Component := if s = dotDot then .up else .name s

/-- How a path starts: at the root, at an explicit current directory, or neither. -/
inductive Start
  | absolute
  | explicit
  | relative
  deriving DecidableEq

/-- What a path starts with, and the octets after it. -/
def start (p : Path) : Start × Bytes :=
  match p.bytes with
  | [] => (.relative, [])
  | b :: rest =>
    if b = separator then (.absolute, rest)
    else if b = 0x2E ∧ (rest = [] ∨ rest.head? = some separator) then (.explicit, rest)
    else (.relative, p.bytes)

/-- The spelling of a start. -/
def Start.bytes : Start → Bytes
  | .absolute => [separator]
  | .explicit => dot
  | .relative => []

/-- The component of a start. -/
def Start.components : Start → List Component
  | .absolute => [.root]
  | .explicit => [.current]
  | .relative => []

/-- The steps that a path describes, in order. -/
def components (p : Path) : List Component :=
  p.start.1.components ++ ((segments p.start.2).filter isStep).map stepOf

/-- Two paths name the same file if they have the same components. -/
def SameFile (p q : Path) : Prop := p.components = q.components

instance (p q : Path) : Decidable (p.SameFile q) :=
  inferInstanceAs (Decidable (p.components = q.components))

/-- A path that starts at the root. -/
def isAbsolute (p : Path) : Bool := p.bytes.head? = some separator

/--
A path continued by another one. A separator is put between the two unless the
first is empty or ends in one; an absolute second path replaces the first.
-/
def join (p q : Path) : Path :=
  if q.isAbsolute then q
  else if p.bytes = [] ∨ p.bytes.getLast? = some separator then ⟨p.bytes ++ q.bytes⟩
  else ⟨p.bytes ++ separator :: q.bytes⟩

/-- A path continued by the name of an entry. -/
def child (p : Path) (name : String) : Path := p.join (ofString name)

/--
The path without its last component, in its own spelling. Segments that describe
no step are cut together with the component: those after it and those right
before it. The root and the empty path have no last component to cut.
-/
def parent? (p : Path) : Option Path :=
  let (start, body) := p.start
  match (segments body).reverse.dropWhile (!isStep ·) with
  | _ :: before =>
    some ⟨start.bytes ++ unsegment (before.dropWhile (!isStep ·)).reverse⟩
  | [] =>
    match start with
    | .explicit => some ⟨[]⟩
    | _ => none

end Path

end Linkage
