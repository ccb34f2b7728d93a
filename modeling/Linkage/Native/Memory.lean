import Linkage.Native.LibraryFile
import Linkage.Symbol
import Std.Data.HashMap

/-!
# The memory of a process

Parts of memory come to stand one after another, and the later ones cover the
earlier ones. A part holds zeros or octets of a file, and says what may be done
there; that can be changed later on. What is written stands above all parts.

An octet that is not allowed to be read, or that stands in a page which its file
does not reach, is not there for a reader, and likewise for a writer.
-/

namespace Linkage.Native

/-- What stands in a part of memory before anything is written there. -/
inductive Content
  | zeros
  /-- Octets of a file from a position on, and zeros up to the end of its last page. -/
  | file (octets : Array UInt8) (position : Nat)

/-- The octet at a distance from the start, if there is one. -/
def Content.octet? (c : Content) (distance : Nat) : Option UInt8 :=
  match c with
  | .zeros => some 0
  | .file octets position =>
    let at_ := position + distance
    if at_ < pageStop octets.size then some (octets.getD at_ 0) else none

/-- A part of memory, and something that is said of it. -/
structure Part (α : Type) where
  start : Word
  /-- The number of octets. -/
  length : Word
  value : α

namespace Part

variable {α : Type}

/-- How far behind the start of a part an address is. Addresses come round to zero. -/
def distance (p : Part α) (a : Word) : Word := a - p.start

/-- An address is in a part. -/
def holds (p : Part α) (a : Word) : Bool := p.distance a < p.length

/-- The part that holds an address, of those in a list the first one. -/
def at? (a : Word) (parts : List (Part α)) : Option (Part α) := parts.find? (·.holds a)

end Part

/-- The memory of a process. -/
structure Memory where
  /-- What stands where, the latest first. -/
  contents : List (Part Content) := []
  /-- What may be done where, the latest first. -/
  accesses : List (Part Access) := []
  /-- What was written. -/
  written : Std.HashMap Word UInt8 := {}

namespace Memory

/-- Something stands at an address. -/
def stands (m : Memory) (a : Word) : Bool := (Part.at? a m.contents).isSome

/-- What may be done at an address. -/
def access (m : Memory) (a : Word) : Access :=
  ((Part.at? a m.accesses).map (·.value)).getD .none

/-- The octet that stands at an address before anything is written there. -/
def original? (m : Memory) (a : Word) : Option UInt8 := do
  let p ← Part.at? a m.contents
  p.value.octet? (p.distance a).toNat

/-- The octet at an address, whether it may be read or not. -/
def octet? (m : Memory) (a : Word) : Option UInt8 := (m.written[a]?).or (m.original? a)

/-- Reads the octet at an address. -/
def read? (m : Memory) (a : Word) : Option UInt8 :=
  if (m.access a).read then m.octet? a else none

/-- Fetches the octet at an address to carry it out. -/
def fetch? (m : Memory) (a : Word) : Option UInt8 :=
  if (m.access a).execute then m.octet? a else none

/-- An octet can be written at an address. -/
def isWritable (m : Memory) (a : Word) : Bool := (m.access a).write && (m.octet? a).isSome

/-- Writes an octet. -/
def insert (m : Memory) (a : Word) (b : UInt8) : Memory :=
  { m with written := m.written.insert a b }

/-- The octets that a part takes from a file. -/
def fileShare (p : Part Content) : Nat :=
  match p.value with
  | .zeros => 0
  | .file octets _ => min p.length.toNat octets.size

/-- More octets than are not zero: each of those comes from a file, or was written. -/
def bound (m : Memory) : Nat := m.contents.foldl (fun n p => n + fileShare p) 1 + m.written.size

/-- Puts a part in place. -/
def put (m : Memory) (start length : Word) (content : Content) (access : Access) : Memory :=
  { m with
    contents := ⟨start, length, content⟩ :: m.contents
    accesses := ⟨start, length, access⟩ :: m.accesses }

/-- Some octets stand in memory without a gap; it is enough to look at the edges of parts. -/
def covers (m : Memory) (start length : Word) : Bool :=
  (start :: m.contents.map fun p => p.start + p.length).all fun a =>
    a - start < length → m.stands a

/-- Changes what may be done with some octets, if they all stand in memory. -/
def protect? (m : Memory) (start length : Word) (access : Access) : Option Memory :=
  if m.covers start length then
    some { m with accesses := ⟨start, length, access⟩ :: m.accesses }
  else none

end Memory

end Linkage.Native
