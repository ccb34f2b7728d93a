import Linkage.Native.LibraryFile
import Linkage.Native.Tag

/-!
# Images of libraries

An image is what a process knows of a library that it has loaded from a file: where
the library stands, where the words of its dynamic section are, and what was read of
them at the time. Everything else is looked up in memory when it is needed, because
relocations and routines can change it.
-/

namespace Linkage.Native

/-- Where the word of a tag stands. -/
structure DynamicEntry where
  tag : Word
  place : Word

/-! ## Hash tables -/

/-- Where the old table keeps its chains. -/
structure OldTable where
  /-- The number of chains. -/
  count : Word
  /-- Where the first positions of the chains stand. -/
  heads : Word
  /-- Where the next positions stand. -/
  links : Word

/-- Where the new table keeps its filter and its chains. -/
structure NewTable where
  /-- The number of chains. -/
  count : Word
  /-- Where the words of the filter stand. -/
  filter : Word
  /-- Selects a word of the filter. -/
  mask : Word
  /-- The distance between the two bits of a name in the filter. -/
  shift : Word
  /-- Where the first positions of the chains stand. -/
  heads : Word
  /-- Where the hash of the symbol at position zero would stand. -/
  hashes : Word

/-- How a library finds its exports. -/
inductive HashTable
  | absent
  | old (t : OldTable)
  | new (t : NewTable)

/-! ## Versions -/

/-- A version that a library speaks of by its number. -/
structure Version where
  /-- The hash of its name; zero if there is no version of this number. -/
  hash : Word := 0
  /-- Where its name stands. -/
  name : Word := 0
  /-- Where the name of the library stands that has it, unless it is this one. -/
  owner? : Option Word := none
  /-- It is meant exactly, and nothing else is as good. -/
  isExact : Bool := false

/-- The versions that a library speaks of. -/
structure VersionTable where
  /-- Where the numbers of the versions of its symbols stand. -/
  numbers : Word
  /-- The versions by their numbers. -/
  versions : Array Version

/-! ## Images -/

/-- What a library knows of the memory that each thread has of its own. -/
structure ThreadPart where
  /-- Where it stands before any thread uses it. -/
  address : Word
  /-- The octets that come from there. -/
  fileSize : Word
  /-- The octets that each thread gets. -/
  memorySize : Word
  alignment : Word

/-- Where the memory of threads for a library has its place. -/
inductive ThreadPlace
  | undecided
  /-- In every thread from its start. -/
  | fixed
  /-- In each thread that uses it. -/
  | onDemand
  deriving DecidableEq

/-- A library that was loaded from a file. -/
structure Image where
  file : LibraryFile
  /-- What is added to an address of the file to give one in memory. -/
  base : Word
  /-- The directory in which the library stands. -/
  directory : Bytes
  /-- Where the dynamic section stands. -/
  dynamicStart : Word
  /-- The words of the dynamic section, the latest first. -/
  entries : List DynamicEntry
  /-- The words that are addresses were turned into addresses in memory. -/
  isMoved : Bool
  /-- Restrictions on the library, a bit for each. -/
  flags : Word := 0
  /-- More restrictions on the library. -/
  moreFlags : Word := 0
  /-- The levels of the processor that it needs, a bit for each. -/
  levels : Word := 0
  table : HashTable := .absent
  versions? : Option VersionTable := none
  threadPlace : ThreadPlace := .undecided

namespace Image

/-- Where the word of a tag stands; the last one decides. -/
def place? (i : Image) (tag : Word) : Option Word :=
  (i.entries.find? (·.tag = tag)).map (·.place)

/-- There is a word of a tag. -/
def has (i : Image) (tag : Word) : Bool := (i.place? tag).isSome

/-- A bit of the flags is set. -/
def hasFlag (i : Image) (n : Nat) : Bool := i.flags.toNat.testBit n

/-- A bit of the other flags is set. -/
def hasMoreFlag (i : Image) (n : Nat) : Bool := i.moreFlags.toNat.testBit n

/-- The library looks into itself before it looks elsewhere. -/
def isSelfish (i : Image) : Bool := i.has Tag.selfish || i.hasFlag 1

/-- Relocations go to segments that are not written to as well. -/
def rewritesText (i : Image) : Bool := i.has Tag.writesText || i.hasFlag 2

/-- No relocation waits for its first use. -/
def isEager (i : Image) : Bool := i.has Tag.now || i.hasFlag 3 || i.hasMoreFlag 0

/-- The routines of the library run before those of all others. -/
def isFirst (i : Image) : Bool := i.hasMoreFlag 5

/-- The library must not be loaded by name. -/
def isReserved (i : Image) : Bool := i.hasMoreFlag 6

/-- Nothing that the library needs is searched in the directories of the system. -/
def shunsSystem (i : Image) : Bool := i.hasMoreFlag 11

/-- The library is a program that can stand anywhere in memory. -/
def isProgram (i : Image) : Bool := i.hasMoreFlag 27

/-- The memory that each thread has of its own, if the library has such; the last one decides. -/
def threads? (i : Image) : Option ThreadPart :=
  let parts := i.file.segments.filter fun s => s.use = .threads ∧ s.memorySize ≠ 0
  parts.getLast?.map fun s =>
    { address := i.base + UInt64.ofNat s.address
      fileSize := UInt64.ofNat s.fileSize
      memorySize := UInt64.ofNat s.memorySize
      alignment := UInt64.ofNat s.alignment }

end Image

end Linkage.Native
