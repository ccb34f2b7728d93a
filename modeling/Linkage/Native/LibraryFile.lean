import Linkage.Text.Utf8

/-!
# Library files

A library file has the ELF format. It begins with a *header* of 64 octets, which
says for what system the file is made and where its table of *segments* stands. A
segment tells how a part of the file comes into memory, or what a part of memory
is for. Numbers are written with the lowest octet first.

A file is looked at in two rounds. The first one finds out whether the file is
made for this system, and reads the table; the second one finds out whether the
segments are those of a library. Each round has its own kind of refusal, and the
first refusal in the order of the definitions here decides.
-/

namespace Linkage.Native

/-! ## Numbers in files -/

/-- The number that some octets spell, the lowest first. -/
def littleEndian : Bytes → Nat
  | [] => 0
  | b :: rest => b.toNat + 256 * littleEndian rest

/-- The number of some octets at a position. -/
def numberAt (content : Bytes) (position width : Nat) : Nat :=
  littleEndian ((content.drop position).take width)

/-- The number of words that addresses and positions range over. -/
def addressBound : Nat := 0x10000000000000000

/-- The first position that no file reaches. -/
def positionBound : Nat := 0x8000000000000000

/-- The number of octets in a page of memory. -/
def pageSize : Nat := 0x1000

/-- The start of the page of an address. -/
def pageStart (a : Nat) : Nat := a / pageSize * pageSize

/-- The end of the pages that hold some octets. -/
def pageStop (a : Nat) : Nat := pageStart (a + (pageSize - 1))

/-! ## The first round -/

/-- Why a file is not read as a library of this system. -/
inductive FileRefusal
  | tooShort
  | notLibrary
  /-- The file is made for words of another width. -/
  | otherWidth
  | otherOrder
  | otherIdentVersion
  | otherSystem
  | otherSystemVersion
  | padded
  | otherVersion
  /-- The file is made for another processor. -/
  | otherProcessor
  | otherKind
  | otherSegmentSize
  /-- The table of segments begins where no file reaches. -/
  | tablePosition
  /-- The table of segments does not end in the file. -/
  | tableCut

namespace FileRefusal

/-- What the system says of a file that it refuses. -/
def text : FileRefusal → String
  | .tooShort => "file too short"
  | .notLibrary => "invalid ELF header"
  | .otherWidth => "wrong ELF class: ELFCLASS32"
  | .otherOrder => "ELF file data encoding not little-endian"
  | .otherIdentVersion => "ELF file version ident does not match current one"
  | .otherSystem => "ELF file OS ABI invalid"
  | .otherSystemVersion => "ELF file ABI version invalid"
  | .padded => "nonzero padding in e_ident"
  | .otherVersion => "ELF file version does not match current one"
  | .otherProcessor => "cannot open shared object file: No such file or directory"
  | .otherKind => "only ET_DYN and ET_EXEC can be loaded"
  | .otherSegmentSize => "ELF file's phentsize not the expected size"
  | .tablePosition => "cannot read file data: Invalid argument"
  | .tableCut => "cannot read file data"

end FileRefusal

/-- The octets in front of every library file. -/
def headerSize : Nat := 64

/-- The octets that a segment takes in the table. -/
def segmentSize : Nat := 56

/-- The kind of an executable file. -/
def executableKind : Nat := 2

/-- The kind of a library file. -/
def libraryKind : Nat := 3

/-- The system that a file names when it uses extensions of the format. -/
def extendedSystem : UInt8 := 3

/-- The first version of these extensions that is unknown. -/
def extensionBound : UInt8 := 4

/-- The number of the processor that libraries are made for. -/
def processor : Nat := 62

/-- The file is made for another processor. -/
def isForeign (content : Bytes) : Bool := numberAt content 18 2 ≠ processor

/-- What is wrong with the octets that say for what system a file is made, from their order on. -/
def systemRefusal? : Bytes → Option FileRefusal
  | order :: version :: system :: systemVersion :: padding =>
    if order ≠ 1 then some .otherOrder
    else if version ≠ 1 then some .otherIdentVersion
    else if system ≠ 0 ∧ system ≠ extendedSystem then some .otherSystem
    else if systemVersion ≠ 0 ∧ ¬ (system = extendedSystem ∧ systemVersion < extensionBound) then
      some .otherSystemVersion
    else if padding.any (· ≠ 0) then some .padded
    else none
  | _ => some .notLibrary

/--
What is wrong with the sixteen octets that identify a file. Little is said of one
that is made for another processor.
-/
def identRefusal? (content : Bytes) : Option FileRefusal :=
  match content.take 16 with
  | 0x7F :: 0x45 :: 0x4C :: 0x46 :: width :: system =>
    if width ≠ 2 then some .otherWidth
    else (systemRefusal? system).map fun r => if isForeign content then .otherProcessor else r
  | _ => some .notLibrary

/-- What is wrong with the header of a file. -/
def headerRefusal? (content : Bytes) : Option FileRefusal :=
  if content.length < headerSize then some .tooShort
  else
    (identRefusal? content).or <|
      if numberAt content 20 4 ≠ 1 then some .otherVersion
      else if isForeign content then some .otherProcessor
      else if numberAt content 16 2 ∉ [executableKind, libraryKind] then some .otherKind
      else if numberAt content 54 2 ≠ segmentSize then some .otherSegmentSize
      else none

/-- What a segment is for. -/
inductive SegmentUse
  /-- A part of the file comes into memory. -/
  | load
  /-- What other libraries need to know stands here. -/
  | dynamic
  /-- Remarks on the file stand here. -/
  | note
  /-- Each thread has a copy of this part of memory. -/
  | threads
  /-- The table of segments itself stands here. -/
  | table
  /-- This part of memory is not written to any more when the library is ready. -/
  | settled
  | other
  deriving DecidableEq

/-- The use that a number stands for. -/
def SegmentUse.ofNumber : Nat → SegmentUse
  | 1 => .load
  | 2 => .dynamic
  | 4 | 0x6474E553 => .note
  | 6 => .table
  | 7 => .threads
  | 0x6474E552 => .settled
  | _ => .other

/-- What a process may do with a part of memory. -/
structure Access where
  read : Bool
  write : Bool
  execute : Bool

/-- Nothing may be done. -/
def Access.none : Access := ⟨false, false, false⟩

/-- The access that some flags give. What can be written or executed can be read as well. -/
def Access.ofFlags (flags : Nat) : Access where
  read := flags % 8 ≠ 0
  write := flags.testBit 1
  execute := flags.testBit 0

/-- A segment. -/
structure Segment where
  use : SegmentUse
  access : Access
  /-- Where it begins in the file. -/
  position : Nat
  /-- Where it begins in memory. -/
  address : Nat
  /-- The octets that it takes in the file. -/
  fileSize : Nat
  /-- The octets that it takes in memory. -/
  memorySize : Nat
  /-- What its address is a multiple of. -/
  alignment : Nat

/-- The segment that begins at a position. -/
def Segment.read (content : Bytes) (at_ : Nat) : Segment where
  use := .ofNumber (numberAt content at_ 4)
  access := .ofFlags (numberAt content (at_ + 4) 4)
  position := numberAt content (at_ + 8) 8
  address := numberAt content (at_ + 16) 8
  fileSize := numberAt content (at_ + 32) 8
  memorySize := numberAt content (at_ + 40) 8
  alignment := numberAt content (at_ + 48) 8

/-- A library file whose header and table of segments were read. -/
structure LibraryFile where
  octets : Array UInt8
  kind : Nat
  /-- Where the table of segments begins. -/
  tablePosition : Nat
  segments : List Segment

namespace LibraryFile

/--
Reads the table of segments. A table whose end comes round to the front of the
file counts as read, and nothing is in it.
-/
def readSegments (content : Bytes) : Except FileRefusal (List Segment) :=
  let start := numberAt content 32 8
  let count := numberAt content 56 2
  let stop := start + segmentSize * count
  if addressBound ≤ stop ∧ stop ≤ addressBound + content.length then .ok []
  else if positionBound ≤ stop then .error .tablePosition
  else if content.length < stop ∧ count ≠ 0 then .error .tableCut
  else .ok ((List.range count).map fun i => Segment.read content (start + segmentSize * i))

/-- Reads a library file. -/
def read (content : Bytes) : Except FileRefusal LibraryFile :=
  match headerRefusal? content with
  | some refusal => .error refusal
  | none => do
    return {
      octets := content.toArray
      kind := numberAt content 16 2
      tablePosition := numberAt content 32 8
      segments := ← readSegments content }

/-! ## The second round -/

/-- Why the segments of a file are not those of a library. -/
inductive SegmentRefusal
  /-- A part of the file would come to another place within a page. -/
  | unaligned
  | nothingToLoad
  | executable
  | notDynamic

/-- What the system says of segments that it refuses. -/
def SegmentRefusal.text : SegmentRefusal → String
  | .unaligned => "ELF load command address/offset not page-aligned"
  | .nothingToLoad => "object file has no loadable segments"
  | .executable => "cannot dynamically load executable"
  | .notDynamic => "object file has no dynamic section"

/-- The segments that come into memory. -/
def loaded (f : LibraryFile) : List Segment := f.segments.filter (·.use = .load)

/-- The place of a segment within a page is the same in the file and in memory. -/
def isAligned (s : Segment) : Bool := s.position % pageSize = s.address % pageSize

/-- The segments of what other libraries need to know. -/
def dynamic (f : LibraryFile) : List Segment := f.segments.filter (·.use = .dynamic)

/-- The last one of these segments. It does not count if one of them is empty. -/
def dynamicSegment? (f : LibraryFile) : Option Segment :=
  if f.dynamic.any (·.fileSize = 0) then none else f.dynamic.getLast?.filter (·.address ≠ 0)

/-- What is wrong with the segments of a file. -/
def segmentRefusal? (f : LibraryFile) : Option SegmentRefusal :=
  if f.loaded.any (!isAligned ·) then some .unaligned
  else if f.loaded.isEmpty then some .nothingToLoad
  else if f.kind ≠ libraryKind then some .executable
  else if f.dynamicSegment?.isNone then some .notDynamic
  else none

end LibraryFile

end Linkage.Native
