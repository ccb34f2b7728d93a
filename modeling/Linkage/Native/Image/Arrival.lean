import Linkage.Native.Image.Mapping
import Linkage.Native.Process

/-!
# How a library comes into a process

The segments of the file come into memory, and the library gets its base. Then the
loader goes through the dynamic section, up to the tag zero. It turns the words that
are addresses in the file into addresses in memory; a section in a segment that says
it is not written to is left alone. At last it looks at the table of segments, where
it finds remarks on the library, and at the head of the hash table.
-/

namespace Linkage.Native

/-! ## Into memory -/

namespace Mapping

/-- The next multiple of a number. -/
def roundUp (a multiple : Word) : Word := (a + (multiple - 1)) / multiple * multiple

/-- Where the library comes to stand below an address. -/
def startBelow (m : Mapping) (ceiling : Word) : Word :=
  let room := UInt64.ofNat (pageStop (roomFor m.extent m.file.alignment))
  roundUp (ceiling - room) (UInt64.ofNat (max m.file.alignment pageSize))

/-- Puts a stretch into memory, for a library that starts at an address. -/
def putStretch (m : Mapping) (start : Word) (memory : Memory) (s : Stretch) : Memory :=
  let content : Content :=
    match s.position? with
    | none => .zeros
    | some position => .file m.file.octets position
  memory.put (start + UInt64.ofNat s.start) (UInt64.ofNat (s.stop - s.start)) content s.access

/-- Puts the library into the memory of the process, and gives its base. -/
def enter (m : Mapping) : Run Word := do
  let start := m.startBelow (← get).ceiling
  modify fun p =>
    { p with
      ceiling := start
      memory := m.stretches.foldr (fun s memory => m.putStretch start memory s) p.memory }
  return start - UInt64.ofNat m.origin

end Mapping

namespace Image

/-! ## The dynamic section -/

/-- The entries from an address on, at most `bound` of them, in front of earlier ones. -/
def entriesFrom : (bound : Nat) → List DynamicEntry → Word → Run (List DynamicEntry)
  | 0, _, _ => violation
  | bound + 1, earlier, a => do
    match ← Run.word a with
    | 0 => return earlier
    | tag => entriesFrom bound (⟨tag, a + 8⟩ :: earlier) (a + 16)

/-- Turns the words that are addresses in the file into addresses in memory. -/
def moveAddresses (i : Image) : Run Unit := do
  if i.isMoved then
    (Tag.addresses.filterMap i.place?).forM fun place => Run.increase place i.base

/-- The size of the entries of a table is as it has to be, if there is such a table. -/
def checkSize (i : Image) (table size expected : Word) (place claim : String) : Run Unit := do
  if i.has table then
    if (← i.word size) ≠ expected then
      inconsistency ("get-dynamic-info.h: " ++ place ++ ": elf_get_dynamic_info") claim

/-- The tables of relocations are of the kind that the system knows. -/
def checkTables (i : Image) : Run Unit := do
  i.checkSize Tag.lateKind Tag.lateKind Tag.relocations "115"
    "info[DT_PLTREL]->d_un.d_val == DT_RELA"
  i.checkSize Tag.relocations Tag.relocationSize 24 "123"
    "info[DT_RELAENT]->d_un.d_val == sizeof (ElfW(Rela))"
  i.checkSize Tag.moves Tag.moveSize 8 "130"
    "info[DT_RELRENT]->d_un.d_val == sizeof (ElfW(Relr))"

/-- The image with the restrictions that its dynamic section tells. -/
def withFlags (i : Image) : Run Image := do
  return { i with
    flags := (← i.word? Tag.flags).getD 0
    moreFlags := (← i.word? Tag.moreFlags).getD 0 }

/-- A library that must not be loaded is refused. -/
def checkUse (i : Image) : Run Unit := do
  if i.isProgram then refuse "cannot dynamically load position-independent executable"
  if i.isReserved then refuse "shared object cannot be dlopen()ed"

/-! ## The table of segments -/

/--
Where the table of segments stands in memory: where the file says, or in the first
segment that brings it there.
-/
def tableAddress? (i : Image) : Option Word :=
  let f := i.file
  let size := segmentSize * f.segments.length
  let told := (f.segments.filter (·.use = .table)).getLast?.map (·.address)
  let holds (s : Segment) :=
    s.firstPosition ≤ f.tablePosition &&
      f.tablePosition + size ≤ s.pagesStop - s.firstPage + s.firstPosition
  let found :=
    (told.filter (· ≠ 0)).or
      ((f.loaded.find? holds).map fun s => s.firstPage + f.tablePosition - s.firstPosition)
  found.map fun a => i.base + UInt64.ofNat a

/-- Some octets of memory, one after another. -/
def octetsFrom : (left : Nat) → Word → Run Bytes
  | 0, _ => return []
  | left + 1, a => do return (← Run.octet a) :: (← octetsFrom left (a + 1))

/-- The use of a segment, as the table in memory tells it, or else the file. -/
def useAt (i : Image) (n : Nat) : Run SegmentUse := do
  match i.tableAddress? with
  | some a => return .ofNumber (← Run.single (a + UInt64.ofNat (segmentSize * n))).toNat
  | none => return (i.file.segments[n]?.map (·.use)).getD .other

/-- A segment, as the table in memory tells it, or else the file. -/
def segmentAt? (i : Image) (n : Nat) : Run (Option Segment) := do
  match i.tableAddress? with
  | some a =>
    let octets ← octetsFrom segmentSize (a + UInt64.ofNat (segmentSize * n))
    return some (.read octets 0)
  | none => return i.file.segments[n]?

/-! ## Remarks -/

/-- What was found in remarks so far. -/
structure Remarks where
  /-- Remarks on the processor were found. -/
  isFound : Bool := false
  /-- The highest sort of property that was found. -/
  sort : Word := 0
  /-- The levels of the processor that the library needs, a bit for each. -/
  levels : Word := 0

/-- The alignment of the remarks that the loader looks at. -/
def noteAlignment : Nat := 8

/-- The octets in front of a remark. -/
def noteSize : Word := 12

/-- The sort of remarks that tell properties. -/
def propertiesSort : Word := 5

/-- The octets of the name that stands in front of properties, as a number. -/
def propertiesName : Word := 0x554E47

/-- The properties that are looked at: their last one tells the levels of the processor. -/
def knownProperties : List Word := [0xB0008000, 0xC0000002, 0xC0008002]

/-- The property that tells the levels of the processor. -/
def levelsSort : Word := 0xC0008002

/-- Goes through properties from an address up to a stop, at most `bound` of them. -/
def readProperties (stop : Word) : (bound : Nat) → Remarks → Word → Run Remarks
  | 0, seen, _ => return seen
  | bound + 1, seen, a => do
    let sort ← Run.single a
    let size ← Run.single (a + 4)
    let start := a + 8
    if sort < seen.sort ∨ stop < start + size then return seen
    let seen := { seen with sort := sort }
    if sort ∈ knownProperties ∧ size ≠ 4 then return seen
    if sort = levelsSort then return { seen with levels := ← Run.single start }
    if levelsSort < sort then return seen
    if knownProperties.contains sort then let _ ← Run.single start
    let next := start + Mapping.roundUp size 8
    if stop < next + 8 then return seen
    readProperties stop bound seen next

/-- Goes through the remarks in some octets from an address on, at most `bound` of them. -/
def readRemarks (start size : Word) : (bound : Nat) → Remarks → Word → Run Remarks
  | 0, seen, _ => return seen
  | bound + 1, seen, a => do
    if size ≤ a + noteSize - start then return seen
    let nameSize ← Run.single a
    let textSize ← Run.single (a + 4)
    let next := a + Mapping.roundUp (Mapping.roundUp (noteSize + nameSize) 8 + textSize) 8
    let sort ← Run.single (a + 8)
    let isProperties := nameSize = 4 ∧ sort = propertiesSort
    let name ← if isProperties then Run.single (a + noteSize) else pure 0
    if name ≠ propertiesName then readRemarks start size bound seen next
    else if seen.isFound then return seen
    else
      let seen := { seen with isFound := true }
      if textSize < 8 ∨ textSize % 8 ≠ 0 then return seen
      let first := a + 16
      let seen ← readProperties (first + textSize) (textSize / 8).toNat seen first
      readRemarks start size bound seen next

/-- More remarks than anyone writes. -/
def remarkBound : Nat := 0x10000

/-- Looks at the table of segments, from its end, for remarks on the library. -/
def remarks (i : Image) : Run Remarks :=
  (List.range i.file.segments.length).reverse.foldlM
    (fun seen n => do
      if (← i.useAt n) ≠ .note ∨ seen.isFound then return seen
      match ← i.segmentAt? n with
      | none => return seen
      | some s =>
        if s.alignment ≠ noteAlignment then return seen
        let start := i.base + UInt64.ofNat s.address
        readRemarks start (UInt64.ofNat s.memorySize) remarkBound seen start)
    {}

end Image

/-! ## The hash table -/

namespace HashTable

/-- The bound of the words of a table. -/
def wordBound : Word := 0x100000000

/-- Reads the head of the old table. -/
def readOld (a : Word) : Run HashTable := do
  let count ← Run.single a
  return .old ⟨count, a + 8, a + 8 + 4 * count⟩

/-- Reads the head of the new table. -/
def readNew (a : Word) : Run HashTable := do
  let count ← Run.single a
  let first ← Run.single (a + 4)
  let words ← Run.single (a + 8)
  if words &&& (words - 1) ≠ 0 then
    inconsistency "dl-setup_hash.c: 36: _dl_setup_hash"
      "(bitmask_nwords & (bitmask_nwords - 1)) == 0"
  let shift ← Run.single (a + 12)
  let heads := a + 16 + 4 * (2 * words % wordBound)
  return .new {
    count
    filter := a + 16
    mask := (words - 1) % wordBound
    shift := shift % 32
    heads
    hashes := heads + 4 * count - 4 * first }

/-- Reads the head of the table of an image. -/
def read (i : Image) : Run HashTable := do
  if i.has Tag.newTable then readNew (← i.address Tag.newTable)
  else if i.has Tag.oldTable then readOld (← i.address Tag.oldTable)
  else return .absent

end HashTable

namespace Image

/-! ## All together -/

/-- The image of a library file that comes into the process. -/
def bring (f : LibraryFile) (directory : Bytes) : Run Image := do
  if let some refusal := f.segmentRefusal? then refuse refusal.text
  let mapping ← MonadExcept.ofExcept (Mapping.ofFile f)
  let base ← mapping.enter
  match f.dynamicSegment? with
  | none => refuse LibraryFile.SegmentRefusal.notDynamic.text
  | some section_ =>
    let start := base + UInt64.ofNat section_.address
    let i : Image := {
      file := f
      base
      directory
      dynamicStart := start
      entries := ← entriesFrom (← Run.bound) [] start
      isMoved := section_.access.write }
    i.moveAddresses
    i.checkTables
    let i ← i.withFlags
    i.checkUse
    let seen ← i.remarks
    return { i with table := ← HashTable.read i, levels := seen.levels }

end Image

end Linkage.Native
