import Linkage.Native.LibraryFile
import Linkage.Native.Problem

/-!
# Library files in memory

The pages of the segments of a library come into memory one after another, and
the later ones cover the earlier ones. Where a segment goes on in memory behind its
part of the file, zeros follow.

A library can stand anywhere, so addresses are told as in the file here, and the page
of its first address is the *origin*. Who clears memory where nothing stands, or a page
that the file does not reach, is killed, and so is who covers the memory of others.
-/

namespace Linkage.Native

/-! ## Room -/

/-- The largest part of the addresses of a process that is free. -/
def roomBound : Nat := 0x555555554000

/-- More octets than a system has for memory that is written to. -/
def memoryBound : Nat := 0x700000000

/-- How far behind the origin of a library there are addresses. -/
def reachBound : Nat := 0x10000000000

/-- There is room for some octets of memory. -/
def hasRoom (length : Nat) (access : Access) : Bool :=
  0 < length && length < roomBound && !(access.write && memoryBound ≤ length)

/-- A part of a file can come into memory. -/
def canMap (position length : Nat) (access : Access) : Bool :=
  hasRoom length access && position + length < positionBound

/-- What the system says when there is no room. -/
def noRoomText : String := "failed to map segment from shared object"

/-- What the system says when the zeros behind a segment have no room. -/
def noZerosText : String := "cannot map zero-fill pages"

/-- What the system says when the access to a page cannot be changed. -/
def noAccessText : String := "cannot change memory protections"

/-! ## Segments in pages -/

namespace Segment

/-- The page of the first octet. -/
def firstPage (s : Segment) : Nat := pageStart s.address

/-- The end of the part that comes from the file. -/
def dataStop (s : Segment) : Nat := (s.address + s.fileSize) % addressBound

/-- The end of the pages that come from the file. -/
def pagesStop (s : Segment) : Nat := pageStop s.dataStop % addressBound

/-- The end of the segment in memory. -/
def stop (s : Segment) : Nat := (s.address + s.memorySize) % addressBound

/-- The position in the file of the first page. -/
def firstPosition (s : Segment) : Nat := pageStart s.position

end Segment

/-- What the addresses of a library are multiples of; only powers of two count. -/
def LibraryFile.alignment (f : LibraryFile) : Nat :=
  ((f.loaded.map (·.alignment)).filter fun a => a &&& (a - 1) = 0).foldl max 0

/--
The room that is set aside for a library of some length. One that is aligned to
more than a page gets enough to be moved into its place.
-/
def roomFor (length alignment : Nat) : Nat :=
  if alignment ≤ pageSize then length
  else (if alignment ≤ length then length + alignment else 2 * alignment) % addressBound

/-! ## Memory -/

/-- A part of memory. Addresses are counted from the origin. -/
structure Stretch where
  start : Nat
  stop : Nat
  /-- Where its octets stand in the file; otherwise they are zeros. -/
  position? : Option Nat
  access : Access

/-- A library file in memory. -/
structure Mapping where
  file : LibraryFile
  origin : Nat
  /-- What stands where, the latest first. -/
  stretches : List Stretch

namespace Mapping

/-- How far behind the origin an address is. Addresses come round to zero. -/
def distance (m : Mapping) (a : Nat) : Nat := (a + (addressBound - m.origin)) % addressBound

/-- What stands at an address. -/
def stretchAt? (m : Mapping) (a : Nat) : Option Stretch :=
  m.stretches.find? fun s => s.start ≤ m.distance a && m.distance a < s.stop

/-- The file has octets for a distance from the origin in a stretch, if they come from there. -/
def isReached (m : Mapping) (s : Stretch) (distance : Nat) : Bool :=
  match s.position? with
  | none => true
  | some p => p + (distance - s.start) < pageStop m.file.octets.size

/-- The addresses that were set aside for the library, which come from the first stretch. -/
def extent (m : Mapping) : Nat := (m.stretches.getLast?.map (·.stop)).getD 0

/-- Memory that ends at some distance behind the origin is out of reach. -/
def isFar (m : Mapping) (stop : Nat) : Bool :=
  max reachBound m.extent < stop && stop ≤ positionBound

/-- Puts a stretch in place. -/
def put (m : Mapping) (s : Stretch) : Mapping := { m with stretches := s :: m.stretches }

/--
Puts a stretch of a segment in place. One that goes on behind what was set aside
covers other libraries, and the process does not live on without them.
-/
def take (m : Mapping) (s : Stretch) : Except Problem Mapping :=
  if m.extent < s.stop ∧ s.stop ≤ positionBound then violation else .ok (m.put s)

/-- Clears the end of the last page of a segment. -/
def clear (m : Mapping) (s : Segment) (stop : Nat) : Except Problem Mapping :=
  let start := m.distance s.dataStop
  match m.stretchAt? s.dataStop with
  | none => if s.access.write then violation else .error (.refused noAccessText)
  | some t =>
    if !m.isReached t start ∨ (s.access.write ∧ ¬ t.access.write) then violation
    else .ok (m.put ⟨start, start + (stop - s.dataStop), none, t.access⟩)

/-- Puts the zeros behind a segment in place. -/
def fill (m : Mapping) (s : Segment) : Except Problem Mapping := do
  if s.stop ≤ s.dataStop then return m
  let edge := min s.pagesStop s.stop
  let m ← if s.dataStop < edge then m.clear s edge else pure m
  if s.stop ≤ edge then return m
  let start := m.distance edge
  let stop := start + pageStop (s.stop - edge)
  if m.isFar stop || !hasRoom (s.stop - edge) s.access then .error (.refused noZerosText)
  m.take ⟨start, stop, none, s.access⟩

/-- Puts the pages of a segment in place. -/
def place (m : Mapping) (s : Segment) : Except Problem Mapping := do
  if s.pagesStop ≤ s.firstPage then return m
  let length := s.pagesStop - s.firstPage
  let start := m.distance s.firstPage
  if m.isFar (start + length) || !canMap s.firstPosition length s.access then
    .error (.refused noRoomText)
  m.take ⟨start, start + length, some s.firstPosition, s.access⟩

/-- Some segments follow each other without gaps between their pages. -/
def isDense : List Segment → Bool
  | s :: t :: rest => s.pagesStop = t.firstPage && isDense (t :: rest)
  | _ => true

/-- Closes the pages between the first and the last segment; others may come there later. -/
def punch (m : Mapping) (first last : Segment) : Except Problem Mapping :=
  if last.firstPage < first.pagesStop then
    .error (.refused LibraryFile.SegmentRefusal.unaligned.text)
  else
    let start := m.distance first.pagesStop
    .ok (m.put ⟨start, m.distance last.firstPage, some (first.firstPosition + start), .none⟩)

/--
The segments of a file in memory. The first one takes the place of all of them at
first, so that they stay together.
-/
def ofFile (f : LibraryFile) : Except Problem Mapping :=
  match f.loaded with
  | [] => .error (.refused LibraryFile.SegmentRefusal.nothingToLoad.text)
  | first :: rest => do
    let last := rest.getLastD first
    let length := (last.stop + (addressBound - first.firstPage)) % addressBound
    if !hasRoom (roomFor length f.alignment) .none ||
        !canMap first.firstPosition length first.access then
      .error (.refused noRoomText)
    let whole := ⟨0, pageStop length, some first.firstPosition, first.access⟩
    let m : Mapping := ⟨f, first.firstPage, [whole]⟩
    let m ← if isDense f.loaded then pure m else m.punch first last
    let m ← m.fill first
    rest.foldlM (fun m s => do (← m.place s).fill s) m

end Mapping

end Linkage.Native
