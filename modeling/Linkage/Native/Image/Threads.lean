import Linkage.Native.Image.Exports

/-!
# Memory that each thread has of its own

A library can ask for memory of which each thread gets a copy. Some relocations want it
to be there in every thread from its start, where the room is small; otherwise a thread
gets it when it first uses it.
-/

namespace Linkage.Native

namespace ThreadPart

/-- The largest alignment of memory that is there from the start. -/
def alignmentBound : Word := 64

/-- How far behind its alignment the memory begins. -/
def offset (t : ThreadPart) : Nat := (t.address &&& (t.alignment - 1)).toNat

/-- The octets that the memory takes where some are free, if it has room there. -/
def use? (t : ThreadPart) (free : Nat) : Option Nat :=
  let size := t.memorySize.toNat + t.offset
  if alignmentBound < t.alignment ∨ free < size then none
  else some (free - (free - size) / t.alignment.toNat * t.alignment.toNat - t.offset)

/-- Copies what the memory holds at first. It takes no more than the memory has. -/
def fill (t : ThreadPart) : Run Unit := do
  if t.memorySize < t.fileSize then violation
  readAll t.fileSize.toNat t.address
where
  /-- Reads some octets. -/
  readAll : (left : Nat) → Word → Run Unit
  | 0, _ => return
  | left + 1, a => do
    let _ ← Run.octet a
    readAll left (a + 1)

end ThreadPart

namespace Threads

/-- The octets that a library may take of the room if it could do without. -/
def optionalBound : Nat := 512

/-- The libraries of the system that have memory of this kind; the program has it as well. -/
def systemNames : List String := [SystemLibrary.program.name, SystemLibrary.cName, "libstdc++.so.6"]

/-- A member has memory of this kind. -/
def has (m : Member) : Bool :=
  match m.body with
  | .system l => l.name ∈ systemNames
  | .file i => i.threads?.isSome

/-- The number of the member at a position among those that have such memory, or zero. -/
def number (n : Nat) : Run Nat := do
  if !has (← Run.member n) then return 0
  return ((← get).members.toList.take (n + 1)).countP has

/--
Gives the memory of the member at a position its place in every thread from its start,
if there is room. A library without such memory divides by zero here.
-/
def fix (n : Nat) (isOptional : Bool) : Run Bool := do
  let m ← Run.member n
  match m.body with
  | .system l => if l.name ∈ systemNames then return true else violation
  | .file i =>
    if i.threadPlace ≠ .undecided then return i.threadPlace = .fixed
    match i.threads? with
    | none => violation
    | some t =>
      match t.use? (← get).threadRoom with
      | none => return false
      | some use =>
        if t.alignment = 0 then violation
        if isOptional ∧ optionalBound < use then return false
        modify fun p => { p with threadRoom := p.threadRoom - use }
        Run.modifyImage n fun i => { i with threadPlace := .fixed }
        return true

/-- What the system says when the room is too small. -/
def noRoomText : String := "cannot allocate memory in static TLS block"

/-- Gives the memory of the member at a position its place in every thread from its start. -/
def require (n : Nat) : Run Unit := do
  if !(← fix n false) then refuseAt (← Run.member n).path noRoomText

/-- Fills the memory of the member at a position that has its place from the start. -/
def fillFixed (n : Nat) : Run Unit := do
  if let some i := (← Run.member n).image? then
    if i.threadPlace = .fixed then
      if let some t := i.threads? then t.fill

/-- What the system says when a thread cannot get its memory. -/
def outOfMemory : String := "cannot allocate memory for thread-local data: ABORT"

/-- More octets than a thread can get. -/
def memoryBound : Word := 0x700000000

/-- The thread gets the memory of a library when it first uses it. -/
def obtain (i : Image) : Run Unit := do
  match i.threads? with
  | none => return
  | some t =>
    if i.threadPlace ≠ .fixed then
      if memoryBound ≤ t.memorySize + (if 16 < t.alignment then t.alignment else 0) then
        throw (.fatal (.aborted outOfMemory))
      t.fill

/-- Where the memory of a thread for the member at a position stands. -/
def base (n : Nat) : Word := 0x7EE000000000 + 0x100000000 * UInt64.ofNat n

end Threads

end Linkage.Native
