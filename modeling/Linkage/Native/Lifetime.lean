import Linkage.Native.Routine

/-!
# Beginning and end

When a family is ready, the routines run that its libraries have for the start, those
of a library after those of the libraries that it needs. When the process ends, the
other routines run, in the opposite order, of all libraries whose first ones have run.
-/

namespace Linkage.Native

namespace Run

/-- Calls the routines of a list in memory, of which some are left. -/
def callList (call : Word → Run Unit) : (left : Nat) → Word → Run Unit
  | 0, _ => return
  | left + 1, a => do
    call (← word a)
    callList call left (a + 8)

/-- Calls the routines of a list in memory from its end, of which some are left. -/
def callBackwards (call : Word → Run Unit) (a : Word) : (left : Nat) → Run Unit
  | 0 => return
  | left + 1 => do
    call (← word (a + 8 * UInt64.ofNat left))
    callBackwards call a left

/-- Calls the routine of a tag, if the library has one. -/
def callTagged (i : Image) (tag : Word) (call : Word → Run Unit) : Run Unit := do
  if let some a ← i.word? tag then call (i.base + a)

/-- The number of routines in a list of some octets; it counts modulo a bound. -/
def routineCount (octets : Word) : Nat := (octets / 8 % 0x100000000).toNat

/-- Runs the routines of the member at a position for the start, unless they have run. -/
def beginMember (n : Nat) : Run Unit := do
  let m ← member n
  if m.hasBegun then return
  modifyMember n fun m => { m with hasBegun := true }
  if let some i := m.image? then
    callTagged i Tag.start Routine.begin_
    if let some start ← i.word? Tag.starts then
      callList Routine.begin_ (routineCount (← i.word Tag.startsSize)) (i.base + start)

/-- Runs the routines of the member at a position that come before all others. -/
def prepareMember (n : Nat) : Run Unit := do
  if let some i := (← member n).image? then
    if let (some start, some size) := (← i.word? Tag.preparations, ← i.word? Tag.preparationsSize)
    then callList Routine.begin_ (routineCount size) (i.base + start)

/-- Runs the routines for the start of a family that was put into order. -/
def beginFamily (root : Nat) (family : List Nat) : Run Unit := do
  if let some n := (← get).first? then
    beginMember n
    modify fun p => { p with first? := none }
  prepareMember root
  family.reverse.forM beginMember

/-- Runs the routines of the member at a position for the end, unless they have run. -/
def endMember (n : Nat) : Run Unit := do
  let m ← member n
  if !m.hasBegun then return
  modifyMember n fun m => { m with hasBegun := false }
  if let some i := m.image? then
    if let some start ← i.word? Tag.stops then
      let count := routineCount (← i.word Tag.stopsSize)
      callBackwards Routine.end_ (i.base + start) count
    callTagged i Tag.stop Routine.end_

end Run

end Linkage.Native
