import Linkage.Native.Image.Arrival
import Linkage.Native.Image.Threads
import Linkage.Native.Routine
import Linkage.Text.Numeral

/-!
# Relocations

A library that is in memory is not ready yet. Its *relocations* say where addresses
have to be written; some of those for calls may wait for their first use. A relocation
that speaks of a symbol needs its definition, in any library that is searched. Only a
weak symbol need not have one.
-/

namespace Linkage.Native

/-- A relocation. -/
structure Relocation where
  /-- Where the address is written. -/
  target : Word
  kind : Word
  /-- The position of the symbol that it speaks of. -/
  symbol : Word
  addend : Word

/-- A library whose relocations are done. -/
structure Site where
  /-- The position of the member. -/
  member : Nat
  path : Path
  image : Image
  /-- The members that are searched, one after another. -/
  scope : List Nat

/-- What a symbol was found to stand for, kept for the next relocation. -/
structure Recollection where
  symbol : Word
  needsDefinition : Bool
  skipsProgram : Bool
  found? : Option Definition

namespace Relocation

/-- The octets that a relocation takes. -/
def size : Word := 24

/-- Reads the relocation at an address. -/
def read (a : Word) : Run Relocation := do
  return {
    target := ← Run.word a
    kind := ← Run.single (a + 8)
    symbol := ← Run.single (a + 12)
    addend := ← Run.word (a + 16) }

/-- The kind of a relocation that does nothing. -/
def idle : Word := 0

/-- The kind of a relocation for calls. -/
def call : Word := 7

/-- The kind of a relocation that copies what another library holds. -/
def copying : Word := 5

/-- The kind of a relocation that tells how to find what each thread has of its own. -/
def perThread : Word := 36

/-- The kind of a relocation whose address a routine tells. -/
def routine : Word := 37

/-- The kinds of relocations for which a definition has to be in the library that has it. -/
def strictKinds : List Word := [call, 16, 17, 18, perThread]

/-- The relocation speaks of no symbol, and does nothing but move an address. -/
def isMove (r : Relocation) : Bool := r.kind = 8 || r.kind = 38

/-- A number of two hexadecimal digits, or eight if it does not fit. -/
def digits (n : Nat) : String :=
  let width := if n < 256 then 2 else 8
  let own := Numeral.hex n
  String.ofList (List.replicate (width - own.length) '0' ++ own)

/-- Complains about a relocation of a kind that is unknown. -/
def refuse {α : Type} (r : Relocation) (s : Site) (sort : String) : Run α :=
  refuseAt s.path ("unexpected " ++ sort ++ "reloc type 0x" ++ digits r.kind.toNat)

end Relocation

/-! ## Definitions -/

namespace Definition

/-- The member that has the definition. -/
def owner : Definition → Nat
  | .symbol n _ => n
  | .place n _ => n

/-- The base of the member at a position. -/
def baseOf (n : Nat) : Run Word := do
  match (← Run.member n).body with
  | .file i => return i.base
  | .system l => return l.base

/-- The address that a definition tells. A routine that tells it has to run. -/
def address : Definition → Run Word
  | .place _ a => return a
  | .symbol n s => do
    let a := s.address (← baseOf n)
    if s.kind = FileSymbol.indirect ∧ s.section_ ≠ FileSymbol.elsewhere then Routine.resolve a
    else return a

/-- The value of a definition, before its library has a base. -/
def value : Definition → Word
  | .symbol _ s => s.value
  | .place _ _ => 0

/-- The octets that what is defined takes. -/
def size : Definition → Word
  | .symbol _ s => s.size
  | .place _ _ => 8

end Definition

/-- A number of a version that a library does not speak of leads nowhere. -/
def Image.versionOf (i : Image) (number : Word) : Run (Option Version) :=
  match i.versions? with
  | some t => do
    let v ← t.at number
    return if v.hash = 0 then none else some v
  | none => if number % hiddenVersion = 0 then return none else violation

namespace Site

/-- What the system says of a symbol that is not defined. -/
def undefined (r : Request) : Run String := do
  let name := Utf8.lossy r.name
  match r.version? with
  | none => return "undefined symbol: " ++ name
  | some v =>
    let version ← if v.name = 0 then pure [] else Run.text v.name
    return "undefined symbol: " ++ name ++ ", version " ++ Utf8.lossy version

/--
A guarded symbol is looked for elsewhere, and yet means the library itself: its own
definition is as good as any other.
-/
def guard (s : Site) (own : FileSymbol) (r : Request) (d : Definition) : Run Definition := do
  if own.visibility ≠ FileSymbol.guarded then return d
  let rival? ←
    if r.needsDefinition then pure (some d)
    else ({ r with needsDefinition := true, skipsProgram := false } : Request).search s.scope
  return if rival?.any (·.owner ≠ s.member) then .symbol s.member own else d

/-- Looks for what a symbol stands for. -/
def seek (s : Site) (own : FileSymbol) (r : Request) : Run (Option Definition) := do
  match ← r.search s.scope with
  | some d => some <$> s.guard own r d
  | none =>
    if own.isWeak then return none
    else refuseAt s.path (← undefined r)

/--
What a symbol stands for in a relocation of some kind. The last answer is kept, and is
good for the same symbol again.
-/
def find (s : Site) (kept? : Option Recollection) (own : FileSymbol) (number : Word)
    (kind : Word) : Run (Option Definition × Option Recollection) := do
  if own.isLocal then return (some (.symbol s.member own), kept?)
  let needsDefinition := kind ∈ Relocation.strictKinds
  let skipsProgram : Bool := kind = Relocation.copying
  if let some kept := kept? then
    if kept.symbol = own.place ∧ kept.needsDefinition = needsDefinition ∧
        kept.skipsProgram = skipsProgram then
      return (kept.found?, kept?)
  let r : Request := {
    name := ← s.image.text own.name
    version? := ← s.image.versionOf number
    reference? := some own.place
    needsDefinition
    skipsProgram }
  let found? ← s.seek own r
  return (found?, some ⟨own.place, needsDefinition, skipsProgram, found?⟩)

/-! ## What relocations write -/

/-- Writes the way to what each thread has of its own. -/
def writePerThread (target addend : Word) : Option Definition → Run Unit
  | none => do
    Run.write 8 (target + 8) addend
    Run.write 8 target SystemLibrary.firstBase
  | some d => do
    let _ ← Threads.fix d.owner true
    Run.write 8 (target + 8) (d.value + addend)
    Run.write 8 target SystemLibrary.firstBase

/-- Writes what a relocation says for a definition. -/
def writeFound (s : Site) (r : Relocation) (own : FileSymbol) (found? : Option Definition) :
    Run Unit := do
  let target := s.image.base + r.target
  let value ←
    match found? with
    | some d => d.address
    | none => pure 0
  match r.kind, found? with
  | 6, _ | 7, _ => Run.write 8 target value
  | 1, _ => Run.write 8 target (value + r.addend)
  | 10, _ => Run.write 4 target (value + r.addend)
  | 2, _ => Run.write 4 target (value + r.addend - target)
  | 5, none | 16, none | 17, none | 18, none => return
  | 5, some d => Run.copy (min d.size own.size).toNat value target
  | 16, some d => do Run.write 8 target (UInt64.ofNat (← Threads.number d.owner))
  | 17, some d => Run.write 8 target (d.value + r.addend)
  | 18, some d =>
    Threads.require d.owner
    Run.write 8 target (d.value + r.addend)
  | 32, none | 33, none => violation
  | 32, some d => Run.write 4 target (d.size + r.addend)
  | 33, some d => Run.write 8 target (d.size + r.addend)
  | 36, _ => writePerThread target r.addend found?
  | 37, _ => Run.write 8 target (← Routine.resolve (s.image.base + r.addend))
  | _, _ => r.refuse s ""

/-- Moves an address. -/
def move (s : Site) (r : Relocation) : Run Unit :=
  Run.write 8 (s.image.base + r.target) (s.image.base + r.addend)

/-- Where the symbols of a library stand, and the numbers of their versions, if they have such. -/
structure Lists where
  symbols : Word
  numbers? : Option Word

/-- Reads where the symbols of a library stand. -/
def lists (s : Site) : Run Lists := do
  let symbols ← s.image.address Tag.symbols
  let numbers? ←
    if s.image.has Tag.versions then some <$> s.image.address Tag.versions else pure none
  return ⟨symbols, numbers?⟩

/-- The number of the version of a symbol; zero if the symbols have no versions. -/
def Lists.number (l : Lists) (position : Word) : Run Word := do
  match l.numbers? with
  | none => return 0
  | some start => return (← Run.half (start + 2 * position)) % hiddenVersion

/-- Does a relocation. -/
def relocate (s : Site) (l : Lists) (kept? : Option Recollection) (r : Relocation) :
    Run (Option Recollection) := do
  let number ← l.number r.symbol
  if r.isMove then
    s.move r
    return kept?
  if r.kind = Relocation.idle then return kept?
  let own ← FileSymbol.read (l.symbols + FileSymbol.width * r.symbol)
  let (found?, kept?) ← s.find kept? own number r.kind
  s.writeFound r own found?
  return kept?

/-! ## Ranges -/

/-- What relocations of a range leave behind: what was found last, and those that come last. -/
structure Progress where
  kept? : Option Recollection := none
  /-- Relocations whose address a routine tells, the latest first. -/
  delayed : List Relocation := []

/-- Does something for each relocation from an address on. -/
def forRange (act : Progress → Relocation → Run Progress) :
    (left : Nat) → Word → Progress → Run Progress
  | 0, _, progress => return progress
  | left + 1, a, progress => do
    let progress ← act progress (← Relocation.read a)
    forRange act left (a + Relocation.size) progress

/-- The number of relocations between two addresses; the last one may stand over. -/
def countBetween (start stop : Word) : Nat :=
  if start < stop then ((stop - start).toNat + 23) / 24 else 0

/-- Does a relocation of a range, or keeps it for the end of the range. -/
def relocateLater (s : Site) (l : Lists) (progress : Progress) (r : Relocation) :
    Run Progress := do
  if r.kind = Relocation.routine then return { progress with delayed := r :: progress.delayed }
  return { progress with kept? := ← s.relocate l progress.kept? r }

/-- Does a relocation that counts as a move, and has to be one. -/
def moveOne (s : Site) (progress : Progress) (r : Relocation) : Run Progress := do
  if r.isMove then
    s.move r
    return progress
  else
    inconsistency "../sysdeps/x86_64/dl-machine.h: 487: elf_machine_rela_relative"
      "ELFW(R_TYPE) (reloc->r_info) == R_X86_64_RELATIVE"

/-- Does the relocations of a range, of which the first ones count as moves. -/
def relocateRange (s : Site) (start size moves : Word) (kept? : Option Recollection) :
    Run (Option Recollection) := do
  let others := start + Relocation.size * moves
  let l ← s.lists
  let progress ← forRange s.moveOne (countBetween start others) start { kept? }
  let count := countBetween others (start + size)
  let progress ← forRange (s.relocateLater l) count others progress
  progress.delayed.reverse.foldlM (s.relocate l) progress.kept?

/-- What calls that wait go through, if the table of calls was made up once before. -/
structure Waiting where
  entry : Word
  table : Word

/-- Prepares a relocation that waits for its first use. -/
def defer (s : Site) (waiting? : Option Waiting) (progress : Progress) (r : Relocation) :
    Run Progress := do
  let target := s.image.base + r.target
  if r.kind = Relocation.call then
    match waiting? with
    | none => Run.increase target s.image.base
    | some w => Run.write 8 target (w.entry + (target - w.table) * 2)
    return progress
  else if r.kind = Relocation.perThread then
    return { progress with kept? := ← s.relocate (← s.lists) progress.kept? r }
  else if r.kind = Relocation.routine then
    return { progress with delayed := r :: progress.delayed }
  else r.refuse s "PLT "

/-- Prepares the relocations of a range that wait for their first use. -/
def deferRange (s : Site) (waiting? : Option Waiting) (start size : Word)
    (kept? : Option Recollection) : Run Unit := do
  let count := countBetween start (start + size)
  let progress ← forRange (s.defer waiting?) count start { kept? }
  progress.delayed.reverse.forM fun r => do
    Run.write 8 (s.image.base + r.target) (← Routine.resolve (s.image.base + r.addend))

/-- Prepares the table through which other libraries are called, if calls may wait. -/
def prepareCalls (s : Site) : Run (Option Waiting) := do
  if !s.image.has Tag.late ∨ s.image.isEager then return none
  let table ← s.image.address Tag.calls
  let entry ← Run.word (table + 8)
  Run.write 8 (table + 8) table
  Run.write 8 (table + 16) SystemLibrary.firstBase
  return if entry = 0 then none else some ⟨entry + s.image.base, table + 24⟩

/-- Does all relocations that stand in tables. -/
def relocateTables (s : Site) (waiting? : Option Waiting) : Run Unit := do
  let i := s.image
  let (start, size, moves) ←
    if i.has Tag.relocations then
      let start ← i.address Tag.relocations
      let size ← i.word Tag.relocationsSize
      pure (start, size, (← i.word? Tag.moveCount).getD 0)
    else pure (0, 0, 0)
  if !i.has Tag.lateKind then
    let _ ← s.relocateRange start size moves none
    let _ ← s.relocateRange 0 0 0 none
  else
    let late ← i.address Tag.late
    let lateSize ← i.word Tag.lateSize
    let size := if start + size = late + lateSize then size - lateSize else size
    if i.isEager then
      if start + size = late then
        let _ ← s.relocateRange start (size + lateSize) moves none
        let _ ← s.relocateRange 0 0 0 none
      else
        let kept? ← s.relocateRange start size moves none
        let _ ← s.relocateRange late lateSize 0 kept?
    else
      let kept? ← s.relocateRange start size moves none
      s.deferRange waiting? late lateSize kept?

/-! ## Lists of moves -/

/-- Moves the addresses behind a place that the bits of a word mark. -/
def moveMarked (s : Site) (place bits : Word) : Run Unit :=
  ((List.range 63).filter fun k => bits.toNat.testBit (k + 1)).forM fun k =>
    Run.increase (place + 8 * UInt64.ofNat k) s.image.base

/-- Moves the addresses of a list of moves, of which some words are left. -/
def moveFrom (s : Site) : (left : Nat) → (at_ place : Word) → Run Unit
  | 0, _, _ => return
  | left + 1, at_, place => do
    let w ← Run.word at_
    if w % 2 = 0 then
      let target := s.image.base + w
      Run.increase target s.image.base
      moveFrom s left (at_ + 8) (target + 8)
    else
      s.moveMarked place w
      moveFrom s left (at_ + 8) (place + 8 * 63)

/-- Moves the addresses that have a list of their own. -/
def moveAll (s : Site) : Run Unit := do
  if s.image.has Tag.moves then
    let start ← s.image.address Tag.moves
    let stop := start + (← s.image.word Tag.movesSize)
    let count := if start < stop then ((stop - start).toNat + 7) / 8 else 0
    s.moveFrom count start 0

/-! ## Protection -/

/-- The start of the page of an address. -/
def pageOf (a : Word) : Word := a &&& ~~~(0xFFF : Word)

/-- Changes what may be done with some pages, or complains. -/
def protect (s : Site) (start stop : Word) (access : Access) (complaint : String) : Run Unit := do
  if start = stop then return
  match (← get).memory.protect? start (stop - start) access with
  | some memory => modify fun p => { p with memory := memory }
  | none => refuseAt s.path (complaint ++ ": Cannot allocate memory")

/-- The segments of the table that come into memory and are not written to. -/
def textSegments (s : Site) : Run (List Segment) := do
  let segments ← (List.range s.image.file.segments.length).filterMapM fun n => do
    if (← s.image.useAt n) = .load then s.image.segmentAt? n else return none
  return segments.filter (!·.access.write)

/-- Changes what may be done with a segment. -/
def protectSegment (s : Site) (access : Access) (complaint : String) (g : Segment) : Run Unit :=
  let first := UInt64.ofNat g.address
  let stop := pageOf (first + UInt64.ofNat g.memorySize + 0xFFF)
  s.protect (s.image.base + pageOf first) (s.image.base + stop) access complaint

/-- Does something while the segments that are not written to can be written to. -/
def withText (s : Site) (act : Run Unit) : Run Unit := do
  if !s.image.rewritesText then return ← act
  let segments ← s.textSegments
  segments.forM fun g =>
    s.protectSegment { g.access with read := true, write := true }
      "cannot make segment writable for relocation" g
  act
  segments.reverse.forM fun g =>
    s.protectSegment g.access "cannot restore segment prot after reloc" g

/-- What the system says of a part of memory that it cannot close to writing. -/
def unsettledText : String := "cannot apply additional memory protection after relocation"

/-- Closes the part of memory that is not written to any more. -/
def settle (s : Site) : Run Unit := do
  if let some g := (s.image.file.segments.filter (·.use = .settled)).getLast? then
    if g.memorySize ≠ 0 then
      let start := s.image.base + UInt64.ofNat g.address
      let stop := pageOf (start + UInt64.ofNat g.memorySize)
      s.protect (pageOf start) stop ⟨true, false, false⟩ unsettledText

/-- Does all relocations of a library. -/
def complete (s : Site) : Run Unit := do
  s.withText do
    let waiting? ← s.prepareCalls
    s.moveAll
    s.relocateTables waiting?
  Run.modifyMember s.member fun m => { m with isRelocated := true }
  s.settle

end Site

end Linkage.Native
