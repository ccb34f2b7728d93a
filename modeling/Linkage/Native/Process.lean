import Linkage.FileSystem
import Linkage.Native.Image
import Linkage.Native.Memory
import Linkage.Native.Problem
import Linkage.Native.SystemLibrary

/-!
# Processes

A process has memory and members. A member is a library, and it has a position: the
first member is the program, and every library that comes later gets the next one.

Work in a process changes it, and can meet a problem. What was done up to there stays
done, because routines for the end of the process may still have to run.
-/

namespace Linkage.Native

/-- What a member of a process is. -/
inductive Body
  | system (l : SystemLibrary)
  | file (i : Image)

/-- A library that is part of a process. -/
structure Member where
  /-- Where it was found. -/
  path : Path
  /-- What it was asked for by, and what it calls itself. -/
  names : List Bytes
  /-- Where its file stands. -/
  location? : Option Location
  body : Body
  /-- The member for which it was loaded. -/
  needer? : Option Nat := none
  /-- The members that it needs itself, once they are known. -/
  needs : List Nat := []
  /-- Its relocations are done. -/
  isRelocated : Bool := false
  /-- Its routines for the start have run, or are running. -/
  hasBegun : Bool := false

/-- The library was loaded from a file. -/
def Member.image? (m : Member) : Option Image :=
  match m.body with
  | .file i => some i
  | .system _ => none

/-- A member has a name because it was asked for by it, or was found there. -/
def Member.isNamed (m : Member) (name : Bytes) : Bool :=
  m.path.bytes = name || m.names.any (· = name)

/-- A process. -/
structure Process where
  memory : Memory
  members : Array Member
  /-- The members in the order in which names are compared. -/
  order : List Nat
  /-- Libraries come to stand below this address. -/
  ceiling : Word
  /-- The number of arguments of the process, its name included. -/
  argumentCount : Word
  /-- The member whose routines run before those of all others. -/
  first? : Option Nat := none
  /-- The octets that are left in the memory that every thread has from its start. -/
  threadRoom : Nat

/-- Work in a process. -/
abbrev Run := ExceptT Problem (StateM Process)

namespace Process

/-- Where the arguments of the process stand. -/
def argumentStart : Word := 0x7FFC00010000

/-- The top of the stack when a routine begins. -/
def stackTop : Word := 0x7FFC0000F000

/-- The lowest address of the stack. -/
def stackStart : Word := 0x7FFC00000000

/-- The octets of the stack. -/
def stackSize : Word := 0x20000

/-- Where the variables of a process with some arguments stand. -/
def variableStart (argumentCount : Word) : Word := argumentStart + 8 * (argumentCount + 1)

/-- Where the text stands of an argument or variable. They share one. -/
def textStart : Word := stackTop

/-- How many variables a process has. -/
def variableCount : Nat := 8

/-- The addresses of arguments and variables, as octets. A zero ends both lists. -/
def argumentOctets (argumentCount : Nat) : Array UInt8 :=
  let texts (n : Nat) : List Word := List.replicate n textStart ++ [0]
  let words := texts argumentCount ++ texts variableCount
  (words.flatMap fun w => (List.range 8).map fun k => (w >>> UInt64.ofNat (8 * k)).toUInt8).toArray

/-- Below this address the first library comes to stand. -/
def firstCeiling : Word := 0x7D55A0000000

/-- The octets for threads that are free when a process begins. -/
def firstThreadRoom : Nat := 1520

/-- The memory of a process that has just begun: its stack, and the libraries of the system. -/
def firstMemory (argumentCount : Nat) : Memory :=
  let systemSize := SystemLibrary.extent * UInt64.ofNat SystemLibrary.all.size
  let arguments := argumentOctets argumentCount
  let argumentSize := UInt64.ofNat arguments.size
  let m : Memory := ({} : Memory).put firstCeiling 0x1000 .zeros .none
  let m := m.put stackStart stackSize .zeros ⟨true, true, false⟩
  let m := m.put argumentStart argumentSize (.file arguments 0) ⟨true, true, false⟩
  let m := m.put SystemLibrary.firstBase systemSize .zeros ⟨true, false, true⟩
  m.insert textStart 1

/-- The paths of the libraries of the system in the order in which they are searched. -/
def systemPath (name : String) : Path := ⟨Utf8.encode ("/lib/x86_64-linux-gnu/" ++ name)⟩

/-- Where a library of the system was found that is part of every process. -/
def presentPath (l : SystemLibrary) : Path :=
  if l.name = SystemLibrary.loaderName then .ofString "/lib64/ld-linux-x86-64.so.2"
  else if l.name = SystemLibrary.kernel.name ∨ l.name = "" then .ofString l.name
  else systemPath l.name

/-- Where the file of a library of the system stands. -/
def systemLocation (name : String) : Location :=
  Installation.location (Installation.libraryDirectory ++ [name])

/-- A library that is part of every process, with all that it needs. -/
def presentMember (l : SystemLibrary) : Member where
  path := presentPath l
  names := [Utf8.encode l.name]
  location? := if l.name ∈ Installation.libraries then some (systemLocation l.name) else none
  body := .system l
  needs := l.needs.filterMap fun name => SystemLibrary.present.findIdx? (·.name = name)
  isRelocated := true
  hasBegun := true

/-- A process with some arguments that has just begun. -/
def start (argumentCount : Nat) : Process where
  memory := firstMemory argumentCount
  members := (SystemLibrary.present.map presentMember).toArray
  order := List.range SystemLibrary.present.length
  ceiling := firstCeiling
  argumentCount := UInt64.ofNat argumentCount
  threadRoom := firstThreadRoom

/-- What a process looks for it searches first in the program and in what that needs. -/
def firstScope : List Nat :=
  0 :: SystemLibrary.needsOfAll.filterMap fun name =>
    SystemLibrary.present.findIdx? (·.name = name)

end Process

namespace Run

/-! ## Members -/

/-- The member at a position. -/
def member (n : Nat) : Run Member := do
  match (← get).members[n]? with
  | some m => return m
  | none => violation

/-- Changes the member at a position. -/
def modifyMember (n : Nat) (f : Member → Member) : Run Unit :=
  modify fun p => { p with members := p.members.modify n f }

/-- Changes the image of the member at a position. -/
def modifyImage (n : Nat) (f : Image → Image) : Run Unit :=
  modifyMember n fun m =>
    match m.body with
    | .file i => { m with body := .file (f i) }
    | .system _ => m

/-- Takes a new member in, and gives its position. -/
def addMember (m : Member) : Run Nat := do
  let n := (← get).members.size
  modify fun p => { p with members := p.members.push m, order := p.order ++ [n] }
  return n

/-! ## Memory -/

/-- Reads the octet at an address. -/
def octet (a : Word) : Run UInt8 := do
  match (← get).memory.read? a with
  | some b => return b
  | none => violation

/-- Reads the number of some octets at an address, the lowest first. -/
def number : (width : Nat) → Word → Run Word
  | 0, _ => return 0
  | width + 1, a => do
    let low ← octet a
    return low.toUInt64 ||| (← number width (a + 1)) <<< 8

/-- Reads a number of two octets. -/
def half (a : Word) : Run Word := number 2 a

/-- Reads a number of four octets. -/
def single (a : Word) : Run Word := number 4 a

/-- Reads a word, which has eight octets. -/
def word (a : Word) : Run Word := number 8 a

/-- Writes an octet at an address. -/
def writeOctet (a : Word) (b : UInt8) : Run Unit := do
  if (← get).memory.isWritable a then
    modify fun p => { p with memory := p.memory.insert a b }
  else violation

/-- Writes the lowest octets of a number at an address, the lowest first. -/
def write : (width : Nat) → Word → Word → Run Unit
  | 0, _, _ => return
  | width + 1, a, value => do
    writeOctet a value.toUInt8
    write width (a + 1) (value >>> 8)

/-- Adds something to the word at an address. -/
def increase (a amount : Word) : Run Unit := do write 8 a ((← word a) + amount)

/-- Copies octets, the first one first. -/
def copy : (left : Nat) → (source target : Word) → Run Unit
  | 0, _, _ => return
  | left + 1, source, target => do
    writeOctet target (← octet source)
    copy left (source + 1) (target + 1)

/-- Octets of memory that are not zero are no more than this. -/
def bound : Run Nat := do return (← get).memory.bound

/-- The octets from an address up to the next zero, at most `bound` of them. -/
def textUpTo : (bound : Nat) → Word → Run Bytes
  | 0, _ => violation
  | bound + 1, a => do
    match ← octet a with
    | 0 => return []
    | b => return b :: (← textUpTo bound (a + 1))

/-- The octets from an address up to the next zero. -/
def text (a : Word) : Run Bytes := do textUpTo (← bound) a

/-- A text stands at an address. Nothing is read behind the first difference. -/
def holdsText : Word → Bytes → Run Bool
  | a, [] => do return (← octet a) = 0
  | a, b :: rest => do
    if (← octet a) = b then holdsText (a + 1) rest else return false

/-- The texts at two addresses are the same, as far as `bound` octets tell. -/
def sameTextUpTo : (bound : Nat) → Word → Word → Run Bool
  | 0, _, _ => violation
  | bound + 1, a, b => do
    let x ← octet a
    let y ← octet b
    if x ≠ y then return false
    else if x = 0 then return true
    else sameTextUpTo bound (a + 1) (b + 1)

/-- The texts at two addresses are the same. -/
def sameText (a b : Word) : Run Bool := do sameTextUpTo (← bound) a b

end Run

/-! ## Words of the dynamic section -/

namespace Image

/-- The word of a tag. -/
def word? (i : Image) (tag : Word) : Run (Option Word) := (i.place? tag).mapM Run.word

/-- The word of a tag that every library has to have. -/
def word (i : Image) (tag : Word) : Run Word := do
  match i.place? tag with
  | some place => Run.word place
  | none => violation

/-- The word of a tag as an address in memory, if it is one that is moved there. -/
def address (i : Image) (tag : Word) : Run Word := do
  let w ← i.word tag
  return if i.isMoved then w else i.base + w

/-- The address of the text at an offset in the table of texts. -/
def textAddress (i : Image) (offset : Word) : Run Word := do
  return (← i.address Tag.texts) + offset

/-- The text at an offset in the table of texts. -/
def text (i : Image) (offset : Word) : Run Bytes := do Run.text (← i.textAddress offset)

/-- The text of a tag. -/
def textOf? (i : Image) (tag : Word) : Run (Option Bytes) := do
  match ← i.word? tag with
  | none => return none
  | some offset => some <$> i.text offset

end Image

end Linkage.Native
