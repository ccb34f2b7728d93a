import Linkage.Native.Process
import Linkage.Native.Processor.Instruction

/-!
# Reading instructions

An instruction takes one octet or more. Some octets in front change the width of what
it works on, and the numbers of registers; then one or two octets tell what to do, and
the rest tells with what.
-/

namespace Linkage.Native

/-- Reads an instruction; the state is the address of the next octet. -/
abbrev Decode := StateT Word Run

namespace Decode

/-- The next octet of an instruction. -/
def octet : Decode Word := do
  let a ← get
  set (a + 1)
  match (← (MonadState.get : Run Process)).memory.fetch? a with
  | some b => return b.toUInt64
  | none => (violation : Run Word)

/-- The next number of some octets. -/
def number : (width : Nat) → Decode Word
  | 0 => return 0
  | width + 1 => do
    let low ← octet
    return low ||| (← number width) <<< 8

/-- A number of some octets with its sign, as a word. -/
def signed (octets : Nat) (w : Word) : Word :=
  let unused := UInt64.ofNat (64 - 8 * octets)
  ((w <<< unused).toInt64 >>> unused.toInt64).toUInt64

/-- The next number of some octets, with its sign. -/
def signedNumber (width : Nat) : Decode Word := do return signed width (← number width)

/-- What stands in front of an instruction. -/
structure Front where
  /-- It works on two octets. -/
  isHalf : Bool := false
  /-- It works on eight octets. -/
  isWord : Bool := false
  /-- There is an octet that extends the numbers of registers. -/
  isExtended : Bool := false
  /-- What it adds to the number of the register. -/
  register : Nat := 0
  /-- What it adds to the number of the index. -/
  index : Nat := 0
  /-- What it adds to the number of the other register, or of the base. -/
  base : Nat := 0
  /-- It speaks of memory that each thread has of its own. -/
  isApart : Bool := false
  /-- No other processor may come between its reading and its writing. -/
  isLocked : Bool := false

/-- The register of a number of three bits, and what is added to it. -/
def registerOf (low extension : Nat) : Register := .ofNat (low % 8 + extension)

/-- The width that is not that of an octet. -/
def Front.width (f : Front) : Width :=
  if f.isWord then .word else if f.isHalf then .half else .single

/-- The operand of a register. Without an extension, four numbers mean upper octets. -/
def Front.operandOf (f : Front) (width : Width) (low extension : Nat) : Operand :=
  if width = .octet ∧ !f.isExtended ∧ 4 ≤ low then .upperOctet (registerOf (low - 4) 0)
  else .register (registerOf low extension)

/-- What stands behind the code of an instruction: a register, and a register or place. -/
structure Modes where
  /-- The number of the register, without its extension. -/
  low : Nat
  /-- The other one is a register of this number, or a place. -/
  other : Nat ⊕ MemoryPlace

/-- Reads the place that a base and an index tell. -/
def scaled (f : Front) (kind : Nat) : Decode MemoryPlace := do
  let b := (← octet).toNat
  let index := b / 8 % 8 + f.index
  let index? : Option Register := if index = 4 then none else some (.ofNat index)
  let scale : Word := 1 <<< UInt64.ofNat (b / 64)
  if b % 8 = 5 ∧ kind = 0 then
    return { index?, scale, distance := ← signedNumber 4 }
  let distance ←
    match kind with
    | 0 => pure 0
    | 1 => signedNumber 1
    | _ => signedNumber 4
  return { base? := some (registerOf b f.base), index?, scale, distance }

/-- Reads what stands behind the code of an instruction. -/
def modes (f : Front) : Decode Modes := do
  let b := (← octet).toNat
  let low := b / 8 % 8
  match b / 64, b % 8 with
  | 3, other => return ⟨low, .inl other⟩
  | kind, 4 => return ⟨low, .inr (← scaled f kind)⟩
  | 0, 5 => return ⟨low, .inr { distance := ← signedNumber 4, isAhead := true }⟩
  | kind, base => do
    let distance ←
      match kind with
      | 0 => pure 0
      | 1 => signedNumber 1
      | _ => signedNumber 4
    return ⟨low, .inr { base? := some (registerOf base f.base), distance }⟩

/-- The register of the modes. -/
def Modes.register (m : Modes) (f : Front) : Register := registerOf m.low f.register

/-- The register of the modes as an operand. -/
def Modes.registerOperand (m : Modes) (f : Front) (width : Width) : Operand :=
  f.operandOf width m.low f.register

/-- The other operand of the modes. -/
def Modes.operand (m : Modes) (f : Front) (width : Width) : Operand :=
  match m.other with
  | .inl low => f.operandOf width low f.base
  | .inr p => .memory p

/-- The next constant for a width. One for eight octets takes four, and has a sign. -/
def constant (width : Width) : Decode Operand := do
  return .constant (← signedNumber (min width.octets 4))

/-- The width of a code, of which the lowest bit tells octets apart. -/
def widthOf (f : Front) (code : Nat) : Width := if code % 2 = 0 then .octet else f.width

/-- The arithmetic of a number. -/
def arithmeticOf : Nat → Arithmetic
  | 0 => .add
  | 1 => .or
  | 2 => .addCarry
  | 3 => .subtractBorrow
  | 4 => .and
  | 5 => .subtract
  | 6 => .xor
  | _ => .compare

/-- The shift of a number, if it is known. -/
def shiftOf? : Nat → Option Shift
  | 4 | 6 => some .left
  | 5 => some .right
  | 7 => some .signedRight
  | _ => none

/-- Reads an instruction of arithmetic, of which the lowest three bits tell the operands. -/
def arithmetic (f : Front) (code : Nat) : Decode Instruction := do
  let op := arithmeticOf (code / 8)
  let width := widthOf f code
  match code % 8 with
  | 0 | 1 => do
    let m ← modes f
    return .arithmetic op width (m.operand f width) (m.registerOperand f width)
  | 2 | 3 => do
    let m ← modes f
    return .arithmetic op width (m.registerOperand f width) (m.operand f width)
  | 4 | 5 => return .arithmetic op width (.register .result) (← constant width)
  | _ => return .forbidden

/-- Reads a shift by a count. -/
def shift (f : Front) (code : Nat) (count : Decode Operand) : Decode Instruction := do
  let width := widthOf f code
  let m ← modes f
  let count ← count
  match shiftOf? m.low with
  | some op => return .shift op width (m.operand f width) count
  | none => return .unknown

/-- Reads an instruction of the group of tests and of changes of one number. -/
def changeOrTest (f : Front) (code : Nat) : Decode Instruction := do
  let width := widthOf f code
  let m ← modes f
  let target := m.operand f width
  match m.low with
  | 0 | 1 => return .test width target (← constant width)
  | 2 => return .change .complement width target
  | 3 => return .change .negate width target
  | _ => return .unknown

/-- Reads an instruction of the group of calls, jumps and counting. -/
def countOrJump (f : Front) (code : Nat) : Decode Instruction := do
  let width := widthOf f code
  let m ← modes f
  match m.low, width with
  | 0, _ => return .change .increase width (m.operand f width)
  | 1, _ => return .change .decrease width (m.operand f width)
  | _, .octet | 7, _ => return .forbidden
  | 2, _ => return .call (.operand (m.operand f .word))
  | 4, _ => return .jump (.operand (m.operand f .word))
  | 6, _ => return .push (m.operand f .word)
  | _, _ => return .unknown

/-- Reads the rest of an instruction whose code has two octets. -/
def long (f : Front) : Decode Instruction := do
  let code := (← octet).toNat
  if code / 16 = 4 then
    let m ← modes f
    return .moveIf (.ofNat code) f.width (m.register f) (m.operand f f.width)
  if code / 16 = 8 then return .branch (.ofNat code) (← signedNumber 4)
  if code / 16 = 9 then return .setIf (.ofNat code) ((← modes f).operand f .octet)
  match code with
  | 0x05 => return .ask
  | 0x00 | 0x01 | 0x06 | 0x07 | 0x08 | 0x09 | 0x0B | 0x20 | 0x21 | 0x22 | 0x23 | 0x30 | 0x32
  | 0xB9 | 0xFF => return .forbidden
  | 0x0D | 0x18 | 0x19 | 0x1A | 0x1B | 0x1C | 0x1D | 0x1E | 0x1F => do
    let _ ← modes f
    return .idle
  | 0xAF => do
    let m ← modes f
    let target := m.register f
    return .multiply f.width target (.register target) (m.operand f f.width)
  | 0xB6 | 0xBE => do
    let m ← modes f
    return .extend f.width (m.register f) .octet (code = 0xBE) (m.operand f .octet)
  | 0xB7 | 0xBF => do
    let m ← modes f
    return .extend f.width (m.register f) .half (code = 0xBF) (m.operand f .half)
  | _ => return .unknown

/-- Reads the rest of an instruction whose code has one octet and moves something. -/
def plainMove (f : Front) (code : Nat) : Decode Instruction := do
  let width := widthOf f code
  match code with
  | 0x88 | 0x89 => do
    let m ← modes f
    return .move width (m.operand f width) (m.registerOperand f width)
  | 0x8A | 0x8B => do
    let m ← modes f
    return .move width (m.registerOperand f width) (m.operand f width)
  | 0x8D => do
    let m ← modes f
    match m.other with
    | .inl _ => return .forbidden
    | .inr p => return .address f.width (m.register f) p
  | 0x8F => do
    let m ← modes f
    return if m.low = 0 then .pop (m.operand f .word) else .unknown
  | _ => return .unknown

/-- Reads the rest of an instruction whose code has one octet, by that octet. -/
def short (f : Front) (code : Nat) : Decode Instruction := do
  let width := widthOf f code
  if code < 0x40 then arithmetic f code
  else if code / 8 = 0x50 / 8 then return .push (.register (registerOf code f.base))
  else if code / 8 = 0x58 / 8 then return .pop (.register (registerOf code f.base))
  else if code / 16 = 7 then return .branch (.ofNat code) (← signedNumber 1)
  else if 0x88 ≤ code ∧ code < 0x90 then plainMove f code
  else if 0x91 ≤ code ∧ code < 0x98 ∨ code = 0x90 ∧ f.base ≠ 0 then
    return .exchange f.width (.register .result) (.register (registerOf code f.base))
  else if code / 8 = 0xB0 / 8 then
    return .move .octet (f.operandOf .octet (code % 8) f.base) (← constant .octet)
  else if code / 8 = 0xB8 / 8 then
    let value ← number f.width.octets
    return .move f.width (.register (registerOf code f.base)) (.constant value)
  else
    match code with
    | 0x63 => do
      let m ← modes f
      return .extend f.width (m.register f) .single true (m.operand f .single)
    | 0x68 => return .push (← constant .word)
    | 0x6A => return .push (.constant (← signedNumber 1))
    | 0x69 => do
      let m ← modes f
      return .multiply f.width (m.register f) (m.operand f f.width) (← constant f.width)
    | 0x6B => do
      let m ← modes f
      let source := m.operand f f.width
      return .multiply f.width (m.register f) source (.constant (← signedNumber 1))
    | 0x80 | 0x81 => do
      let m ← modes f
      return .arithmetic (arithmeticOf m.low) width (m.operand f width) (← constant width)
    | 0x83 => do
      let m ← modes f
      let target := m.operand f width
      return .arithmetic (arithmeticOf m.low) width target (.constant (← signedNumber 1))
    | 0x84 | 0x85 => do
      let m ← modes f
      return .test width (m.operand f width) (m.registerOperand f width)
    | 0x86 | 0x87 => do
      let m ← modes f
      return .exchange width (m.operand f width) (m.registerOperand f width)
    | 0x90 => return .idle
    | 0x98 =>
      let own : Width := if f.isWord then .single else if f.isHalf then .octet else .half
      return .extend f.width .result own true (.register .result)
    | 0xA8 | 0xA9 => return .test width (.register .result) (← constant width)
    | 0xC0 | 0xC1 => shift f code (return .constant (← number 1))
    | 0xD0 | 0xD1 => shift f code (return .constant 1)
    | 0xD2 | 0xD3 => shift f code (return .register .counter)
    | 0xC2 => return .giveBack (← number 2)
    | 0xC3 => return .giveBack 0
    | 0xC6 | 0xC7 => do
      let m ← modes f
      let target := m.operand f width
      if m.low = 0 then return .move width target (← constant width) else return .unknown
    | 0xC9 => return .leave
    | 0xE8 => return .call (.ahead (← signedNumber 4))
    | 0xE9 => return .jump (.ahead (← signedNumber 4))
    | 0xEB => return .jump (.ahead (← signedNumber 1))
    | 0xF6 | 0xF7 => changeOrTest f code
    | 0xFC | 0xFD => return .idle
    | 0xFE | 0xFF => countOrJump f code
    | 0x60 | 0x61 | 0x6C | 0x6D | 0x6E | 0x6F | 0x82 | 0x9A | 0xCC | 0xCD | 0xCE | 0xCF | 0xD4
    | 0xD5 | 0xD6 | 0xE4 | 0xE5 | 0xE6 | 0xE7 | 0xEA | 0xEC | 0xED | 0xEE | 0xEF | 0xF1 | 0xF4
    | 0xFA | 0xFB => return .forbidden
    | _ => return .unknown

/-- Reads the rest of an instruction behind what stands in front, by its next octet. -/
def code (f : Front) (b : Nat) : Decode Instruction := do
  let i ← if b = 0x0F then long f else short f b
  return if f.isLocked ∧ !i.canBeLocked then .forbidden else if f.isApart then .unknown else i

/-- The most octets that an instruction takes. -/
def longest : Nat := 15

/-- What stands in front, without the octet that extends the numbers of registers. -/
def Front.plain (f : Front) : Front :=
  { isHalf := f.isHalf, isApart := f.isApart, isLocked := f.isLocked }

/-- What stands in front, with an octet that extends the numbers of registers. -/
def Front.extended (f : Front) (b : Nat) : Front :=
  { f.plain with
    isExtended := true
    isWord := b / 8 % 2 = 1
    register := 8 * (b / 4 % 2)
    index := 8 * (b / 2 % 2)
    base := 8 * (b % 2) }

/--
Reads an instruction with at most `bound` octets in front of its code. The octet that
extends the numbers of registers counts only if it is the last one of these.
-/
def instructionUpTo : (bound : Nat) → Front → Decode Instruction
  | 0, _ => return .forbidden
  | bound + 1, f => do
    let b := (← octet).toNat
    match b with
    | 0x26 | 0x2E | 0x36 | 0x3E | 0xF2 | 0xF3 => instructionUpTo bound f.plain
    | 0xF0 => instructionUpTo bound { f.plain with isLocked := true }
    | 0x64 | 0x65 | 0x67 => instructionUpTo bound { f.plain with isApart := true }
    | 0x66 => instructionUpTo bound { f.plain with isHalf := true }
    | _ => if b / 16 = 4 then instructionUpTo bound (f.extended b) else code f b

/-- The instruction at an address, and the address of the next one. -/
def instruction (a : Word) : Run (Instruction × Word) := (instructionUpTo longest {}).run a

end Decode

end Linkage.Native
