import Linkage.Native.Processor.Decoder

/-!
# Carrying instructions out

A processor has registers, flags, and the address of the next instruction. An
instruction changes these, and memory. What is narrower than a register changes a part
of it only, but four octets clear the upper ones.
-/

namespace Linkage.Native

/-- What a processor remembers of the last result. -/
structure Flags where
  carry : Bool := false
  parity : Bool := false
  zero : Bool := false
  sign : Bool := false
  overflow : Bool := false

/-- A processor. -/
structure Processor where
  registers : Vector Word 16
  /-- The address of the next instruction. -/
  next : Word
  flags : Flags := {}

/-- The processor at an address whose registers all hold the same. -/
def Processor.ready (next w : Word) : Processor where
  registers := .replicate 16 w
  next

/-- What comes of an instruction. -/
inductive Outcome
  | goesOn (p : Processor)
  /-- Nothing is known of what comes next. -/
  | unknown

namespace Width

/-- The number of bits. -/
def bits (w : Width) : Nat := 8 * w.octets

/-- The largest number. -/
def mask : Width → Word
  | .octet => 0xFF
  | .half => 0xFFFF
  | .single => 0xFFFFFFFF
  | .word => 0xFFFFFFFFFFFFFFFF

/-- The number has a sign. -/
def isNegative (w : Width) (n : Word) : Bool := n.toNat.testBit (w.bits - 1)

end Width

namespace Flags

/-- The flags of a result. -/
def ofResult (width : Width) (result : Word) (carry overflow : Bool) : Flags where
  carry
  parity := ((List.range 8).filter result.toNat.testBit).length % 2 = 0
  zero := result = 0
  sign := width.isNegative result
  overflow

/-- A condition holds. -/
def hold (f : Flags) (c : Condition) : Bool :=
  let holds :=
    match c.val / 2 with
    | 0 => f.overflow
    | 1 => f.carry
    | 2 => f.zero
    | 3 => f.carry || f.zero
    | 4 => f.sign
    | 5 => f.parity
    | 6 => f.sign != f.overflow
    | _ => f.zero || f.sign != f.overflow
  if c.val % 2 = 0 then holds else !holds

end Flags

/-- The sum of two numbers and a carry, with its flags. -/
def sumOf (width : Width) (a b : Word) (carry : Bool) : Word × Flags :=
  let result := (a + b + (if carry then 1 else 0)) &&& width.mask
  let isCarried := width.mask.toNat < a.toNat + b.toNat + carry.toNat
  let overflow :=
    width.isNegative a = width.isNegative b && width.isNegative result ≠ width.isNegative a
  (result, .ofResult width result isCarried overflow)

/-- The difference of two numbers and a borrow, with its flags. -/
def differenceOf (width : Width) (a b : Word) (borrow : Bool) : Word × Flags :=
  let result := (a - b - (if borrow then 1 else 0)) &&& width.mask
  let overflow :=
    width.isNegative a ≠ width.isNegative b && width.isNegative result ≠ width.isNegative a
  (result, .ofResult width result (a.toNat < b.toNat + borrow.toNat) overflow)

/-- What arithmetic makes of two numbers. -/
def Arithmetic.apply (op : Arithmetic) (width : Width) (carry : Bool) (a b : Word) :
    Word × Flags :=
  let plain (result : Word) := (result, Flags.ofResult width result false false)
  match op with
  | .add => sumOf width a b false
  | .addCarry => sumOf width a b carry
  | .subtractBorrow => differenceOf width a b carry
  | .subtract | .compare => differenceOf width a b false
  | .or => plain (a ||| b)
  | .and => plain (a &&& b)
  | .xor => plain (a ^^^ b)

/-- What a change makes of a number; some flags stay as they are. -/
def Change.apply (op : Change) (width : Width) (flags : Flags) (a : Word) : Word × Flags :=
  match op with
  | .increase => let (n, f) := sumOf width a 1 false; (n, { f with carry := flags.carry })
  | .decrease => let (n, f) := differenceOf width a 1 false; (n, { f with carry := flags.carry })
  | .complement => (~~~a &&& width.mask, flags)
  | .negate => differenceOf width 0 a false

/-- What a shift makes of a number. A shift by nothing leaves the flags. -/
def Shift.apply (op : Shift) (width : Width) (flags : Flags) (a count : Word) : Word × Flags :=
  let count := (count % (if width = .word then 64 else 32)).toNat
  let signed := (Decode.signed width.octets a).toInt64.toInt
  let resultOf (count : Nat) : Word :=
    match op with
    | .left => UInt64.ofNat (a.toNat <<< count) &&& width.mask
    | .right => UInt64.ofNat (a.toNat >>> count)
    | .signedRight => UInt64.ofInt (signed >>> count) &&& width.mask
  if count = 0 then (a, flags)
  else
    let last := resultOf (count - 1)
    let carry := if op = .left then width.isNegative last else last.toNat.testBit 0
    let result := resultOf count
    (result, .ofResult width result carry (width.isNegative result ≠ width.isNegative a))

namespace Processor

/-! ## Operands -/

/-- The number in a register. -/
def get (p : Processor) (r : Register) : Word := p.registers[r]

/-- The processor with another number in a register. -/
def set (p : Processor) (r : Register) (w : Word) : Processor :=
  { p with registers := p.registers.set r w }

/-- The address of a place. -/
def addressOf (p : Processor) (m : MemoryPlace) : Word :=
  let valueOf (r? : Option Register) := (r?.map p.get).getD 0
  valueOf m.base? + m.scale * valueOf m.index? + m.distance + if m.isAhead then p.next else 0

/-- Reads an operand. -/
def read (p : Processor) (width : Width) : Operand → Run Word
  | .register r => return p.get r &&& width.mask
  | .upperOctet r => return p.get r >>> 8 &&& 0xFF
  | .memory m => Run.number width.octets (p.addressOf m)
  | .constant w => return w &&& width.mask

/-- Writes an operand. -/
def write (p : Processor) (width : Width) (o : Operand) (value : Word) : Run Processor := do
  match o with
  | .register r =>
    let kept := if width = .single then 0 else p.get r &&& ~~~width.mask
    return p.set r (kept ||| value &&& width.mask)
  | .upperOctet r =>
    let kept := p.get r &&& ~~~(0xFF00 : Word)
    return p.set r (kept ||| (value &&& 0xFF) <<< 8)
  | .memory m =>
    Run.write width.octets (p.addressOf m) value
    return p
  | .constant _ => return p

/-! ## The stack -/

/-- The top of the stack. -/
def top (p : Processor) : Word := p.get .stack

/-- Puts a word on the stack. -/
def push (p : Processor) (w : Word) : Run Processor := do
  let top := p.top - 8
  Run.write 8 top w
  return p.set .stack top

/-- Takes a word off the stack. -/
def pop (p : Processor) : Run (Word × Processor) := do
  return (← Run.word p.top, p.set .stack (p.top + 8))

/-- Where a jump goes. -/
def targetOf (p : Processor) : JumpTarget → Run Word
  | .ahead distance => return p.next + distance
  | .operand o => p.read .word o

/-! ## Requests to the system -/

/-- The request to end the process. -/
def endRequests : List Word := [60, 231]

/-- Asks the system for something. Nothing comes of most requests. -/
def ask (p : Processor) : Run Processor := do
  let request := p.get .result
  if request ∈ endRequests then
    throw (.fatal (.exited (p.get .first % 256).toNat))
  return (p.set .result 0).set .counter p.next

/-! ## Instructions -/

/-- Carries an instruction out; the address of the next one is known already. -/
def perform (p : Processor) : Instruction → Run Outcome
  | .idle => return .goesOn p
  | .move width target source => do
    return .goesOn (← p.write width target (← p.read width source))
  | .extend width target own isSigned source => do
    let value ← p.read own source
    let value := if isSigned then Decode.signed own.octets value else value
    return .goesOn (← p.write width (.register target) value)
  | .address width target m => do
    return .goesOn (← p.write width (.register target) (p.addressOf m))
  | .arithmetic op width target source => do
    let (result, flags) :=
      op.apply width p.flags.carry (← p.read width target) (← p.read width source)
    let p ← if op = .compare then pure p else p.write width target result
    return .goesOn { p with flags }
  | .test width a b => do
    let result := (← p.read width a) &&& (← p.read width b)
    return .goesOn { p with flags := .ofResult width result false false }
  | .change op width target => do
    let (result, flags) := op.apply width p.flags (← p.read width target)
    return .goesOn { ← p.write width target result with flags }
  | .shift op width target count => do
    let (result, flags) :=
      op.apply width p.flags (← p.read width target) (← p.read .octet count)
    return .goesOn { ← p.write width target result with flags }
  | .multiply width target a b => do
    let product := (← p.read width a) * (← p.read width b)
    return .goesOn (← p.write width (.register target) product)
  | .exchange width a b => do
    let x ← p.read width a
    let y ← p.read width b
    return .goesOn (← (← p.write width a y).write width b x)
  | .push source => do return .goesOn (← p.push (← p.read .word source))
  | .pop target => do
    let (w, p) ← p.pop
    return .goesOn (← p.write .word target w)
  | .leave => do
    let (w, p) ← (p.set .stack (p.get .frame)).pop
    return .goesOn (p.set .frame w)
  | .call target => do
    let next ← p.targetOf target
    return .goesOn { ← p.push p.next with next }
  | .jump target => do return .goesOn { p with next := ← p.targetOf target }
  | .giveBack octets => do
    let (next, p) ← p.pop
    return .goesOn { p.set .stack (p.top + octets) with next }
  | .branch c distance =>
    return .goesOn (if p.flags.hold c then { p with next := p.next + distance } else p)
  | .setIf c target => do
    return .goesOn (← p.write .octet target (if p.flags.hold c then 1 else 0))
  | .moveIf c width target source => do
    let value ← p.read width source
    let value := if p.flags.hold c then value else p.get target
    return .goesOn (← p.write width (.register target) value)
  | .ask => do return .goesOn (← p.ask)
  | .forbidden => violation
  | .unknown => return .unknown

/-- Carries the next instruction out. -/
def step (p : Processor) : Run Outcome := do
  let (i, next) ← Decode.instruction p.next
  { p with next }.perform i

end Processor

end Linkage.Native
