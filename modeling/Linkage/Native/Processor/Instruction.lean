import Linkage.Symbol

/-!
# Instructions

What a processor of this kind can be told to do, as far as the routines of libraries
need it. A register has a number, and an instruction works on one, two, four or eight
octets of it.
-/

namespace Linkage.Native

/-- A register of a processor. -/
abbrev Register := Fin 16

namespace Register

/-- The register of a number, of which the lowest four bits count. -/
def ofNat (n : Nat) : Register := ⟨n % 16, Nat.mod_lt n (by decide)⟩

/-- Takes what a routine gives back. -/
def result : Register := 0

/-- Counts, and tells how far to shift. -/
def counter : Register := 1

/-- Holds the third argument of a routine. -/
def third : Register := 2

/-- Points at the top of the stack. -/
def stack : Register := 4

/-- Points at the part of the stack that belongs to a routine. -/
def frame : Register := 5

/-- Holds the second argument of a routine. -/
def second : Register := 6

/-- Holds the first argument of a routine. -/
def first : Register := 7

end Register

/-- The number of octets that an instruction works on. -/
inductive Width
  | octet
  | half
  | single
  | word
  deriving DecidableEq

/-- The number of octets. -/
def Width.octets : Width → Nat
  | .octet => 1
  | .half => 2
  | .single => 4
  | .word => 8

/-- A place in memory, as instructions tell it. -/
structure MemoryPlace where
  base? : Option Register := none
  index? : Option Register := none
  /-- What the index is multiplied by. -/
  scale : Word := 1
  distance : Word
  /-- The distance is counted from the next instruction. -/
  isAhead : Bool := false

/-- What an instruction works on. -/
inductive Operand
  | register (r : Register)
  /-- The second octet of a register. -/
  | upperOctet (r : Register)
  | memory (p : MemoryPlace)
  | constant (w : Word)

/-- What is made of two numbers. -/
inductive Arithmetic
  | add
  | or
  | addCarry
  | subtractBorrow
  | and
  | subtract
  | xor
  /-- A difference that is not kept. -/
  | compare
  deriving DecidableEq

/-- What is made of one number. -/
inductive Change
  | increase
  | decrease
  | complement
  | negate
  deriving DecidableEq

/-- How bits are shifted. -/
inductive Shift
  | left
  | right
  /-- To the right, and the sign is kept. -/
  | signedRight
  deriving DecidableEq

/-- A condition on the flags. Of two neighbours, the second one is the opposite. -/
abbrev Condition := Fin 16

/-- The condition of a number, of which the lowest four bits count. -/
def Condition.ofNat (n : Nat) : Condition := ⟨n % 16, Nat.mod_lt n (by decide)⟩

/-- Where a jump goes. -/
inductive JumpTarget
  /-- Some octets ahead of the next instruction. -/
  | ahead (distance : Word)
  | operand (o : Operand)

/-- An instruction. -/
inductive Instruction
  | idle
  | move (width : Width) (target source : Operand)
  /-- Moves a narrower number, with its sign or without. -/
  | extend (width : Width) (target : Register) (own : Width) (isSigned : Bool) (source : Operand)
  /-- Tells the address of a place. -/
  | address (width : Width) (target : Register) (p : MemoryPlace)
  | arithmetic (op : Arithmetic) (width : Width) (target source : Operand)
  /-- Sets the flags by the common bits of two numbers. -/
  | test (width : Width) (a b : Operand)
  | change (op : Change) (width : Width) (target : Operand)
  | shift (op : Shift) (width : Width) (target count : Operand)
  | multiply (width : Width) (target : Register) (a b : Operand)
  | exchange (width : Width) (a b : Operand)
  | push (source : Operand)
  | pop (target : Operand)
  /-- Gives the part of the stack back that belongs to a routine. -/
  | leave
  | call (target : JumpTarget)
  | jump (target : JumpTarget)
  /-- Goes back to the caller, and takes some octets off the stack. -/
  | giveBack (octets : Word)
  | branch (c : Condition) (distance : Word)
  | setIf (c : Condition) (target : Operand)
  | moveIf (c : Condition) (width : Width) (target : Register) (source : Operand)
  /-- Asks the system for something. -/
  | ask
  /-- It must not be carried out. -/
  | forbidden
  /-- Nothing is known of what it does. -/
  | unknown

/-- The operand is a place in memory. -/
def Operand.isPlace : Operand → Bool
  | .memory _ => true
  | _ => false

/-- An instruction that reads a place in memory and then writes there, in one go if need be. -/
def Instruction.canBeLocked : Instruction → Bool
  | .arithmetic op _ target _ => op ≠ .compare && target.isPlace
  | .change _ _ target => target.isPlace
  | .exchange _ a _ => a.isPlace
  | .unknown | .forbidden => true
  | _ => false

end Linkage.Native
