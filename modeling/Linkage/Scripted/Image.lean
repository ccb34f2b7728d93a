import Linkage.FallbackTable
import Linkage.Symbol

/-!
# Images of a helper's array

An image has a known address in each slot: the first one, and sixteen octets
more from slot to slot. One slot can be left null, and any word can stand behind
the last, so that each way in which an array is refused can be produced.
-/

namespace Linkage.Scripted

/-- Why an ordinal has no address: a step of the arithmetic leaves the words. -/
inductive AddressOverflow
  | product
  | sum
  deriving DecidableEq

/-- The wording of an overflow. -/
def AddressOverflow.message : AddressOverflow → String
  | .product => "attempt to multiply with overflow"
  | .sum => "attempt to add with overflow"

/-- The address in the first slot of an image. -/
def firstSlot : Nat := 0x70000000

/-- The distance between the addresses of neighbouring slots. -/
def slotStep : Nat := 0x10

/-- The number of words. -/
def wordBound : Nat := 0x10000000000000000

/-- The address in the slot at an ordinal. -/
def slotAddress (ordinal : Nat) : Except AddressOverflow Word :=
  if wordBound ≤ slotStep * ordinal then .error .product
  else if wordBound ≤ firstSlot + slotStep * ordinal then .error .sum
  else .ok (UInt64.ofNat (firstSlot + slotStep * ordinal))

/-- The word in a slot of an image that may have a null slot. -/
def slotWord (nullAt : Option Nat) (ordinal : Nat) : Word :=
  if nullAt = some ordinal then 0 else (slotAddress ordinal).toOption.getD 0

/-- An image with a slot for each name that the universal runtime lacks, and a terminator. -/
def image (nullAt : Option Nat) (terminator : Word) : List Word :=
  (List.range FallbackTable.universal.size).map (slotWord nullAt) ++ [terminator]

end Linkage.Scripted
