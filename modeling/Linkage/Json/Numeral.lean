import Linkage.Json.Basic
import Linkage.Text.Numeral

/-!
# JSON numerals

A numeral has a sign, a whole part, and perhaps a fraction and an exponent. A
whole numeral of at most 64 bits is an integer. Any other is a double, and its
value comes from the *significand*: the digits in front that fit in 64 bits.
Digits of the whole part that do not fit count as zeros; those of the fraction
are left out. The significand is then scaled by a power of ten.
-/

namespace Linkage.Json

/-- The parts of a numeral; digits are kept as written. -/
structure Numeral where
  negative : Bool
  whole : List Char
  fraction : Option (List Char)
  exponent : Option (Bool × List Char)
  deriving DecidableEq

namespace Numeral

/-- The least number that does not fit in 64 bits. -/
def significandBound : Nat := 0x10000000000000000

/-- The magnitude of the least signed integer of 64 bits. -/
def negativeBound : Nat := 0x8000000000000000

/-- Continues a significand with digits as long as the result fits in 64 bits. -/
def absorb (n : Nat) : List Char → Nat × List Char
  | [] => (n, [])
  | d :: rest =>
    let next := n * 10 + (d.toNat - '0'.toNat)
    if next < significandBound then absorb next rest else (n, d :: rest)

/-- The digits of an exponent that count. With so many of them no significand matters. -/
def exponentWidth : Nat := 11

/-- The exponent that is written, or zero. -/
def writtenExponent (t : Numeral) : Int :=
  match t.exponent with
  | none => 0
  | some (negative, digits) =>
    let counting := (digits.dropWhile (· = '0')).take exponentWidth
    let n : Int := Linkage.Numeral.ofDecimal counting
    if negative then -n else n

/-- The double of a significand and an exponent, with the sign of the numeral. -/
def toFloat? (t : Numeral) (significand : Nat) (exponent : Int) : Option Json :=
  (Binary64.scaled? significand exponent).map fun x =>
    .float (if t.negative then x.neg else x)

/-- The number that a numeral stands for; none if it is too large for a double. -/
def value? (t : Numeral) : Option Json :=
  let (significand, zeros) := absorb 0 t.whole
  if t.fraction = none ∧ t.exponent = none ∧ zeros = [] then
    if !t.negative then some (.int significand)
    else if significand ≠ 0 ∧ significand ≤ negativeBound then some (.int (-significand))
    else t.toFloat? significand 0
  else
    let digits := t.fraction.getD []
    let (significand, left) := absorb significand digits
    let kept : Int := digits.length - left.length
    t.toFloat? significand (zeros.length - kept + t.writtenExponent)

end Numeral

end Linkage.Json
