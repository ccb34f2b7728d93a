/-!
# Binary floating point, in exact arithmetic

A double is kept as its bit pattern. What it stands for is read off the pattern
as `m · 2 ^ q`, and every operation goes through that value: the exact result is
formed as a quotient of natural numbers and rounded once, to the nearest double,
a tie to the even mantissa.
-/

namespace Linkage

/-- A double, as its bit pattern. -/
structure Binary64 where
  bits : UInt64
  deriving DecidableEq

namespace Binary64

/-- The value of the sign bit, `2 ^ 63`. -/
def signUnit : Nat := 0x8000000000000000

/-- The value of the lowest bit of the exponent field, `2 ^ 52`. -/
def fieldUnit : Nat := 0x10000000000000

/-- The sign bit. -/
def isNegative (x : Binary64) : Bool := decide (signUnit ≤ x.bits.toNat)

/-- The pattern without its sign. -/
def magnitude (x : Binary64) : Nat := x.bits.toNat % signUnit

/-- The exponent field. -/
def field (x : Binary64) : Nat := x.magnitude / fieldUnit

/-- The mantissa `m` of `m · 2 ^ q`. -/
def mantissa (x : Binary64) : Nat :=
  if x.field = 0 then x.magnitude else x.magnitude % fieldUnit + fieldUnit

/-- The exponent `q` of `m · 2 ^ q`, counted from the least one, which is `-1074`. -/
def scale (x : Binary64) : Nat := x.field - 1

/-- The scale of the least positive double: one unit of it is `2 ^ (-1074)`. -/
def unitExponent : Nat := 1074

/-- A positive double as a quotient of natural numbers. -/
def numerator (x : Binary64) : Nat := x.mantissa * Nat.pow 2 x.scale

/-- The quotient rounded to the nearest natural number, a tie to the even one. -/
def roundDiv (num den : Nat) : Nat :=
  let d := num / den
  let twice := 2 * (num % den)
  if den < twice ∨ (twice = den ∧ d % 2 = 1) then d + 1 else d

/--
The double nearest to `num / den`, for a positive `den`; none where it is too
large. The scale is the least one that leaves a mantissa below `2 ^ 53`.
-/
def ofRatio? (num den : Nat) : Option Binary64 :=
  let units := num * Nat.pow 2 unitExponent
  let guess := units.log2 - den.log2 - 53
  let scale := if units < den * Nat.pow 2 (guess + 53) then guess else guess + 1
  let pattern := scale * fieldUnit + roundDiv units (den * Nat.pow 2 scale)
  if pattern < 2047 * fieldUnit then some ⟨UInt64.ofNat pattern⟩ else none

/-- The product of two doubles without sign. -/
def mul? (x y : Binary64) : Option Binary64 :=
  ofRatio? (x.numerator * y.numerator) (Nat.pow 2 (2 * unitExponent))

/-- The quotient of two doubles without sign, the second one not zero. -/
def div? (x y : Binary64) : Option Binary64 :=
  ofRatio? x.numerator y.numerator

/-- The double with the opposite sign. -/
def neg (x : Binary64) : Binary64 := ⟨x.bits ^^^ 0x8000000000000000⟩

/-- The positive zero. -/
def zero : Binary64 := ⟨0⟩

/-- The double nearest to a power of ten, for exponents up to 308. -/
def tenPow? (k : Nat) : Option Binary64 := ofRatio? (Nat.pow 10 k) 1

/--
A natural number below `2 ^ 64` times a power of ten, rounded at each step: the
number to a double, the power to a double, and their product or quotient again.
None where the result is too large.

Below `10 ^ (-308)` the quotient is taken in two steps; two full steps leave
nothing of a number below `2 ^ 64`.
-/
def scaled? (n : Nat) (e : Int) : Option Binary64 := do
  let x ← ofRatio? n 1
  match e with
  | .ofNat k =>
    if k ≤ 308 then mul? x (← tenPow? k)
    else if n = 0 then return x
    else none
  | .negSucc k =>
    if k + 1 ≤ 308 then div? x (← tenPow? (k + 1))
    else
      let y ← div? x (← tenPow? 308)
      if k + 1 ≤ 616 then div? y (← tenPow? (k + 1 - 308))
      else return zero

end Binary64

end Linkage
