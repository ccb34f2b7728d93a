import Linkage.Decimal.Binary64

/-!
# The shortest decimal of a double

Every double has an interval of reals around it that round to it. The shortest
decimal is the one with the fewest digits in that interval, and of two with the
same number of digits the nearer one, a tie going to the even digit.

The search counts digits upwards. For `n` digits it looks at the two neighbours
of the value on the grid of decimals with `n` digits: if any point of the grid
lies in the interval, one of these does.
-/

namespace Linkage.Decimal

/-- A decimal `digits · 10 ^ exponent`. -/
structure Scientific where
  digits : Nat
  exponent : Int
  deriving DecidableEq

/-- The power of ten that makes every positive double large enough for 17 digits. -/
def lift : Nat := 400

/-- The numerator of the interval's unit, a quarter of the double's own one. -/
def quarter (x : Binary64) : Nat := Nat.pow 2 x.scale * Nat.pow 10 lift

/-- The denominator of the interval's unit. -/
def quarterDen : Nat := Nat.pow 2 (Binary64.unitExponent + 2)

/-- The lower end of the interval, in units; it is nearer where the scale changes. -/
def lowEnd (x : Binary64) : Nat :=
  if x.mantissa = Binary64.fieldUnit ∧ 1 < x.field then 4 * x.mantissa - 1 else 4 * x.mantissa - 2

/-- The upper end of the interval, in units. -/
def highEnd (x : Binary64) : Nat := 4 * x.mantissa + 2

/-- A lifted number that rounds to the double; the ends do if the mantissa is even. -/
def inInterval (x : Binary64) (c : Nat) : Bool :=
  let point := c * quarterDen
  let low := lowEnd x * quarter x
  let high := highEnd x * quarter x
  if x.mantissa % 2 = 0 then low ≤ point && point ≤ high else low < point && point < high

/-- The decimal of `n` digits that reads back as the double, if there is one. -/
def withDigits? (x : Binary64) (n : Nat) : Option Scientific :=
  let value := 4 * x.mantissa * quarter x
  let top := (Nat.toDigits 10 (value / quarterDen)).length
  let step := Nat.pow 10 (top - n)
  let below := value / (quarterDen * step)
  let rest := value - below * (quarterDen * step)
  let isBelow := inInterval x (below * step)
  let isAbove := inInterval x ((below + 1) * step)
  let takesAbove := quarterDen * step < 2 * rest ||
    (2 * rest == quarterDen * step && below % 2 == 1)
  let exponent : Int := (top - n : Nat) - (lift : Int)
  if isBelow && isAbove then some ⟨if takesAbove then below + 1 else below, exponent⟩
  else if isBelow then some ⟨below, exponent⟩
  else if isAbove then some ⟨below + 1, exponent⟩
  else none

/-- The same decimal without zeros at the end of its digits. -/
def Scientific.strip (d : Scientific) : Scientific :=
  let kept := ((Nat.toDigits 10 d.digits).reverse.dropWhile (· == '0')).reverse
  let cut := (Nat.toDigits 10 d.digits).length - kept.length
  ⟨Nat.ofDigitChars 10 kept 0, d.exponent + cut⟩

/-- The shortest decimal of a double, its sign left out. -/
def shortest (x : Binary64) : Scientific :=
  if x.mantissa = 0 then ⟨0, 0⟩
  else (((List.range 17).findSome? fun n => withDigits? x (n + 1)).getD ⟨0, 0⟩).strip

end Linkage.Decimal
