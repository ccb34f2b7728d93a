/-!
# Numerals

Decimal numerals with a least width, and hexadecimal ones in lower case, each
with the function that reads it back.
-/

namespace Linkage.Numeral

/-- The decimal digits of a number, without leading zeros. -/
def decimal (n : Nat) : List Char := Nat.toDigits 10 n

/-- The decimal digits of a number, as text. -/
def text (n : Nat) : String := String.ofList (decimal n)

/-- The digits of a number, padded with zeros on the left to a least width. -/
def padded (width n : Nat) : List Char :=
  List.replicate (width - (decimal n).length) '0' ++ decimal n

/-- The hexadecimal digits of a number, in lower case and without leading zeros. -/
def hex (n : Nat) : List Char := Nat.toDigits 16 n

/-- An octet as two hexadecimal digits in lower case. -/
def hexOctet (b : UInt8) : List Char :=
  [Nat.digitChar (b.toNat / 16), Nat.digitChar (b.toNat % 16)]

/-- Octets in hexadecimal, two digits in lower case each. -/
def hexText (octets : List UInt8) : String := String.ofList (octets.flatMap hexOctet)

/-- The value of a hexadecimal digit, in either case. -/
def hexDigit? (c : Char) : Option Nat :=
  if '0' ≤ c ∧ c ≤ '9' then some (c.toNat - '0'.toNat)
  else if 'a' ≤ c ∧ c ≤ 'f' then some (c.toNat - 'a'.toNat + 10)
  else if 'A' ≤ c ∧ c ≤ 'F' then some (c.toNat - 'A'.toNat + 10)
  else none

/-- The number that a run of decimal digits stands for. -/
def ofDecimal (cs : List Char) : Nat := Nat.ofDigitChars 10 cs 0

/-- Reading the digits of a number gives the number. -/
theorem ofDecimal_decimal (n : Nat) : ofDecimal (decimal n) = n :=
  Nat.ofDigitChars_ten_toDigits

/-- Padding does not change the number read. -/
theorem ofDecimal_padded (w n : Nat) : ofDecimal (padded w n) = n := by
  simp [ofDecimal, padded, decimal, Nat.ofDigitChars_append, Nat.ofDigitChars_replicate_zero,
    Nat.ofDigitChars_ten_toDigits]

/-- The number that a run of hexadecimal digits stands for; none if another character occurs. -/
def ofHex? (cs : List Char) : Option Nat :=
  cs.foldlM (fun n c => (hexDigit? c).map (n * 16 + ·)) 0

/-- The octets that pairs of hexadecimal digits stand for. -/
def ofHexOctets? : List Char → Option (List UInt8)
  | [] => some []
  | [_] => none
  | a :: b :: rest => do
    let hi ← hexDigit? a
    let lo ← hexDigit? b
    let tail ← ofHexOctets? rest
    return UInt8.ofNat (hi * 16 + lo) :: tail

end Linkage.Numeral
