import Linkage.Decimal.Shortest
import Linkage.Json.Basic
import Linkage.Text.Numeral

/-!
# JSON text

A value has two spellings: a compact one without any blank, for lines, and a
pretty one indented by two spaces, for reports. In both, members keep their
order, and a string escapes only what it must: the quotation mark, the
backslash, and the controls below U+0020. No spelling of a string holds a raw
control, so a compact value never breaks a line.
-/

namespace Linkage.Json

/-- How a character stands in a string. -/
def escape (c : Char) : List Char :=
  if c = '"' then ['\\', '"']
  else if c = '\\' then ['\\', '\\']
  else if c = '\x08' then ['\\', 'b']
  else if c = '\x0c' then ['\\', 'f']
  else if c = '\n' then ['\\', 'n']
  else if c = '\r' then ['\\', 'r']
  else if c = '\t' then ['\\', 't']
  else if c.toNat < 0x20 then ['\\', 'u', '0', '0'] ++ Numeral.hexOctet (UInt8.ofNat c.toNat)
  else [c]

/-- The spelling of a string. -/
def quote (s : String) : List Char := '"' :: s.toList.flatMap escape ++ ['"']

/-- The spelling of a whole number. -/
def integerText : Int → List Char
  | .ofNat n => Numeral.decimal n
  | .negSucc n => '-' :: Numeral.decimal (n + 1)

/-- The spelling of an exponent, with a sign in both directions. -/
def exponentText (e : Int) : List Char :=
  if 0 ≤ e then '+' :: integerText e else integerText e

/--
The spelling of a decimal: positional from `10 ^ (-5)` up to `10 ^ 16`, with one
digit at least on both sides of the point, and with a signed exponent elsewhere.
-/
def decimalText (d : Decimal.Scientific) : List Char :=
  let digits := Numeral.decimal d.digits
  let point : Int := digits.length + d.exponent
  if 0 ≤ d.exponent ∧ point ≤ 16 then
    digits ++ List.replicate d.exponent.toNat '0' ++ ['.', '0']
  else if 0 < point ∧ point ≤ 16 then
    digits.take point.toNat ++ '.' :: digits.drop point.toNat
  else if -5 < point ∧ point ≤ 0 then
    ['0', '.'] ++ List.replicate (-point).toNat '0' ++ digits
  else
    let fraction := if digits.length = 1 then [] else '.' :: digits.drop 1
    digits.take 1 ++ fraction ++ 'e' :: exponentText (point - 1)

/-- The spelling of a double. -/
def floatText (x : Binary64) : List Char :=
  (if x.isNegative then ['-'] else []) ++ decimalText (Decimal.shortest x)

/-- The spelling of a truth value. -/
def boolText (b : Bool) : List Char := if b then "true".toList else "false".toList

mutual

/-- The compact spelling of a value. -/
def compactChars : Json → List Char
  | .null => "null".toList
  | .bool b => boolText b
  | .int i => integerText i
  | .float x => floatText x
  | .str s => quote s
  | .arr items => '[' :: compactItems true items
  | .obj members => '\x7b' :: compactMembers true members

/-- The rest of an array, after its bracket or after an item. -/
def compactItems : Bool → List Json → List Char
  | _, [] => [']']
  | first, v :: rest => (if first then [] else [',']) ++ compactChars v ++ compactItems false rest

/-- The rest of an object, after its bracket or after a member. -/
def compactMembers : Bool → List (String × Json) → List Char
  | _, [] => ['\x7d']
  | first, (k, v) :: rest =>
    (if first then [] else [',']) ++ quote k ++ ':' :: compactChars v ++ compactMembers false rest

end

/-- The compact spelling of a value. -/
def compact (v : Json) : String := String.ofList (compactChars v)

/-- A new line at a level of indentation. -/
def newline (level : Nat) : List Char := '\n' :: List.replicate (2 * level) ' '

mutual

/-- The pretty spelling of a value that stands at a level of indentation. -/
def prettyChars (level : Nat) : Json → List Char
  | .null => "null".toList
  | .bool b => boolText b
  | .int i => integerText i
  | .float x => floatText x
  | .str s => quote s
  | .arr [] => ['[', ']']
  | .arr (v :: rest) =>
    '[' :: newline (level + 1) ++ prettyChars (level + 1) v ++ prettyItems level rest
  | .obj [] => ['\x7b', '\x7d']
  | .obj ((k, v) :: rest) =>
    '\x7b' :: newline (level + 1) ++ quote k ++ ':' :: ' ' :: prettyChars (level + 1) v ++
      prettyMembers level rest

/-- The rest of an array, after an item. -/
def prettyItems (level : Nat) : List Json → List Char
  | [] => newline level ++ [']']
  | v :: rest => ',' :: newline (level + 1) ++ prettyChars (level + 1) v ++ prettyItems level rest

/-- The rest of an object, after a member. -/
def prettyMembers (level : Nat) : List (String × Json) → List Char
  | [] => newline level ++ ['\x7d']
  | (k, v) :: rest =>
    ',' :: newline (level + 1) ++ quote k ++ ':' :: ' ' :: prettyChars (level + 1) v ++
      prettyMembers level rest

end

/-- The pretty spelling of a value. -/
def pretty (v : Json) : String := String.ofList (prettyChars 0 v)

end Linkage.Json
