import Linkage.Text.Numeral
import Linkage.Text.Utf8

/-!
# Symbols and their names

A symbol is an address in the process, and zero is none. A name can be looked up
if it is not empty and holds no NUL: libraries know their exports by octet
strings that end at the first NUL, so a NUL inside a name would cut it short.
-/

namespace Linkage

/-- A machine word: an address, or what memory holds at one. -/
abbrev Word := UInt64

/-- The address of a symbol; it is not zero. -/
structure Symbol where
  address : Word
  ne_zero : address ≠ 0

instance : DecidableEq Symbol := fun a b =>
  if h : a.address = b.address then
    isTrue (by cases a; cases b; simp_all)
  else isFalse fun e => h (e ▸ rfl)

/-- A word in hexadecimal, in lower case and without padding. -/
def Word.text (w : Word) : String := "0x" ++ String.ofList (Numeral.hex w.toNat)

namespace Symbol

/-- The symbol at an address, unless the address is zero. -/
def ofWord? (w : Word) : Option Symbol := if h : w = 0 then none else some ⟨w, h⟩

/-- The address in hexadecimal. -/
def text (s : Symbol) : String := Word.text s.address

/-- The symbol as diagnostics show it. -/
def quoted (s : Symbol) : String := "Symbol(" ++ s.text ++ ")"

/-- Puts a symbol in its place among symbols in ascending order, unless it is there. -/
def insert (s : Symbol) : List Symbol → List Symbol
  | [] => [s]
  | t :: rest =>
    if s = t then t :: rest
    else if s.address < t.address then s :: t :: rest
    else t :: insert s rest

/-- Symbols in ascending order of their addresses, each one once. -/
def sort (symbols : List Symbol) : List Symbol := symbols.foldr insert []

end Symbol

/-- Why a text is no symbol name. -/
inductive NameError
  /-- It is empty. -/
  | empty
  /-- It holds a NUL; the first one is at this octet. -/
  | interiorNul (position : Nat)
  deriving DecidableEq

/-- The wording of a name error. -/
def NameError.message : NameError → String
  | .empty => "symbol name is empty"
  | .interiorNul n => "symbol name contains a NUL byte at offset " ++ Numeral.text n

/-- The name of a symbol. -/
structure SymbolName where
  text : String
  ne_empty : text ≠ ""
  no_nul : '\x00' ∉ text.toList

namespace SymbolName

/-- The name with a given text, or why there is none. -/
def ofString (s : String) : Except NameError SymbolName :=
  if h : s = "" then .error .empty
  else if g : '\x00' ∈ s.toList then
    .error (.interiorNul ((s.toList.takeWhile (· ≠ '\x00')).flatMap String.utf8EncodeChar).length)
  else .ok ⟨s, h, g⟩

/-- The octets of a name with the NUL that ends them, as a library is asked for it. -/
def key (n : SymbolName) : Bytes := Utf8.encode n.text ++ [0]

end SymbolName

/-- Where the address of a symbol came from. -/
inductive Origin
  /-- A library exports it. -/
  | library
  /-- The helper's pointer array holds it at this ordinal. -/
  | fallback (ordinal : Nat)
  deriving DecidableEq

/-- The wording of an origin. -/
def Origin.text : Origin → String
  | .library => "library"
  | .fallback n => "fallback[" ++ Numeral.text n ++ "]"

/-- A symbol that was found, and where. -/
structure Resolution where
  symbol : Symbol
  origin : Origin
  deriving DecidableEq

end Linkage
