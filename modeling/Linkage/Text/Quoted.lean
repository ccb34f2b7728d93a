import Linkage.Text.Hidden
import Linkage.Text.Numeral
import Linkage.Text.Utf8

/-!
# Quoted text

Diagnostics show text and file names between quotation marks, so that every
character in them can be told. Both use the same escapes; file names show an
octet that belongs to no character as `\xFF`.
-/

namespace Linkage.Quoted

/-- A character spelled by its code point. -/
def codePoint (c : Char) : List Char :=
  ['\\', 'u', '\x7b'] ++ Numeral.hex c.toNat ++ ['\x7d']

/-- How a character stands between quotation marks. -/
def escape (c : Char) : List Char :=
  if c = '\x00' then ['\\', '0']
  else if c = '\t' then ['\\', 't']
  else if c = '\r' then ['\\', 'r']
  else if c = '\n' then ['\\', 'n']
  else if c = '"' ∨ c = '\\' then ['\\', c]
  else if Text.isHidden c then codePoint c
  else [c]

/-- An octet spelled with two hexadecimal digits in upper case. -/
def octet (b : UInt8) : List Char :=
  ['\\', 'x'] ++ (Numeral.hexOctet b).map Char.toUpper

/-- A text between quotation marks. -/
def text (s : String) : String :=
  String.ofList (['"'] ++ s.toList.flatMap escape ++ ['"'])

/-- A file name between quotation marks. -/
def fileName (b : Bytes) : String :=
  let piece : Utf8.Chunk → List Char
    | .char c => escape c
    | .broken octets => octets.flatMap octet
  String.ofList (['"'] ++ (Utf8.chunks b).flatMap piece ++ ['"'])

end Linkage.Quoted
