import Linkage.Text.Utf8

/-!
# Tokens in the names of libraries

A name that leads to a library file may hold tokens, which stand for what
differs from system to system: `$ORIGIN` for the directory of the program or the
library that names it, `$PLATFORM` for the processor, `$LIB` for the directory of
libraries. A token may stand in braces, and nothing that could continue its name
may follow it. Every other dollar sign is an ordinary octet.
-/

namespace Linkage.Native

/-- A token. -/
inductive PathToken
  | origin
  | platform
  | lib

namespace PathToken

/-- All tokens, in the order in which they are tried. -/
def all : List PathToken := [.origin, .platform, .lib]

/-- The name of a token. -/
def name : PathToken → String
  | .origin => "ORIGIN"
  | .platform => "PLATFORM"
  | .lib => "LIB"

/-- What a token stands for, in something that stands in a directory. -/
def value (directory : Bytes) : PathToken → Bytes
  | .origin => directory
  | .platform => Utf8.encode "x86_64"
  | .lib => Utf8.encode "lib/x86_64-linux-gnu"

/-- Programs stand in a directory of their own, which holds no libraries. -/
def programDirectory : Bytes := Utf8.encode "/program"

/-- The octet in front of every token. -/
def dollar : UInt8 := 0x24

/-- An octet that can continue the name of a token. -/
def continues (b : UInt8) : Bool :=
  let c := Char.ofNat b.toNat
  c.isAlphanum || c = '_'

/-- The rest of a name after a token without braces, if it begins with that one. -/
def dropBare? (t : PathToken) (name : Bytes) : Option Bytes :=
  let own := Utf8.encode t.name
  let rest := name.drop own.length
  if own.isPrefixOf name && !rest.head?.any continues then some rest else none

/-- The rest of a name after a token in braces, if it begins with that one. -/
def dropBraced? (t : PathToken) (name : Bytes) : Option Bytes :=
  let own := Utf8.encode ("\x7b" ++ t.name ++ "\x7d")
  if own.isPrefixOf name then some (name.drop own.length) else none

/-- The value of the token behind a dollar sign, and the rest of the name. -/
def read? (directory name : Bytes) : Option (Bytes × Bytes) :=
  all.findSome? fun t =>
    ((t.dropBraced? name).or (t.dropBare? name)).map fun rest => (t.value directory, rest)

/-- The name with the values of its tokens. The bound is the length of the name. -/
def expandUpTo (directory : Bytes) : (bound : Nat) → Bytes → Bytes
  | bound + 1, b :: rest =>
    match if b = dollar then read? directory rest else none with
    | some (value, rest) => value ++ expandUpTo directory bound rest
    | none => b :: expandUpTo directory bound rest
  | _, _ => []

/-- The name with the values of its tokens, as something that stands in a directory means it. -/
def expand (directory name : Bytes) : Bytes := expandUpTo directory name.length name

end PathToken

end Linkage.Native
