import Linkage.FallbackTable
import Linkage.Path
import Linkage.Symbol

/-!
# Libraries

A library that is loaded answers two questions: which symbol it exports under a
key, and what word its memory holds at an address. Nothing else is known of it,
so a library here is those two functions.
-/

namespace Linkage

/-- The word that memory holds at each address. -/
abbrev Memory := Word → Word

/-- A loaded library. -/
structure Library where
  /-- The symbol exported under a key, which is a name and the NUL that ends it. -/
  export? : Bytes → Option Symbol
  /-- The library's memory. -/
  memory : Memory

/-- The number of octets in a word. -/
def wordSize : Nat := 8

/-- The word at a position of the array that starts at a symbol. -/
def Library.element (l : Library) (base : Symbol) (i : Nat) : Word :=
  l.memory (base.address + UInt64.ofNat (wordSize * i))

/-- A library together with the path it was loaded from. -/
structure OpenLibrary where
  library : Library
  path : Path

namespace OpenLibrary

/-- What the library exports under a name. -/
def resolve (l : OpenLibrary) (name : SymbolName) : Option Resolution :=
  (l.library.export? name.key).map (⟨·, .library⟩)

/-- The library as diagnostics show it. -/
def quoted (l : OpenLibrary) : String :=
  "LibraryLookup \x7b path: " ++ l.path.quoted ++ ", .. \x7d"

end OpenLibrary

end Linkage
