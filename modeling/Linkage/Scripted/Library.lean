import Linkage.Library

/-!
# Scripted libraries

A scripted library answers from a list of exports, whose latest entry for a key
decides. A name that holds a NUL can be no key, and a null address no symbol, so
an export of either changes nothing.
-/

namespace Linkage

/-- The memory that holds some words from an address on, and zeros elsewhere. -/
def Memory.ofWords (base : Word) (words : List Word) : Memory := fun address =>
  let distance := (address - base).toNat
  if distance % wordSize = 0 then words.getD (distance / wordSize) 0 else 0

/-- A library made of its exports, the latest first, and its memory. -/
structure ScriptedLibrary where
  exports : List (Bytes × Symbol) := []
  memory : Memory := fun _ => 0

namespace ScriptedLibrary

/-- The library with one more export. -/
def exporting (l : ScriptedLibrary) (name : String) (address : Word) : ScriptedLibrary :=
  if '\x00' ∈ name.toList then l
  else
    match Symbol.ofWord? address with
    | none => l
    | some symbol => { l with exports := (Utf8.encode name ++ [0], symbol) :: l.exports }

/-- The library with a pointer array of some words, which stands at an address. -/
def withArray (l : ScriptedLibrary) (base : Word) (words : List Word) : ScriptedLibrary :=
  { l.exporting FallbackTable.arrayName base with memory := .ofWords base words }

/-- A helper library with a pointer array of some words, which stands at an address. -/
def helper (base : Word) (words : List Word) : ScriptedLibrary :=
  ({} : ScriptedLibrary).withArray base words

/-- The library as a loader gives it. -/
def toLibrary (l : ScriptedLibrary) : Library where
  export? key := l.exports.lookup key
  memory := l.memory

end ScriptedLibrary

end Linkage
