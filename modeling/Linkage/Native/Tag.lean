import Linkage.Symbol

/-!
# Tags

The dynamic section of a library is a list of tagged words. Here is what the tags mean.
-/

namespace Linkage.Native.Tag

/-- The name of a library that is needed. -/
def needed : Word := 1

/-- The octets that the late relocations take. -/
def lateSize : Word := 2

/-- The table through which other libraries are called. -/
def calls : Word := 3

/-- The old hash table. -/
def oldTable : Word := 4

/-- The table of texts. -/
def texts : Word := 5

/-- The list of symbols. -/
def symbols : Word := 6

/-- The relocations. -/
def relocations : Word := 7

/-- The octets that the relocations take. -/
def relocationsSize : Word := 8

/-- The octets that one relocation takes. -/
def relocationSize : Word := 9

/-- A routine that runs when the library is ready. -/
def start : Word := 12

/-- A routine that runs when the process ends. -/
def stop : Word := 13

/-- The name of the library. -/
def name : Word := 14

/-- Where needed libraries are searched, for this library and those that it needs. -/
def inheritedPath : Word := 15

/-- The library looks into itself first. -/
def selfish : Word := 16

/-- The kind of the late relocations. -/
def lateKind : Word := 20

/-- Segments that are not written to take relocations all the same. -/
def writesText : Word := 22

/-- The relocations that can wait for their first use. -/
def late : Word := 23

/-- Nothing waits for its first use. -/
def now : Word := 24

/-- A list of routines that run when the library is ready. -/
def starts : Word := 25

/-- A list of routines that run when the process ends. -/
def stops : Word := 26

/-- The octets that the list of first routines takes. -/
def startsSize : Word := 27

/-- The octets that the list of last routines takes. -/
def stopsSize : Word := 28

/-- Where needed libraries are searched, for this library only. -/
def ownPath : Word := 29

/-- Some restrictions on the library. -/
def flags : Word := 30

/-- A list of routines that run before all others. -/
def preparations : Word := 32

/-- The octets that the list of these routines takes. -/
def preparationsSize : Word := 33

/-- The octets that the list of moves takes. -/
def movesSize : Word := 35

/-- The relocations that do nothing but move an address. -/
def moves : Word := 36

/-- The octets that one of the moves takes. -/
def moveSize : Word := 37

/-- The new hash table. -/
def newTable : Word := 0x6FFFFEF5

/-- The versions of the symbols. -/
def versions : Word := 0x6FFFFFF0

/-- The number of relocations that do nothing but move an address. -/
def moveCount : Word := 0x6FFFFFF9

/-- More restrictions on the library. -/
def moreFlags : Word := 0x6FFFFFFB

/-- The versions that the library has. -/
def ownVersions : Word := 0x6FFFFFFC

/-- The versions that the library needs of others. -/
def neededVersions : Word := 0x6FFFFFFE

/-- The name of a library that helps this one, if it is there. -/
def auxiliary : Word := 0x7FFFFFFD

/-- The name of a library that stands for this one. -/
def filter : Word := 0x7FFFFFFF

/-- The tags of words that are addresses. -/
def addresses : List Word :=
  [calls, oldTable, texts, symbols, relocations, late, moves, newTable, versions]

end Linkage.Native.Tag
