import Linkage.Symbol

/-!
# The helper library

What the helper library provides. On POSIX it is there for its dependencies: a
search in it reaches the C library and those named here, which nothing else
would keep loaded. On Windows it exports one array, with a pointer for each of
its slots in order and a null pointer behind the last.

The slots are listed here on their own, as the helper is built on its own. That
the lookup's table has the same names in the same order is a fact about the two
lists, not a definition of one through the other.
-/

namespace Linkage.Helper

/-- Each function, with the variant that checks its arguments behind it. -/
def withChecked (names : List String) : List String := names.flatMap fun n => [n, n ++ "_s"]

/-- The names of the slots, in order. -/
def slotNames : List String :=
  withChecked ["fprintf", "fscanf", "fwprintf", "fwscanf", "printf", "scanf"] ++
  ["snprintf"] ++
  withChecked ["sprintf", "sscanf", "swprintf", "swscanf"] ++
  withChecked ["vfprintf", "vfscanf", "vfwprintf", "vfwscanf", "vprintf", "vscanf"] ++
  withChecked ["vsnprintf", "vsprintf", "vsscanf", "vswprintf", "vswscanf"] ++
  withChecked ["vwprintf", "vwscanf"] ++
  withChecked ["wprintf", "wscanf"] ++
  ["gmtime"]

/-- The number of slots, without the terminator. -/
def slotCount : Nat := slotNames.length

/-- The words of the array when the functions of the slots stand at some addresses. -/
def array (addressOf : Nat → Word) : List Word := (List.range slotCount).map addressOf ++ [0]

/-- The libraries that the helper keeps loaded beside the C library, by their logical names. -/
def dependencies : List String := ["m", "dl"]

/-- The helper keeps other libraries loaded. -/
def hasDependencies : Bool := dependencies ≠ []

end Linkage.Helper
