import Linkage.InitError
import Linkage.Library

/-!
# Symbols from the helper's pointer array

A helper library exports an array of pointers, one for each ordinal of a
fallback table and a null pointer behind them. The array is read once: every
slot in order, then the terminator. Reading stops at the first null slot, so a
shorter array that ends properly is refused before anything behind its end is
touched. Afterwards a lookup uses the symbols that were read, not the memory.

The reader asks for words through a function it is given, in any monad. That
makes the words it asks for, and their order, a property one can speak of.
-/

namespace Linkage

/-- Why a pointer array is refused. -/
inductive ArrayFault
  /-- The pointer of this slot is null. -/
  | nullSlot (slot : FallbackSlot)
  /-- The pointer behind the last slot is not null. -/
  | unterminated (expected : Nat)
  deriving DecidableEq

/-- The fault as a cause of its own. -/
def ArrayFault.cause : ArrayFault → InitError
  | .nullSlot slot => .slotNull slot.ordinal slot.name
  | .unterminated expected => .unterminated expected

namespace FallbackTable

variable {m : Type → Type} [Monad m]

/-- Reads the pointers of some slots, up to the first null one. -/
def readSlots (fetch : Nat → m Word) : List FallbackSlot → m (Except ArrayFault (List Symbol))
  | [] => pure (.ok [])
  | slot :: rest => do
    match Symbol.ofWord? (← fetch slot.ordinal) with
    | none => return .error (.nullSlot slot)
    | some symbol => return (← readSlots fetch rest).map (symbol :: ·)

/-- Reads the pointers of all slots and checks the terminator behind them. -/
def readArray (t : FallbackTable) (fetch : Nat → m Word) :
    m (Except ArrayFault (List Symbol)) := do
  match ← readSlots fetch t.slots with
  | .error fault => return .error fault
  | .ok symbols =>
    if (← fetch t.size) = 0 then return .ok symbols
    else return .error (.unterminated t.size)

end FallbackTable

/-- A helper library whose pointer array was accepted for a table. -/
structure FallbackLookup where
  table : FallbackTable
  /-- The symbol at each ordinal. -/
  symbols : List Symbol
  helper : OpenLibrary

namespace FallbackLookup

/-- The key under which a helper exports its array. -/
def arrayKey : Bytes := Utf8.encode FallbackTable.arrayName ++ [0]

/-- Reads the pointer array of a helper library. -/
def ofHelper (helper : OpenLibrary) (table : FallbackTable) : Except InitError FallbackLookup :=
  match helper.library.export? arrayKey with
  | none => .error (.missingExport helper.path FallbackTable.arrayName)
  | some base =>
    match Id.run (table.readArray fun i => pure (helper.library.element base i)) with
    | .error fault => .error fault.cause
    | .ok symbols => .ok ⟨table, symbols, helper⟩

/-- The symbol that the array holds for a name. -/
def resolve (l : FallbackLookup) (name : SymbolName) : Option Resolution := do
  let ordinal ← l.table.ordinal? name.text
  let symbol ← l.symbols[ordinal]?
  return ⟨symbol, .fallback ordinal⟩

/-- The lookup as diagnostics show it. -/
def quoted (l : FallbackLookup) : String :=
  "FallbackLookup \x7b helper: " ++ l.helper.path.quoted ++ ", slots: " ++
    Numeral.text l.symbols.length ++ " \x7d"

end FallbackLookup

end Linkage
