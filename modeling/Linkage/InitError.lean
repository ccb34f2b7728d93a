import Linkage.Path
import Linkage.Text.Numeral

/-!
# Why the lookup could not be set up

Each fault that setting up the lookup can meet is a case of its own, and
`InitError.message` gives its wording. A fault is kept and logged, never thrown
at a caller.
-/

namespace Linkage

/-- A fault while the lookup is set up. -/
inductive InitError
  /-- No system root is configured. -/
  | systemRootUnset
  /-- Neither a library directory nor an installation root is configured. -/
  | libraryDirUnknown
  /-- A library could not be loaded. -/
  | load (path : Path) (reason : String)
  /-- A library lacks an export that it must have. -/
  | missingExport (library : Path) (symbol : String)
  /-- The helper's array holds a null pointer at this ordinal. -/
  | slotNull (ordinal : Nat) (name : String)
  /-- The helper's array does not end in a null pointer after this many slots. -/
  | unterminated (expected : Nat)
  /-- The set-up broke off. -/
  | panicked (message : String)
  deriving DecidableEq

namespace InitError

/-- The wording of a fault. -/
def message : InitError → String
  | .systemRootUnset => "SystemRoot is not set; cannot locate System32"
  | .libraryDirUnknown => "installation library directory is unknown"
  | .load path reason => "failed to load " ++ path.display ++ ": " ++ reason
  | .missingExport library symbol => library.display ++ " does not export `" ++ symbol ++ "`"
  | .slotNull ordinal name =>
    "fallback slot " ++ Numeral.text ordinal ++ " (`" ++ name ++ "`) is null in the helper table"
  | .unterminated expected =>
    "helper table is not terminated after " ++ Numeral.text expected ++ " slots"
  | .panicked message => "lookup initialization panicked: " ++ message

/-- A fault as diagnostics show it. -/
def quoted : InitError → String
  | .systemRootUnset => "SystemRootUnset"
  | .libraryDirUnknown => "LibraryDirUnknown"
  | .load path reason =>
    "Load \x7b path: " ++ path.quoted ++ ", reason: " ++ Quoted.text reason ++ " \x7d"
  | .missingExport library symbol =>
    "MissingExport \x7b library: " ++ library.quoted ++ ", symbol: " ++ Quoted.text symbol ++
      " \x7d"
  | .slotNull ordinal name =>
    "FallbackSlotNull \x7b ordinal: " ++ Numeral.text ordinal ++ ", name: " ++ Quoted.text name ++
      " \x7d"
  | .unterminated expected =>
    "FallbackUnterminated \x7b expected: " ++ Numeral.text expected ++ " \x7d"
  | .panicked message => "Panicked \x7b message: " ++ Quoted.text message ++ " \x7d"

end InitError

end Linkage
