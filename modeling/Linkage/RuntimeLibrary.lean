/-!
# C runtimes

Which C runtime answers first. Only the universal one leaves out names that the
helper's table has to serve.
-/

namespace Linkage

/-- A C runtime that the lookup can stand on. -/
inductive RuntimeLibrary
  /-- The system's C library, seen through the helper library that depends on it. -/
  | side
  /-- The universal C runtime of Windows. -/
  | universal
  /-- The legacy C runtime of Windows. -/
  | legacy
  deriving DecidableEq, Inhabited

namespace RuntimeLibrary

/-- The name of a runtime in reports and log lines. -/
def name : RuntimeLibrary → String
  | .side => "side_library"
  | .universal => "ucrt"
  | .legacy => "msvcrt"

/-- The runtime leaves out names that the fallback table covers. -/
def needsFallback : RuntimeLibrary → Bool
  | .universal => true
  | _ => false

end RuntimeLibrary

end Linkage
