import Linkage.Log.Entry
import Linkage.Log.Outputs

/-!
# Emitters

An emitter writes entries to one destination, each as a line of its own. An
entry that comes without a trace identifier gets one from the name of the run
and a number of its own. The number is taken before the line is written, so a
line that is refused does not give its number to the next one.
-/

namespace Linkage.Log

/-- A writer of entries. -/
structure Emitter where
  destination : Destination
  /-- The name of the run. -/
  run : String
  /-- How many numbers were taken; meant for fewer than `2 ^ 64` entries. -/
  taken : Nat := 0
  deriving DecidableEq

namespace Emitter

/-- The trace identifier of a number in a run. -/
def traceId (run : String) (n : Nat) : String :=
  "syslookup::" ++ run ++ "::" ++ String.ofList (Numeral.padded 3 n)

/-- The entry with a trace identifier, a new one if it has none. -/
def identify (e : Emitter) (entry : Entry) : Emitter × Entry :=
  if entry.traceId = "" then
    ({ e with taken := e.taken + 1 }, { entry with traceId := traceId e.run (e.taken + 1) })
  else (e, entry)

/-- Writes an entry. -/
def emit (e : Emitter) (entry : Entry) (o : Outputs) :
    Emitter × Outputs × Except Refusal Unit :=
  let (e, entry) := e.identify entry
  let (o, result) := o.write e.destination (entry.line ++ "\n")
  (e, o, result)

/-- The emitter for a target; none if the target is off. -/
def ofTarget (target : Target) (run : String) (o : Outputs) :
    Except FileError (Option Emitter × Outputs) := do
  let (destination?, o) ← o.openTarget target
  return (destination?.map fun destination => { destination, run }, o)

end Emitter

end Linkage.Log
