import Linkage.Text.Blank

/-!
# Log levels

Five levels of severity, from the most verbose one up. A sink writes the entries
at its own level and above.
-/

namespace Linkage.Log

/-- The severity of an entry. -/
inductive Level
  | trace
  | debug
  | info
  | warn
  | error
  deriving DecidableEq, Inhabited

namespace Level

/-- All levels, from the most verbose one up. -/
def all : List Level := [.trace, .debug, .info, .warn, .error]

/-- The position of a level among all. -/
def rank : Level → Nat
  | .trace => 0
  | .debug => 1
  | .info => 2
  | .warn => 3
  | .error => 4

/-- An entry passes a filter if it is at least as severe. -/
def passes (filter level : Level) : Bool := filter.rank ≤ level.rank

/-- The name of a level, as log lines show it. -/
def name : Level → String
  | .trace => "trace"
  | .debug => "debug"
  | .info => "info"
  | .warn => "warn"
  | .error => "error"

/-- The level of a name, spelled as log lines show it. -/
def ofName? (s : String) : Option Level := all.find? (·.name = s)

/--
The level that a user means: blanks around it and letter case do not matter, and
`info` is meant by default.
-/
def ofText (s : String) : Level :=
  let word := Text.lower (Text.trim s)
  if word = "trace" ∨ word = "verbose" then .trace
  else if word = "debug" then .debug
  else if word = "warn" ∨ word = "warning" then .warn
  else if word = "error" ∨ word = "err" then .error
  else .info

end Level

end Linkage.Log
