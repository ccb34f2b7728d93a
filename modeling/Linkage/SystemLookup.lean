import Linkage.Setup

/-!
# The system lookup

A lookup that never fails to come into being. If setting it up met a fault or
broke off, it is *degraded*: it finds nothing, and remembers the first cause.
Only a name that can be no symbol at all is an error to the caller, and that
does not depend on the state.
-/

namespace Linkage

/-- What came of setting up the lookup. -/
inductive LookupState
  | ready (lookup : ReadyLookup)
  | degraded (cause : InitError)

/-- Where a state takes its symbols from. -/
def LookupState.source : LookupState → Source
  | .ready lookup => lookup.source
  | .degraded _ => .silent

/-- The lookup of C runtime symbols on a platform. -/
structure SystemLookup where
  platform : Platform
  state : LookupState

namespace SystemLookup

/-- The state after an attempt, and the milestone that says so. -/
def conclude (platform : Platform) : Except Halt ReadyLookup → LookupState × Milestone
  | .ok lookup => (.ready lookup, .ready platform lookup.runtime lookup.primary.path)
  | .error halt => (.degraded halt.cause, .degraded platform halt.cause)

/-- Sets up a lookup; what was done on the way is reported with it. -/
def establish (platform : Platform) (config : Config) (loader : Loader) :
    SystemLookup × List Action :=
  let attempt := Setup.build platform config loader
  let (state, verdict) := conclude platform attempt.outcome
  (⟨platform, state⟩,
    .reported (.started platform) :: attempt.actions ++ [.reported verdict])

/-- A lookup that never finds anything. -/
def degraded (platform : Platform) (cause : InitError) : SystemLookup :=
  ⟨platform, .degraded cause⟩

/-- The lookup finds nothing. -/
def isDegraded (l : SystemLookup) : Bool :=
  match l.state with
  | .ready _ => false
  | .degraded _ => true

/-- The symbol of a name and where it came from, if the C runtime has it. -/
def resolve (l : SystemLookup) (name : String) : Except NameError (Option Resolution) :=
  (SymbolName.ofString name).map fun n => l.state.source.resolve n

/-- The symbol of a name, if the C runtime has it. -/
def find (l : SystemLookup) (name : String) : Except NameError (Option Symbol) :=
  (SymbolName.ofString name).map fun n => l.state.source.find n

end SystemLookup

end Linkage
