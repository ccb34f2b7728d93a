import Linkage.Path

/-!
# What keeps a library from being loaded

A library can be refused, and then there is a reason for it. Or something in it is
so wrong that the process does not live through an attempt to use it. Or a routine
of it asks for the end of the process.
-/

namespace Linkage.Native

/-- How a process comes to an untimely end. -/
inductive Ending
  /-- The system kills it. -/
  | killed
  /-- It gives up, and says why. -/
  | aborted (words : String)
  /-- It ends itself with a code. -/
  | exited (code : Nat)
  deriving DecidableEq

/-- What keeps a library from being loaded or asked. -/
inductive Problem
  /-- It is refused for a reason. -/
  | refused (reason : String)
  /-- The process ends. -/
  | fatal (ending : Ending)
  /-- The process is to end with a code, once the routines for its end have run. -/
  | leaving (code : Nat)
  deriving DecidableEq

/-- What the system says of a library that it cannot load. -/
def complaint (path : Path) (problem : String) : String := path.display ++ ": " ++ problem

/-- A problem of a library that stands at a path. -/
def Problem.about (path : Path) : Problem → Problem
  | .refused reason => .refused (complaint path reason)
  | problem => problem

/-- The exit code of a process that gives up. -/
def Ending.abortCode : Nat := 127

section

variable {m : Type → Type} [MonadExcept Problem m] {α : Type}

/-- A library is refused for a reason. -/
def refuse (reason : String) : m α := throw (.refused reason)

/-- A library that stands at a path is refused. -/
def refuseAt (path : Path) (problem : String) : m α := refuse (complaint path problem)

/-- The process touches memory that it has no right to. -/
def violation : m α := throw (.fatal .killed)

/-- What the loader of the system says when it finds itself in a state that cannot be. -/
def inconsistency (place claim : String) : m α :=
  throw (.fatal (.aborted
    ("Inconsistency detected by ld.so: " ++ place ++ ": Assertion `" ++ claim ++ "' failed!")))

end

end Linkage.Native
