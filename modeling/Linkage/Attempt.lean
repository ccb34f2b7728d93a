import Linkage.Loader
import Linkage.Milestone

/-!
# Attempts

An attempt is a piece of work on the way to a lookup: what it did, in order, and
what came of it. It asks a loader, reports milestones, and stops at the first
fault or crash; what it did up to there stays on record.
-/

namespace Linkage

/-- One thing that an attempt did. -/
inductive Action
  /-- It asked whether a library file exists. -/
  | checked (path : Path)
  /-- It asked for a library to be loaded. -/
  | loaded (path : Path)
  /-- It reported a milestone. -/
  | reported (milestone : Milestone)
  deriving DecidableEq

/-- The path of a load. -/
def Action.load? : Action → Option Path
  | .loaded path => some path
  | _ => none

/-- The milestone of a report. -/
def Action.milestone? : Action → Option Milestone
  | .reported m => some m
  | _ => none

/-- A piece of work: its actions in order, and its result or why it stopped. -/
structure Attempt (α : Type) where
  actions : List Action
  outcome : Except Halt α

namespace Attempt

variable {α β : Type}

/-- The work that does nothing. -/
def done (a : α) : Attempt α := ⟨[], .ok a⟩

/-- Work after work; nothing more is done once it stopped. -/
def andThen (x : Attempt α) (f : α → Attempt β) : Attempt β :=
  match x.outcome with
  | .error halt => ⟨x.actions, .error halt⟩
  | .ok a => ⟨x.actions ++ (f a).actions, (f a).outcome⟩

instance : Monad Attempt where
  pure := done
  bind := andThen

/-- Goes on with a value, or stops at a fault. -/
def require (x : Except InitError α) : Attempt α := ⟨[], x.mapError .failed⟩

/-- Asks whether a library file exists. -/
def check (loader : Loader) (path : Path) : Attempt Bool :=
  ⟨[.checked path], (loader.fileExists path).mapError .crashed⟩

/-- Loads the library at a path. -/
def load (loader : Loader) (path : Path) : Attempt OpenLibrary :=
  ⟨[.loaded path], (loader.load path).map (⟨·, path⟩)⟩

/-- Reports a milestone. -/
def report (m : Milestone) : Attempt Unit := ⟨[.reported m], .ok ()⟩

/-- The paths that were loaded or tried, in order. -/
def loads (x : Attempt α) : List Path := x.actions.filterMap Action.load?

/-- The milestones that were reported, in order. -/
def milestones (x : Attempt α) : List Milestone := x.actions.filterMap Action.milestone?

end Attempt

end Linkage
