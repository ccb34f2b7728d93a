import Linkage.InitError
import Linkage.Platform
import Linkage.RuntimeLibrary

/-!
# Milestones

What setting up the lookup has to tell, step by step. A milestone carries what
its log entry shows.
-/

namespace Linkage

/-- Something that setting up the lookup reached. -/
inductive Milestone
  /-- It began. -/
  | started (platform : Platform)
  /-- The primary runtime library was loaded. -/
  | primaryLoaded (platform : Platform) (runtime : RuntimeLibrary) (library : Path)
  /-- The helper's pointer array was accepted. -/
  | fallbackLoaded (platform : Platform) (runtime : RuntimeLibrary) (library : Path) (slots : Nat)
  /-- The lookup is ready. -/
  | ready (platform : Platform) (runtime : RuntimeLibrary) (library : Path)
  /-- The lookup will find nothing. -/
  | degraded (platform : Platform) (cause : InitError)
  deriving DecidableEq

end Linkage
