import Linkage.Attempt
import Linkage.Config
import Linkage.Source

/-!
# Setting up the lookup

The primary runtime library is selected, then loaded. On POSIX it is the helper
library itself, since its dependencies are searched with it. On Windows it is
the universal runtime if its file exists, and the legacy one otherwise. Behind
the universal runtime stands the helper's pointer array.
-/

namespace Linkage

/-- A lookup that works. -/
inductive ReadyLookup
  /-- The runtime's own exports cover everything. -/
  | direct (runtime : RuntimeLibrary) (primary : OpenLibrary)
  /-- The runtime's exports first, the helper's array behind them. -/
  | withFallback (runtime : RuntimeLibrary) (primary : OpenLibrary) (fallback : FallbackLookup)

namespace ReadyLookup

/-- The runtime that answers first. -/
def runtime : ReadyLookup → RuntimeLibrary
  | .direct runtime _ => runtime
  | .withFallback runtime _ _ => runtime

/-- The library that answers first. -/
def primary : ReadyLookup → OpenLibrary
  | .direct _ primary => primary
  | .withFallback _ primary _ => primary

/-- The helper's array, if there is one behind the runtime. -/
def fallback? : ReadyLookup → Option FallbackLookup
  | .direct _ _ => none
  | .withFallback _ _ fallback => some fallback

/-- Where the lookup takes its symbols from. -/
def source : ReadyLookup → Source
  | .direct _ primary => .library primary
  | .withFallback _ primary fallback => .composite (.library primary) (.fallback fallback)

end ReadyLookup

namespace Setup

/-- Selects the primary runtime and the path of its library, without loading it. -/
def selectRuntime (platform : Platform) (config : Config) (loader : Loader) :
    Attempt (RuntimeLibrary × Path) :=
  match platform with
  | .posix => do return (.side, ← Attempt.require (config.helperPath platform))
  | .windows => do
    let system32 := Layout.system32 (← Attempt.require config.requireSystemRoot)
    let universal := system32.child Layout.universalRuntime
    if ← Attempt.check loader universal then return (.universal, universal)
    else return (.legacy, system32.child Layout.legacyRuntime)

/-- Selects the primary runtime and loads its library. -/
def openPrimary (platform : Platform) (config : Config) (loader : Loader) :
    Attempt (RuntimeLibrary × OpenLibrary) := do
  let (runtime, path) ← selectRuntime platform config loader
  return (runtime, ← Attempt.load loader path)

/-- Loads a helper library and reads its pointer array. -/
def openFallback (loader : Loader) (path : Path) (table : FallbackTable) :
    Attempt FallbackLookup := do
  Attempt.require (FallbackLookup.ofHelper (← Attempt.load loader path) table)

/-- Sets up the lookup. -/
def build (platform : Platform) (config : Config) (loader : Loader) : Attempt ReadyLookup := do
  let (runtime, primary) ← openPrimary platform config loader
  Attempt.report (.primaryLoaded platform runtime primary.path)
  if runtime.needsFallback then
    let path ← Attempt.require (config.helperPath platform)
    let fallback ← openFallback loader path .universal
    Attempt.report
      (.fallbackLoaded platform runtime fallback.helper.path fallback.table.size)
    return .withFallback runtime primary fallback
  else
    return .direct runtime primary

end Setup

end Linkage
