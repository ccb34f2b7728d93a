import Linkage.FallbackLookup
import Linkage.Loader

/-!
# Symbol sources

Whatever turns names into symbols: a library, a helper's array, nothing at all,
or two sources one behind the other. Of two sources the first one that has a
name decides, origin included.
-/

namespace Linkage

/-- Something that turns names into symbols. -/
inductive Source
  /-- What a library exports. -/
  | library (library : OpenLibrary)
  /-- What a helper's array holds. -/
  | fallback (lookup : FallbackLookup)
  /-- Nothing. -/
  | silent
  /-- The first source, and the second one for the names it lacks. -/
  | composite (first second : Source)

namespace Source

/-- The symbol of a name, and where it came from. -/
def resolve (name : SymbolName) : Source → Option Resolution
  | .library l => l.resolve name
  | .fallback l => l.resolve name
  | .silent => none
  | .composite first second => (first.resolve name).or (second.resolve name)

/-- The symbol of a name. -/
def find (name : SymbolName) (s : Source) : Option Symbol := (s.resolve name).map (·.symbol)

/-- The sources that are not composed, from the first to the last. -/
def leaves : Source → List Source
  | .composite first second => first.leaves ++ second.leaves
  | s => [s]

end Source

end Linkage
