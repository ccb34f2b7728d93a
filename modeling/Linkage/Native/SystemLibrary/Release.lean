/-!
# Releases of a library

A library of the system has versions, and every name that it exports came with one
of them. A name that changed its meaning is there in several versions. Who asks
without a version gets the one that is *current*, and the *former* ones are for
those who know their version.
-/

namespace Linkage.Native

/-- A version of a library, and the names that came with it. -/
structure Release where
  version : String
  /-- The names that mean this version to everybody. -/
  current : List String := []
  /-- The names that mean this version to those who ask for it. -/
  former : List String := []

namespace SystemLibrary

/-- The words of some lines. -/
def words (lines : List String) : List String := lines.flatMap (·.splitOn " ")

end SystemLibrary

end Linkage.Native
