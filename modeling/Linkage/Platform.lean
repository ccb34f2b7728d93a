/-!
# Platforms

The two families of systems that differ in how the C runtime is found.
-/

namespace Linkage

/-- A family of systems. -/
inductive Platform
  /-- Systems where a library's own dependencies are searched with it. -/
  | posix
  /-- Systems where only the named module is searched. -/
  | windows
  deriving DecidableEq, Inhabited

namespace Platform

/-- The name of a family. -/
def name : Platform → String
  | .posix => "posix"
  | .windows => "windows"

/-- The family of the system with a given name: names that begin with `Windows` are one family. -/
def classify (systemName : String) : Platform :=
  if "Windows".toList.isPrefixOf systemName.toList then .windows else .posix

/-- The name of the system this library runs on. -/
def hostName : String := "Linux"

/-- The family of the system this library runs on. -/
def host : Platform := classify hostName

end Platform

end Linkage
