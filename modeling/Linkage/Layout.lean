import Linkage.Path
import Linkage.Platform

/-!
# Where an installation keeps its files

An installation is rooted at a directory. Executables stand in `bin`, and the
helper library stands in the library directory: `bin` on Windows, next to the
executables, and `lib` elsewhere. The Windows runtimes stand in `System32` under
the system's own root.
-/

namespace Linkage.Layout

/-- The logical name of the helper library. -/
def helperName : String := "syslookup"

/-- The file of the universal C runtime. -/
def universalRuntime : String := "ucrtbase.dll"

/-- The file of the legacy C runtime. -/
def legacyRuntime : String := "msvcrt.dll"

/-- The file name of a library with a given logical name. -/
def libraryFile (platform : Platform) (name : String) : String :=
  match platform with
  | .windows => name ++ ".dll"
  | .posix => "lib" ++ name ++ ".so"

/-- The subdirectory of an installation that holds its libraries. -/
def librarySubdir : Platform → String
  | .windows => "bin"
  | .posix => "lib"

/-- The library directory of the installation at a root. -/
def libraryDir (platform : Platform) (root : Path) : Path := root.child (librarySubdir platform)

/-- The path of the helper library in a directory. -/
def helperLibrary (platform : Platform) (dir : Path) : Path :=
  dir.child (libraryFile platform helperName)

/-- The directory of the runtimes under a system root. -/
def system32 (systemRoot : Path) : Path := systemRoot.child "System32"

/-- The root of the installation that an executable belongs to, two levels above it. -/
def installRoot? (executable : Path) : Option Path := executable.parent? >>= Path.parent?

end Linkage.Layout
