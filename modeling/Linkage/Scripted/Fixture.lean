import Linkage.Scripted.Image
import Linkage.Scripted.Loader
import Linkage.SystemLookup

/-!
# A lookup to measure

A complete lookup over scripted libraries: a Windows system whose universal
runtime exports five functions, and an installation whose helper has them all.
-/

namespace Linkage.Scripted.Fixture

/-- The system root. -/
def systemRoot : Path := .ofString "C:/Windows"

/-- The installation root. -/
def installRoot : Path := .ofString "/opt/app"

/-- The configuration. -/
def config : Config := (Config.withSystemRoot {} systemRoot).withInstallRoot installRoot

/-- The functions that the runtime exports. -/
def runtimeNames : List String := ["strlen", "malloc", "free", "memcpy", "fopen"]

/-- The address of the function at a position. -/
def runtimeAddress (i : Nat) : Word := 0x1000 + 0x10 * UInt64.ofNat i

/-- The runtime. -/
def runtime : ScriptedLibrary :=
  runtimeNames.zipIdx.foldl (fun l (name, i) => l.exporting name (runtimeAddress i)) {}

/-- Where the array of the helper stands. -/
def arrayAddress : Word := 0x60000000

/-- The loader. -/
def loader : ScriptedLoader :=
  (ScriptedLoader.serving {} ((Layout.system32 systemRoot).child Layout.universalRuntime)
      runtime).serving
    (Layout.helperLibrary .windows (Layout.libraryDir .windows installRoot))
    (ScriptedLibrary.helper arrayAddress (image none 0))

/-- Sets the lookup up; what was done on the way is reported with it. -/
def establish : SystemLookup × List Action :=
  SystemLookup.establish .windows config loader.toLoader

end Linkage.Scripted.Fixture
