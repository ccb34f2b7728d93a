import Linkage.InitError
import Linkage.Layout
import Linkage.Log.Level
import Linkage.Log.Target

/-!
# Configuration

Five variables configure the lookup. Three of them are paths, taken octet for
octet, and an empty one counts as unset. The other two are words for people, and
octets that are no text do no harm in them.
-/

namespace Linkage

/-- The variables of a process. -/
abbrev Variables := String → Option Bytes

/-- What the lookup is set up from. -/
structure Config where
  /-- The root of a Windows system. -/
  systemRoot : Option Path := none
  /-- The root of the installation. -/
  installRoot : Option Path := none
  /-- The directory of the helper library, if it is not the one of the installation. -/
  libraryDir : Option Path := none
  logTarget : Log.Target := .off
  logLevel : Log.Level := .info
  deriving DecidableEq, Inhabited

namespace Config

/-- The variable that holds the system root. -/
def systemRootVariable : String := "SystemRoot"

/-- The variable that holds the installation root. -/
def installRootVariable : String := "SYSLOOKUP_HOME"

/-- The variable that holds the helper's directory. -/
def libraryDirVariable : String := "SYSLOOKUP_LIBRARY_DIR"

/-- The variable that holds the log target. -/
def logTargetVariable : String := "SYSLOOKUP_LOG"

/-- The variable that holds the log level. -/
def logLevelVariable : String := "SYSLOOKUP_LOG_LEVEL"

/-- The variables that a configuration is made from. -/
def variableNames : List String :=
  [systemRootVariable, installRootVariable, libraryDirVariable, logTargetVariable,
   logLevelVariable]

/-- The path in a variable, unless it is unset or empty. -/
def pathIn (vars : Variables) (name : String) : Option Path :=
  ((vars name).filter (· ≠ [])).map Path.mk

/-- The configuration that some variables ask for. -/
def ofVariables (vars : Variables) : Config where
  systemRoot := pathIn vars systemRootVariable
  installRoot := pathIn vars installRootVariable
  libraryDir := pathIn vars libraryDirVariable
  logTarget := ((vars logTargetVariable).map fun v => .ofText (Utf8.lossy v)).getD .off
  logLevel := ((vars logLevelVariable).map fun v => .ofText (Utf8.lossy v)).getD .info

/-- The configuration of a process, whose installation is its executable's one by default. -/
def ofProcess (vars : Variables) (defaultRoot : Option Path) : Config :=
  let config := ofVariables vars
  { config with installRoot := config.installRoot <|> defaultRoot }

/-- The configuration with another system root. -/
def withSystemRoot (c : Config) (root : Path) : Config := { c with systemRoot := some root }

/-- The configuration with another installation root. -/
def withInstallRoot (c : Config) (root : Path) : Config := { c with installRoot := some root }

/-- The configuration with another directory of the helper library. -/
def withLibraryDir (c : Config) (dir : Path) : Config := { c with libraryDir := some dir }

/-- The system root, which must be configured. -/
def requireSystemRoot (c : Config) : Except InitError Path :=
  match c.systemRoot with
  | some root => .ok root
  | none => .error .systemRootUnset

/-- The directory of the helper library: the configured one, or else the installation's. -/
def helperDir (c : Config) (platform : Platform) : Except InitError Path :=
  match c.libraryDir, c.installRoot with
  | some dir, _ => .ok dir
  | none, some root => .ok (Layout.libraryDir platform root)
  | none, none => .error .libraryDirUnknown

/-- The path of the helper library. -/
def helperPath (c : Config) (platform : Platform) : Except InitError Path :=
  (c.helperDir platform).map (Layout.helperLibrary platform)

end Config

end Linkage
