import Linkage.Path
import Linkage.Text.Blank

/-!
# Log targets

Where log lines go is one setting: a keyword, or else the path of a file.
-/

namespace Linkage.Log

/-- Where log lines go. -/
inductive Target
  | off
  | stderr
  | stdout
  | file (path : Path)
  deriving DecidableEq, Inhabited

namespace Target

/-- The target that a keyword names; letter case does not matter. -/
def keyword? (s : String) : Option Target :=
  let word := Text.lower s
  if word ∈ ["", "off", "none", "0", "false"] then some .off
  else if word ∈ ["stderr", "1", "true"] then some .stderr
  else if word = "stdout" then some .stdout
  else none

/-- The target that a user means, blanks around it left out; what is no keyword is a path. -/
def ofText (s : String) : Target :=
  let word := Text.trim s
  (keyword? word).getD (.file (Path.ofString word))

end Target

end Linkage.Log
