import Linkage.InitError
import Linkage.Library

/-!
# Loaders

A loader says whether a library file exists and loads one. Besides failing, a
call can *crash*: it breaks off in the middle and leaves a message, or something
that is no message. Whoever sets up the lookup has to live with all of this.
-/

namespace Linkage

/-- What a call that broke off leaves behind: a message, if it is one. -/
structure Crash where
  text? : Option String
  deriving DecidableEq

/-- The message of a crash. -/
def Crash.message (c : Crash) : String := c.text?.getD "non-string panic payload"

/-- Why a piece of work stopped. -/
inductive Halt
  /-- It met a fault. -/
  | failed (cause : InitError)
  /-- It broke off. -/
  | crashed (crash : Crash)
  deriving DecidableEq

/-- The cause to remember for a piece of work that stopped. -/
def Halt.cause : Halt → InitError
  | .failed cause => cause
  | .crashed crash => .panicked crash.message

/-- A loader of libraries. -/
structure Loader where
  /-- Whether a library file stands at a path. -/
  fileExists : Path → Except Crash Bool
  /-- Loads the library at a path. -/
  load : Path → Except Halt Library

end Linkage
