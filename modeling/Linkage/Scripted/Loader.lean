import Linkage.Attempt
import Linkage.FileSystem
import Linkage.Scripted.Library

/-!
# Scripted loaders

A scripted loader serves scripted libraries by path, whatever the spelling of
the path, and keeps a record of the loads it was asked for. A script can put
mishaps in front of it: a call that meets one never reaches the loader, and so
leaves no record.
-/

namespace Linkage

/-- A loader of scripted libraries, the latest first. -/
structure ScriptedLoader where
  libraries : List (Path × ScriptedLibrary) := []

namespace ScriptedLoader

/-- The loader with one more library. -/
def serving (l : ScriptedLoader) (path : Path) (library : ScriptedLibrary) : ScriptedLoader :=
  { l with libraries := (path, library) :: l.libraries }

/-- The library at a path. -/
def library? (l : ScriptedLoader) (path : Path) : Option ScriptedLibrary :=
  (l.libraries.find? fun entry => decide (entry.1.SameFile path)).map (·.2)

/-- The scripted loader as a loader. -/
def toLoader (l : ScriptedLoader) : Loader where
  fileExists path := .ok (l.library? path).isSome
  load path :=
    match l.library? path with
    | some library => .ok library.toLibrary
    | none => .error (.failed (.load path "not scripted"))

end ScriptedLoader

namespace Scripted

/-- What a mishap befalls. -/
inductive Occasion
  | check
  | load
  deriving DecidableEq

/-- How a call goes wrong: it is refused for a reason, or it breaks off. -/
inductive Mishap
  | refusal (reason : String)
  | breakdown (crash : Crash)

/-- A mishap for the calls on an occasion, at one path or at every path. -/
structure Rule where
  occasion : Occasion
  path? : Option Path
  mishap : Mishap

/-- The rule applies to a call. -/
def Rule.applies (r : Rule) (occasion : Occasion) (path : Path) : Bool :=
  r.occasion = occasion && r.path?.all fun p => decide (p.SameFile path)

end Scripted

/-- A scripted loader with mishaps in front of it. -/
structure Script where
  loader : ScriptedLoader := {}
  rules : List Scripted.Rule := []
  /-- Whether a file exists is asked of the file system. -/
  checksFiles : Bool := false

namespace Script

/-- The mishap that a call meets: the one of the first rule that applies. -/
def mishap? (s : Script) (occasion : Scripted.Occasion) (path : Path) : Option Scripted.Mishap :=
  (s.rules.find? (·.applies occasion path)).map (·.mishap)

/-- The script as a loader that sees a file system. -/
def toLoader (s : Script) (fs : FileSystem) : Loader where
  fileExists path :=
    match s.mishap? .check path with
    | some (.refusal _) => .ok false
    | some (.breakdown crash) => .error crash
    | none => if s.checksFiles then .ok (fs.isFile path) else s.loader.toLoader.fileExists path
  load path :=
    match s.mishap? .load path with
    | some (.refusal reason) => .error (.failed (.load path reason))
    | some (.breakdown crash) => .error (.crashed crash)
    | none => s.loader.toLoader.load path

/-- The loads that reach the scripted loader, of those that some actions asked for. -/
def record (s : Script) (actions : List Action) : List Path :=
  (actions.filterMap Action.load?).filter fun path => (s.mishap? .load path).isNone

end Script

end Linkage
