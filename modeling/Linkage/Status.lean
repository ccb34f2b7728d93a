import Linkage.Json.Basic
import Linkage.SystemLookup

/-!
# Status of a lookup

A status tells which libraries a lookup uses, or why it finds nothing. It is an
object of JSON whose members are left out where they have no value. A path that
is no text has no place in JSON, and then there is no object.
-/

namespace Linkage

/-- What a lookup stands on. -/
structure Status where
  platform : Platform
  ready : Bool
  runtime : Option RuntimeLibrary := none
  primaryLibrary : Option Path := none
  helperLibrary : Option Path := none
  fallbackSlots : Option Nat := none
  degradedCause : Option String := none
  deriving DecidableEq

/-- The status of a lookup. -/
def SystemLookup.status (l : SystemLookup) : Status :=
  match l.state with
  | .ready lookup =>
    { platform := l.platform
      ready := true
      runtime := some lookup.runtime
      primaryLibrary := some lookup.primary.path
      helperLibrary := lookup.fallback?.map (·.helper.path)
      fallbackSlots := lookup.fallback?.map (·.table.size) }
  | .degraded cause =>
    { platform := l.platform, ready := false, degradedCause := some cause.message }

/-- Why something cannot be written as JSON. -/
inductive JsonRefusal
  /-- A path is no text. -/
  | pathNotText
  deriving DecidableEq

/-- The wording of a refusal. -/
def JsonRefusal.message : JsonRefusal → String
  | .pathNotText => "path contains invalid UTF-8 characters"

namespace Path

/-- A path as a JSON string. -/
def toJson (p : Path) : Except JsonRefusal Json :=
  match p.text? with
  | some s => .ok (.str s)
  | none => .error .pathNotText

/-- A path that may be missing as a JSON string that may be missing. -/
def optionalToJson : Option Path → Except JsonRefusal (Option Json)
  | none => .ok none
  | some p => p.toJson.map some

end Path

namespace Status

/-- The members of a status, in their fixed order. -/
def members (s : Status) : Except JsonRefusal (List (String × Json)) := do
  let primary ← Path.optionalToJson s.primaryLibrary
  let helper ← Path.optionalToJson s.helperLibrary
  return [("platform", .str s.platform.name), ("ready", .bool s.ready)] ++
    Json.optional "runtime" (s.runtime.map fun r => .str r.name) ++
    Json.optional "primary_library" primary ++
    Json.optional "helper_library" helper ++
    Json.optional "fallback_slots" (s.fallbackSlots.map fun n => .int n) ++
    Json.optional "degraded_cause" (s.degradedCause.map .str)

/-- The status as a JSON object. -/
def toJson (s : Status) : Except JsonRefusal Json := s.members.map .obj

end Status

end Linkage
