import Linkage.Json.Printer
import Linkage.Log.Level
import Linkage.Milestone
import Linkage.Timestamp

/-!
# Log entries

An entry is one line of JSON: four members that every entry has, and five that
are left out where they have no value. A member `details` that is null has a
value, and is written.
-/

namespace Linkage.Log

/-- A log entry. -/
structure Entry where
  timestamp : String
  /-- Identifies the entry; empty until an emitter or a caller has chosen it. -/
  traceId : String
  level : Level
  event : String
  platform : Option String := none
  runtime : Option String := none
  library : Option String := none
  error : Option String := none
  details : Option Json := none

namespace Entry

/-- An entry made at an instant, with the members that every entry has. -/
def new (at_ : Instant) (level : Level) (event : String) : Entry :=
  { timestamp := at_.text, traceId := "", level := level, event := event }

/-- The entry as a JSON object, its members in their fixed order. -/
def toJson (e : Entry) : Json :=
  .obj <|
    [("timestamp", .str e.timestamp), ("trace_id", .str e.traceId), ("level", .str e.level.name),
      ("event", .str e.event)] ++
    Json.optional "platform" (e.platform.map .str) ++
    Json.optional "runtime" (e.runtime.map .str) ++
    Json.optional "library" (e.library.map .str) ++
    Json.optional "error" (e.error.map .str) ++
    Json.optional "details" e.details

/-- The entry as a line, without the line break. -/
def line (e : Entry) : String := e.toJson.compact

/-- The level of a milestone's entry. -/
def levelOf : Milestone → Level
  | .started _ | .ready _ _ _ => .info
  | .primaryLoaded _ _ _ | .fallbackLoaded _ _ _ _ => .debug
  | .degraded _ _ => .warn

/-- The event of a milestone's entry. -/
def eventOf : Milestone → String
  | .started _ => "init.start"
  | .primaryLoaded _ _ _ => "primary.loaded"
  | .fallbackLoaded _ _ _ _ => "fallback.loaded"
  | .ready _ _ _ => "init.ready"
  | .degraded _ _ => "init.degraded"

/-- The entry of a milestone reached at an instant. -/
def ofMilestone (at_ : Instant) (m : Milestone) : Entry :=
  let e := new at_ (levelOf m) (eventOf m)
  match m with
  | .started platform => { e with platform := some platform.name }
  | .primaryLoaded platform runtime library | .ready platform runtime library =>
    { e with
      platform := some platform.name
      runtime := some runtime.name
      library := some library.display }
  | .fallbackLoaded platform runtime library slots =>
    { e with
      platform := some platform.name
      runtime := some runtime.name
      library := some library.display
      details := some (.obj [("slots", .int slots)]) }
  | .degraded platform cause =>
    { e with platform := some platform.name, error := some cause.message }

end Entry

end Linkage.Log
