import Linkage.Config
import Linkage.Log.Emitter

/-!
# The log of a process

A process has one sink: an emitter, or none, and the least level that passes.
The first configuration decides what the sink is; later ones change nothing.
Only replacing the sink does.

A target that cannot be opened makes a sink that writes nothing, and a line that
is refused is lost. Nobody who logs is told of either.
-/

namespace Linkage.Log

/-- Where the log lines of a process go, and from which level on. -/
structure Sink where
  emitter? : Option Emitter := none
  level : Level := .info
  deriving DecidableEq

namespace Sink

/-- The sink that a configuration asks for. -/
def ofConfig (config : Config) (run : String) (o : Outputs) : Sink × Outputs :=
  match Emitter.ofTarget config.logTarget run o with
  | .ok (emitter?, o) => ({ emitter?, level := config.logLevel }, o)
  | .error _ => ({ emitter? := none, level := config.logLevel }, o)

/-- Writes an entry if its level passes. -/
def emit (s : Sink) (entry : Entry) (o : Outputs) : Sink × Outputs :=
  if s.level.passes entry.level then
    match s.emitter? with
    | none => (s, o)
    | some e =>
      let (e, o, _) := e.emit entry o
      ({ s with emitter? := some e }, o)
  else (s, o)

end Sink

/-- The sink of a process, once there is one, and the outputs. -/
structure ProcessLog where
  sink? : Option Sink := none
  outputs : Outputs := {}

namespace ProcessLog

/-- Sets the sink up as a configuration asks, unless there is one. -/
def configure (l : ProcessLog) (run : String) (config : Config) : ProcessLog :=
  match l.sink? with
  | some _ => l
  | none =>
    let (sink, outputs) := Sink.ofConfig config run l.outputs
    { sink? := some sink, outputs }

/-- Puts another sink in place. -/
def install (l : ProcessLog) (sink : Sink) : ProcessLog := { l with sink? := some sink }

/-- Writes an entry to the sink, if there is one. -/
def emit (l : ProcessLog) (entry : Entry) : ProcessLog :=
  match l.sink? with
  | none => l
  | some sink =>
    let (sink, outputs) := sink.emit entry l.outputs
    { sink? := some sink, outputs }

end ProcessLog

end Linkage.Log
