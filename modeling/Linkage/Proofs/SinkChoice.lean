import Linkage.Proofs.LostLines

/-!
# The first configuration wins

A process does three things with its log: it sets the log up from a
configuration, it puts another sink in place, and it logs entries. Whichever it
does first makes the sink, and only the first one can bring a configuration of
its own; the others find the sink that there is.

From then on the sink changes in two ways. It is replaced, or its emitter takes
numbers, one for each entry that passes and has no identifier.
-/

namespace Linkage

namespace Log

/-! ## What a process does with its log -/

/-- A thing that a process does with its log. -/
inductive Operation
  | init (config : Config)
  | install (sink : Sink)
  | emit (entry : Entry)

/-- The operation takes a number from an emitter behind a filter. -/
def Operation.numbers (filter : Level) : Operation → Bool
  | .emit entry => filter.numbers entry
  | _ => false

namespace Sink

/-- The sink after its emitter has taken a number of further identifiers. -/
def past (s : Sink) (count : Nat) : Sink := { s with emitter? := s.emitter?.map (·.past count) }

/-- What an operation makes of the sink that it finds. -/
def after (s : Sink) : Operation → Sink
  | .init _ => s
  | .install new => new
  | .emit entry => s.past (if s.level.numbers entry then 1 else 0)

variable (s : Sink)

@[simp] theorem past_zero : s.past 0 = s := by
  obtain ⟨emitter?, level⟩ := s
  cases emitter? with
  | none => rfl
  | some e => rfl

theorem past_past (m n : Nat) : (s.past m).past n = s.past (m + n) := by
  obtain ⟨emitter?, level⟩ := s
  cases emitter? with
  | none => rfl
  | some e => simp [past, Emitter.past_past]

end Sink

end Log

namespace Session

open Log (Operation Sink Entry Level)

/-- Does one thing with the log. -/
def perform (s : Session) : Operation → Session
  | .init config => s.configureLog config
  | .install sink => s.install sink
  | .emit entry => s.emit entry

/-- Does several things with the log, one after the other. -/
def performAll (s : Session) (ops : List Operation) : Session := ops.foldl perform s

variable {s : Session} {sink : Sink}

/-! ## A log that has a sink -/

/-- The session as the first of some operations finds it: the log is set up. -/
def prepare (s : Session) : List Operation → Session
  | .init config :: _ => s.configureLog config
  | _ => s.withLog

end Session

end Linkage
