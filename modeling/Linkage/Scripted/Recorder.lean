import Linkage.Scripted.Loader

/-!
# Scripts at work

A script is asked one thing after another, and keeps a record of the loads that
reach its loader: the paths in the order of the calls, as they were spelled,
whether there was a library or not. A call that meets a mishap does not reach the
loader, and asking whether a file exists loads nothing.
-/

namespace Linkage.Scripted

/-- A call to a loader. -/
inductive Call
  | check (path : Path)
  | load (path : Path)
  deriving DecidableEq

/-- What a call comes back with. -/
inductive Reply
  | checked (outcome : Except Crash Bool)
  | loaded (outcome : Except Halt Library)

/-- A script, and the loads on its record. -/
structure Recorder where
  script : Script
  loads : List Path := []

namespace Recorder

/-- Puts a load on the record, if it reaches the loader. -/
def note (r : Recorder) (path : Path) : Recorder :=
  if (r.script.mishap? .load path).isNone then { r with loads := r.loads ++ [path] } else r

/-- Answers a call. -/
def answer (r : Recorder) (fs : FileSystem) : Call → Reply × Recorder
  | .check path => (.checked ((r.script.toLoader fs).fileExists path), r)
  | .load path => (.loaded ((r.script.toLoader fs).load path), r.note path)

/-- Answers calls one after the other. -/
def answers (r : Recorder) (fs : FileSystem) : List Call → List Reply × Recorder
  | [] => ([], r)
  | call :: rest =>
    let (reply, r) := r.answer fs call
    let (replies, r) := r.answers fs rest
    (reply :: replies, r)

end Recorder

end Linkage.Scripted
