import Linkage.Session

/-!
# The set-up as a session sees it

A session adds the log to the set-up: it makes the sink first, logs the
milestones on the way, and passes on what came of it. The lookup itself depends
on the session in one point only, the files that the loader sees. The log in turn
depends on the set-up only through the milestones.
-/

namespace Linkage.Session

/-- The files that the loader of a set-up sees: the sink is made, and the beginning is logged. -/
def filesSeen (s : Session) (platform : Platform) (config : Config) : FileSystem :=
  ((s.configureLog config).report (.started platform)).files

/-- A sink stays when an entry is logged. -/
theorem sink_isSome_emit {log : Log.ProcessLog} (h : log.sink?.isSome) (entry : Log.Entry) :
    (log.emit entry).sink?.isSome := by
  obtain ⟨sink, hsink⟩ := Option.isSome_iff_exists.mp h
  simp [Log.ProcessLog.emit, hsink]

/-- Where there is a sink, an entry changes nothing but the log. -/
theorem emit_of_sink {s : Session} (h : s.log.sink?.isSome) (entry : Log.Entry) :
    s.emit entry = { s with log := s.log.emit entry } := by
  obtain ⟨sink, hsink⟩ := Option.isSome_iff_exists.mp h
  simp [emit, withLog, hsink]

theorem log_foldl_emit {s : Session} (h : s.log.sink?.isSome) (entries : List Log.Entry) :
    (entries.foldl emit s).log = entries.foldl Log.ProcessLog.emit s.log := by
  induction entries generalizing s with
  | nil => rfl
  | cons entry rest ih =>
      rw [List.foldl_cons, emit_of_sink h, ih (sink_isSome_emit h entry)]
      rfl

/-- Where there is a log, milestones are entries of it at the time of the clock. -/
theorem log_foldl_report {milestones : List Milestone} {s : Session}
    (h : s.log.sink?.isSome) :
    (milestones.foldl report s).log =
      (milestones.map (Log.Entry.ofMilestone s.clock)).foldl Log.ProcessLog.emit s.log := by
  induction milestones generalizing s with
  | nil => rfl
  | cons m rest ih =>
      have hreport : s.report m = { s with log := s.log.emit (.ofMilestone s.clock m) } :=
        emit_of_sink h _
      rw [List.foldl_cons, hreport, ih (sink_isSome_emit h _)]
      rfl

/-- Once it is configured, a log has a sink. -/
theorem sink_isSome_configureLog (s : Session) (config : Config) :
    (s.configureLog config).log.sink?.isSome := by
  unfold configureLog Log.ProcessLog.configure
  cases hs : s.log.sink? with
  | none => rfl
  | some sink => simp [hs]

/-- The log of a set-up has the entries of its milestones, one after the other. -/
theorem log_establish (s : Session) (platform : Platform) (config : Config)
    (loaderOf : FileSystem → Loader) :
    (s.establish platform config loaderOf).2.2.log =
      (((s.establish platform config loaderOf).2.1.filterMap Action.milestone?).map
        (Log.Entry.ofMilestone s.clock)).foldl Log.ProcessLog.emit (s.configureLog config).log :=
  log_foldl_report (s.sink_isSome_configureLog config)

end Linkage.Session
