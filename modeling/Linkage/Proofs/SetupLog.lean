import Linkage.Proofs.LogStream
import Linkage.Proofs.PointerArray
import Linkage.Proofs.Setup
import Linkage.Scripted.Fixture
import Linkage.Status

/-!
# The log of a set-up tells what the status tells

The milestones of a set-up are reported on both sides of the point where a crash
is caught, and the status is made later, from the state alone. Still the two tell
the same: given which library was opened, which array was accepted and what the
status says, the entries of the log can be written down one by one, and they are
the entries that were logged.

What was opened and accepted is read off the configuration and the loader, not
off the milestones.
-/

namespace Linkage

namespace Setup

/-! ## What was opened, and what was accepted -/

/-- The primary library, if it was opened. -/
def opened? (platform : Platform) (config : Config) (loader : Loader) :
    Option (RuntimeLibrary × OpenLibrary) :=
  match platform with
  | .posix => do
    let path ← config.helperFile? .posix
    let library ← (loader.load path).toOption
    return (.side, ⟨library, path⟩)
  | .windows => do
    let root ← config.systemRoot
    if ← (loader.fileExists (universalFile root)).toOption then
      let library ← (loader.load (universalFile root)).toOption
      return (.universal, ⟨library, universalFile root⟩)
    else
      let library ← (loader.load (legacyFile root)).toOption
      return (.legacy, ⟨library, legacyFile root⟩)

/-- The helper's array, if it can be had. -/
def helperArray? (config : Config) (loader : Loader) : Option FallbackLookup := do
  let path ← config.helperFile? .windows
  let helper ← (loader.load path).toOption
  (FallbackLookup.ofHelper ⟨helper, path⟩ .universal).toOption

/-- The helper's array behind the universal runtime, if it was accepted. -/
def accepted? (platform : Platform) (config : Config) (loader : Loader) :
    Option FallbackLookup := do
  let (runtime, _) ← opened? platform config loader
  if runtime = .universal then helperArray? config loader else none

variable {platform : Platform} {config : Config} {loader : Loader} {actions : List Action}

theorem Opening.opened?_eq {outcome : Except Halt (RuntimeLibrary × OpenLibrary)}
    (h : Opening config loader platform actions outcome) :
    opened? platform config loader = outcome.toOption := by
  unfold opened?
  cases h with
  | helperUnknown hpath => simp [hpath, Except.toOption]
  | sideRefused hpath hload => simp [hpath, hload, Except.toOption]
  | side hpath hload => simp [hpath, hload, Except.toOption]
  | rootUnset hroot => simp [hroot, Except.toOption]
  | checkBroken hroot hcheck => simp [hroot, hcheck, Except.toOption]
  | legacyRefused hroot hcheck hload => simp [hroot, hcheck, hload, Except.toOption]
  | legacy hroot hcheck hload => simp [hroot, hcheck, hload, Except.toOption]
  | universalRefused hroot hcheck hload => simp [hroot, hcheck, hload, Except.toOption]
  | universal hroot hcheck hload => simp [hroot, hcheck, hload, Except.toOption]

/-- Selecting and loading reports nothing. -/
theorem Opening.filterMap_milestone? {outcome : Except Halt (RuntimeLibrary × OpenLibrary)}
    (h : Opening config loader platform actions outcome) (rest : List Action) :
    (actions ++ rest).filterMap Action.milestone? = rest.filterMap Action.milestone? := by
  cases h <;> rfl

theorem Opening.accepted?_of_error {halt : Halt}
    (h : Opening config loader platform actions (.error halt)) :
    accepted? platform config loader = none := by
  rw [accepted?, h.opened?_eq]
  rfl

theorem Opening.accepted?_of_direct {runtime : RuntimeLibrary} {primary : OpenLibrary}
    (h : Opening config loader platform actions (.ok (runtime, primary)))
    (hruntime : runtime ≠ .universal) : accepted? platform config loader = none := by
  rw [accepted?, h.opened?_eq]
  exact if_neg hruntime

theorem Opening.accepted?_of_universal {primary : OpenLibrary}
    (h : Opening config loader platform actions (.ok (.universal, primary))) :
    accepted? platform config loader = helperArray? config loader := by
  rw [accepted?, h.opened?_eq]
  rfl

/-- The milestones between the beginning and the verdict. -/
def progress (platform : Platform) (opened : Option (RuntimeLibrary × OpenLibrary))
    (accepted : Option FallbackLookup) : List Milestone :=
  (opened.map fun (runtime, primary) => .primaryLoaded platform runtime primary.path).toList ++
    (accepted.map fun fallback =>
      .fallbackLoaded platform .universal fallback.helper.path fallback.table.size).toList

/-- Each of the two is reported when it was reached, and the first one first. -/
theorem Course.milestones {outcome : Except Halt ReadyLookup}
    (h : Course config loader platform actions outcome) :
    actions.filterMap Action.milestone? =
      progress platform (opened? platform config loader) (accepted? platform config loader) := by
  cases h with
  | unopened hopen =>
      rw [hopen.accepted?_of_error, hopen.opened?_eq, ← List.append_nil actions,
        hopen.filterMap_milestone?]
      rfl
  | direct hopen hruntime =>
      rw [hopen.accepted?_of_direct hruntime, hopen.opened?_eq, hopen.filterMap_milestone?]
      rfl
  | helperUnknown hopen hpath =>
      rw [hopen.accepted?_of_universal, hopen.opened?_eq, hopen.filterMap_milestone?, helperArray?,
        hpath]
      rfl
  | helperRefused hopen hpath hload =>
      rw [hopen.accepted?_of_universal, hopen.opened?_eq, hopen.filterMap_milestone?, helperArray?,
        hpath]
      simp [progress, Except.toOption, hload, Action.milestone?]
  | arrayRefused hopen hpath hload hread =>
      rw [hopen.accepted?_of_universal, hopen.opened?_eq, hopen.filterMap_milestone?, helperArray?,
        hpath]
      simp [progress, Except.toOption, hload, hread, Action.milestone?]
  | withFallback hopen hpath hload hread =>
      rw [hopen.accepted?_of_universal, hopen.opened?_eq, hopen.filterMap_milestone?, helperArray?,
        hpath]
      simp [progress, Except.toOption, hload, hread, List.filterMap_cons, Action.milestone?]

/-- A lookup that came of a set-up stands on what was opened and accepted. -/
theorem Course.ready {lookup : ReadyLookup}
    (h : Course config loader platform actions (.ok lookup)) :
    opened? platform config loader = some (lookup.runtime, lookup.primary) ∧
      accepted? platform config loader = lookup.fallback? := by
  cases h with
  | direct hopen hruntime =>
      rw [hopen.accepted?_of_direct hruntime, hopen.opened?_eq]
      exact ⟨rfl, rfl⟩
  | withFallback hopen hpath hload hread =>
      rw [hopen.accepted?_of_universal, hopen.opened?_eq, helperArray?, hpath]
      simp [Except.toOption, hload, hread, ReadyLookup.runtime, ReadyLookup.primary,
        ReadyLookup.fallback?]

end Setup

/-! ## What the log has to tell -/

open Log in
/--
The entries of a set-up: its beginning, what was opened and accepted, and at the
end what the status says.
-/
def SystemLookup.story (at_ : Instant) (opened : Option (RuntimeLibrary × OpenLibrary))
    (accepted : Option FallbackLookup) (status : Status) : List Entry :=
  let entry level event : Entry :=
    { Entry.new at_ level event with platform := some status.platform.name }
  [entry .info "init.start"] ++
  (opened.map fun (runtime, primary) =>
    { entry .debug "primary.loaded" with
      runtime := some runtime.name
      library := some primary.path.display }).toList ++
  (accepted.map fun fallback =>
    { entry .debug "fallback.loaded" with
      runtime := some RuntimeLibrary.universal.name
      library := some fallback.helper.path.display
      details := some (.obj [("slots", .int fallback.table.size)]) }).toList ++
  [if status.ready then
    { entry .info "init.ready" with
      runtime := status.runtime.map (·.name)
      library := status.primaryLibrary.map (·.display) }
  else
    { entry .warn "init.degraded" with error := status.degradedCause }]

namespace SystemLookup

/-- The status of a lookup tells what was opened and accepted, or why it is degraded. -/
structure Tells (l : SystemLookup) (opened : Option (RuntimeLibrary × OpenLibrary))
    (accepted : Option FallbackLookup) : Prop where
  ready_iff : l.status.ready = true ↔ l.isDegraded = false
  runtime : l.status.ready = true → l.status.runtime = opened.map (·.1)
  primaryLibrary : l.status.ready = true → l.status.primaryLibrary = opened.map (·.2.path)
  helperLibrary : l.status.ready = true → l.status.helperLibrary = accepted.map (·.helper.path)
  fallbackSlots : l.status.ready = true → l.status.fallbackSlots = accepted.map (·.table.size)
  cause : ∀ cause, l.state = .degraded cause → l.status.degradedCause = some cause.message

variable (platform : Platform) (config : Config) (loader : Loader)

theorem establish_tells :
    (establish platform config loader).1.Tells (Setup.opened? platform config loader)
      (Setup.accepted? platform config loader) := by
  have hcourse := Setup.course platform config loader
  unfold establish
  dsimp only
  generalize Setup.build platform config loader = attempt at hcourse ⊢
  obtain ⟨actions, halt | lookup⟩ := attempt
  · -- a degraded status has nothing to say of libraries
    exact {
      ready_iff := by simp [conclude, status, isDegraded]
      runtime := by simp [conclude, status]
      primaryLibrary := by simp [conclude, status]
      helperLibrary := by simp [conclude, status]
      fallbackSlots := by simp [conclude, status]
      cause := by simp [conclude, status] }
  · obtain ⟨hopened, haccepted⟩ := hcourse.ready
    rw [hopened, haccepted]
    exact {
      ready_iff := by simp [conclude, status, isDegraded]
      runtime := fun _ => rfl
      primaryLibrary := fun _ => rfl
      helperLibrary := fun _ => rfl
      fallbackSlots := fun _ => rfl
      cause := by simp [conclude] }

/-- The milestones of a set-up are the entries that the log has to tell. -/
theorem story_eq (at_ : Instant) :
    ((establish platform config loader).2.filterMap Action.milestone?).map
        (Log.Entry.ofMilestone at_) =
      story at_ (Setup.opened? platform config loader) (Setup.accepted? platform config loader)
        (establish platform config loader).1.status := by
  have hcourse := Setup.course platform config loader
  unfold establish
  dsimp only
  generalize Setup.build platform config loader = attempt at hcourse ⊢
  obtain ⟨actions, halt | lookup⟩ := attempt
  -- what was opened before a halt is logged, though the status forgets it
  · rw [List.cons_append, List.filterMap_cons, List.filterMap_append, hcourse.milestones]
    cases Setup.opened? platform config loader <;>
      cases Setup.accepted? platform config loader <;> rfl
  · obtain ⟨hopened, haccepted⟩ := hcourse.ready
    rw [List.cons_append, List.filterMap_cons, List.filterMap_append, hcourse.milestones,
      hopened, haccepted]
    cases lookup <;> rfl

end SystemLookup

/-- Every entry names the platform. -/
theorem SystemLookup.platform_of_mem_story {at_ : Instant}
    {opened : Option (RuntimeLibrary × OpenLibrary)} {accepted : Option FallbackLookup}
    {status : Status} {entry : Log.Entry} (h : entry ∈ story at_ opened accepted status) :
    entry.platform = some status.platform.name := by
  simp only [story, List.mem_append, List.mem_singleton, Option.mem_toList,
    Option.map_eq_some_iff] at h
  rcases h with ((rfl | ⟨_, _, rfl⟩) | ⟨_, _, rfl⟩) | rfl
  · rfl
  · rfl
  · rfl
  · split <;> rfl

/-! ## What is told can be read -/

/-- The array that is read is always that of the universal table. -/
theorem Setup.table_of_accepted {platform : Platform} {config : Config} {loader : Loader}
    {fallback : FallbackLookup} (h : accepted? platform config loader = some fallback) :
    fallback.table = .universal := by
  obtain ⟨⟨runtime, primary⟩, -, hread⟩ := Option.bind_eq_some_iff.mp h
  dsimp only at hread
  split at hread
  · obtain ⟨path, -, hhelper⟩ := Option.bind_eq_some_iff.mp hread
    obtain ⟨helper, -, harray⟩ := Option.bind_eq_some_iff.mp hhelper
    cases hof : FallbackLookup.ofHelper ⟨helper, path⟩ .universal with
    | error cause => simp [hof, Except.toOption] at harray
    | ok accepted =>
        obtain rfl : accepted = fallback := by simpa [hof, Except.toOption] using harray
        exact (FallbackLookup.eq_of_ofHelper hof).1
  · exact absurd hread (by simp)

/-- Details that are missing or count the slots of the universal table come back. -/
theorem Log.Entry.parse_of_details {e : Entry}
    (h : e.details = none ∨
      e.details = some (.obj [("slots", .int FallbackTable.universal.size)])) :
    parse e.line = .ok e := by
  have hne : e.details ≠ some .null := by
    rcases h with h | h <;> simp [h]
  have hrestorable : e.Restorable := by
    intro v hv
    rcases h with h | h
    · exact absurd hv (by simp [h])
    · obtain rfl : _ = v := Option.some.inj (h.symm.trans hv)
      refine ⟨.obj (by unfold Json.SortedByKey; decide) ?_, by decide⟩
      rintro _ hm
      obtain rfl := List.mem_singleton.mp hm
      exact .int ⟨by decide, by decide⟩
  rw [parse_line hrestorable, readBack_of_details_ne_null hne]

/-- **Whatever a set-up has to tell can be written and read back**, under any identifier. -/
theorem SystemLookup.parse_of_mem_story {at_ : Instant}
    {opened : Option (RuntimeLibrary × OpenLibrary)} {accepted : Option FallbackLookup}
    (haccepted : ∀ fallback, accepted = some fallback → fallback.table = .universal)
    {status : Status} {entry : Log.Entry} (h : entry ∈ story at_ opened accepted status)
    (id : String) :
    Log.Entry.parse { entry with traceId := id }.line = .ok { entry with traceId := id } := by
  refine Log.Entry.parse_of_details ?_
  simp only [story, List.mem_append, List.mem_singleton, Option.mem_toList,
    Option.map_eq_some_iff] at h
  rcases h with ((rfl | ⟨_, _, rfl⟩) | ⟨fallback, hfallback, rfl⟩) | rfl
  · exact .inl rfl
  · exact .inl rfl
  · -- the only entry with details: how many slots were read
    rw [haccepted fallback hfallback]
    exact .inr rfl
  · split <;> exact .inl rfl

/-! ## The log of a session tells it -/

theorem Log.Entry.traceId_ofMilestone (at_ : Instant) (m : Milestone) :
    (ofMilestone at_ m).traceId = "" := by
  cases m <;> rfl

/--
**The log of a set-up, the status and the state tell the same story.**

A sink that admits every level and writes all it is given gets the entries of the
set-up and no others, each one on a line of its own, in order, and numbered on
from what it had numbered before. A line has no break in it and gives its entry back.
-/
theorem Session.establish_tells_story (s : Session) (platform : Platform) (config : Config)
    (loaderOf : FileSystem → Loader) {emitter : Log.Emitter} {level : Log.Level}
    (h : (s.configureLog config).log.Open emitter level) :
    let loader := loaderOf (s.filesSeen platform config)
    let opened := Setup.opened? platform config loader
    let accepted := Setup.accepted? platform config loader
    let lookup := (s.establish platform config loaderOf).1
    let log := (s.establish platform config loaderOf).2.2.log
    let entries := SystemLookup.story s.clock opened accepted lookup.status
    log.outputs.held? emitter.destination =
        ((s.configureLog config).log.outputs.held? emitter.destination).map
          (· ++ Log.Emitter.linesOf (emitter.numbered entries)) ∧
      (∀ entry ∈ emitter.numbered entries, '\n' ∉ entry.line.toList ∧
        Log.Entry.parse entry.line = .ok entry) ∧
      log.Open (emitter.past entries.length) level ∧
      lookup.Tells opened accepted ∧
      ∀ entry ∈ entries, entry.platform = some lookup.status.platform.name := by
  intro loader opened accepted lookup log entries
  have hentries : ((s.establish platform config loaderOf).2.1.filterMap Action.milestone?).map
      (Log.Entry.ofMilestone s.clock) = entries :=
    SystemLookup.story_eq platform config loader s.clock
  have hlog : log = entries.foldl Log.ProcessLog.emit (s.configureLog config).log := by
    rw [← hentries]
    exact s.log_establish platform config loaderOf
  have hid : ∀ entry ∈ entries, entry.traceId = "" := by
    rw [← hentries]
    intro entry hm
    obtain ⟨m, -, rfl⟩ := List.mem_map.mp hm
    exact Log.Entry.traceId_ofMilestone s.clock m
  have hread : ∀ entry ∈ emitter.numbered entries, Log.Entry.parse entry.line = .ok entry := by
    intro entry hm
    obtain ⟨k, hk, rfl⟩ := List.mem_mapIdx.mp hm
    exact SystemLookup.parse_of_mem_story (fun _ => Setup.table_of_accepted)
      (List.getElem_mem hk) _
  obtain ⟨hopen, hheld⟩ := h.foldl_emit hid
  rw [hlog]
  exact ⟨hheld, fun entry hm => ⟨entry.newline_notMem_line, hread entry hm⟩, hopen,
    SystemLookup.establish_tells platform config loader,
    fun _ => SystemLookup.platform_of_mem_story⟩

/-- A session that logs everything to memory has four entries of the fixture to tell. -/
theorem Session.establish_tells_fixture :
    let emitter : Log.Emitter := { destination := .buffer, run := "1" }
    let s : Session := { log := { sink? := some ⟨some emitter, .trace⟩ } }
    let after := (s.establish .windows Scripted.Fixture.config fun _ =>
      Scripted.Fixture.loader.toLoader).2.2
    let entry level event : Log.Entry :=
      { Log.Entry.new ⟨0, 0⟩ level event with platform := some "windows" }
    let runtime := some "ucrt"
    let library := some "C:/Windows/System32/ucrtbase.dll"
    let entries : List Log.Entry :=
      [entry .info "init.start",
        { entry .debug "primary.loaded" with runtime, library },
        { entry .debug "fallback.loaded" with
          runtime
          library := some "/opt/app/bin/syslookup.dll"
          details := some (.obj [("slots", .int 52)]) },
        { entry .info "init.ready" with runtime, library }]
    (s.configureLog Scripted.Fixture.config).log.Open emitter .trace ∧
      after.log.Open (emitter.past 4) .trace ∧
      after.log.outputs.held? .buffer =
        some (Log.Emitter.linesOf (emitter.numbered entries)) ∧
      (emitter.numbered entries).map (·.traceId) =
        ["syslookup::1::001", "syslookup::1::002", "syslookup::1::003", "syslookup::1::004"] := by
  intro emitter s after entry runtime library entries
  let loader := Scripted.Fixture.loader.toLoader
  have hopen : (s.configureLog Scripted.Fixture.config).log.Open emitter .trace :=
    ⟨rfl, fun entryLevel => by cases entryLevel <;> rfl, fun _ => rfl⟩
  obtain ⟨hheld, -, hafter, -⟩ := Session.establish_tells_story s .windows Scripted.Fixture.config
    (fun _ => loader) hopen
  have hopened : (Setup.opened? .windows Scripted.Fixture.config loader).map
      (fun (r, p) => (r.name, p.path.display)) =
        some ("ucrt", "C:/Windows/System32/ucrtbase.dll") := by decide +kernel
  have haccepted : (Setup.accepted? .windows Scripted.Fixture.config loader).map
      (fun f => (f.helper.path.display, f.table.size)) =
        some ("/opt/app/bin/syslookup.dll", 52) := by decide +kernel
  obtain ⟨⟨r, p⟩, hopened, hprimary⟩ := Option.map_eq_some_iff.mp hopened
  obtain ⟨f, haccepted, hfallback⟩ := Option.map_eq_some_iff.mp haccepted
  obtain ⟨hname, hpath⟩ := Prod.mk.inj hprimary
  obtain ⟨hhelper, hsize⟩ := Prod.mk.inj hfallback
  have hentries : SystemLookup.story s.clock
      (Setup.opened? .windows Scripted.Fixture.config loader)
      (Setup.accepted? .windows Scripted.Fixture.config loader)
      (s.establish .windows Scripted.Fixture.config fun _ => loader).1.status = entries := by
    rw [hopened, haccepted]
    simp only [SystemLookup.story, Option.map_some, hname, hpath, hhelper, hsize]
    rfl
  refine ⟨hopen, hafter, ?_, by decide⟩
  have hnothing : (s.configureLog Scripted.Fixture.config).log.outputs.held? emitter.destination =
      some [] := rfl
  rw [hheld, hentries, hnothing, Option.map_some, List.nil_append]

end Linkage
