import Linkage.Proofs.PointerArray
import Linkage.Proofs.Setup
import Linkage.Session
import Linkage.Status

/-!
# What a lookup stands on

The types of a lookup say less than is true of it: they would allow a legacy
runtime with a helper behind it, a universal one without, or a side library on
Windows. No set-up comes to any of these. This file lists what a ready lookup
can stand on, three cases in all, each with the files that its configuration
names for it.

A status is read off these three cases and that of a degraded lookup. So its
members always fit to one another, and where one of them has a value, the others
tell which.
-/

namespace Linkage

/-- The file of a runtime under a configuration, if it names one. -/
def Config.runtimeFile? (c : Config) : RuntimeLibrary → Option Path
  | .side => (c.helperPath .posix).toOption
  | .universal => c.systemRoot.map fun root =>
      (Layout.system32 root).child Layout.universalRuntime
  | .legacy => c.systemRoot.map fun root => (Layout.system32 root).child Layout.legacyRuntime

theorem Config.runtimeFile?_side_eq_some_iff {c : Config} {path : Path} :
    c.runtimeFile? .side = some path ↔ c.helperPath .posix = .ok path := by
  unfold runtimeFile?
  cases c.helperPath .posix with
  | ok helper => simp [Except.toOption]
  | error cause => simp [Except.toOption]

namespace Setup

/-- What a ready lookup can stand on: the platform and the configuration decide most of it. -/
inductive Standing (config : Config) : Platform → ReadyLookup → Prop where
  | side {path : Path} {library : Library} :
      config.runtimeFile? .side = some path →
      Standing config .posix (.direct .side ⟨library, path⟩)
  | legacy {path : Path} {library : Library} :
      config.runtimeFile? .legacy = some path →
      Standing config .windows (.direct .legacy ⟨library, path⟩)
  | universal {path : Path} {library : Library} {fallback : FallbackLookup} :
      config.runtimeFile? .universal = some path →
      config.helperPath .windows = .ok fallback.helper.path → fallback.table = .universal →
      Standing config .windows (.withFallback .universal ⟨library, path⟩ fallback)

variable {config : Config} {loader : Loader} {platform : Platform} {actions : List Action}

/-- A primary library that was opened is the file of its runtime. -/
theorem Opening.runtimeFile?_eq {runtime : RuntimeLibrary} {primary : OpenLibrary}
    (h : Opening config loader platform actions (.ok (runtime, primary))) :
    config.runtimeFile? runtime = some primary.path := by
  cases h with
  | side hpath _ =>
      exact Config.runtimeFile?_side_eq_some_iff.mpr (Config.helperPath_of_some hpath)
  | legacy hroot _ _ =>
      unfold Config.runtimeFile?
      rw [hroot]
      rfl
  | universal hroot _ _ =>
      unfold Config.runtimeFile?
      rw [hroot]
      rfl

/-- **Every set-up that succeeds** ends in one of the three cases. -/
theorem Course.standing {lookup : ReadyLookup}
    (h : Course config loader platform actions (.ok lookup)) : Standing config platform lookup := by
  cases h with
  | direct hopen hruntime =>
      -- the opening tells the platform; the universal runtime does not go without a helper
      have hfile := hopen.runtimeFile?_eq
      cases hopen with
      | side _ _ => exact .side hfile
      | legacy _ _ _ => exact .legacy hfile
      | universal _ _ _ => exact absurd rfl hruntime
  | withFallback hopen hpath _ hread =>
      obtain ⟨htable, hhelper⟩ := FallbackLookup.eq_of_ofHelper hread
      refine .universal hopen.runtimeFile?_eq ?_ htable
      rw [hhelper]
      exact Config.helperPath_of_some hpath

end Setup

namespace SystemLookup

/-- The status of a lookup tells one story: its members fit to one another and to the platform. -/
structure Coherent (l : SystemLookup) : Prop where
  platform : l.status.platform = l.platform
  ready_iff : l.status.ready = true ↔ l.isDegraded = false
  cause : l.status.ready = true ↔ l.status.degradedCause = none
  runtime : l.status.ready = true ↔ l.status.runtime.isSome
  primary : l.status.ready = true ↔ l.status.primaryLibrary.isSome
  /-- Behind the universal runtime, and only there, stands a helper. -/
  helper : l.status.runtime = some .universal ↔ l.status.helperLibrary.isSome
  slots : l.status.fallbackSlots = if l.status.runtime = some .universal then some 52 else none
  side : l.status.runtime = some .side ↔ l.status.ready = true ∧ l.platform = .posix
  windows : ∀ runtime, l.status.runtime = some runtime → runtime ≠ .side → l.platform = .windows
  /-- The lookup itself has a helper if its runtime leaves out names. -/
  fallback : ∀ lookup, l.state = .ready lookup →
    (lookup.fallback?.isSome ↔ lookup.runtime.needsFallback = true)

/-- The libraries of a status are the files that a configuration names. -/
structure Follows (config : Config) (l : SystemLookup) : Prop where
  primary : ∀ runtime, l.status.runtime = some runtime →
    l.status.primaryLibrary = config.runtimeFile? runtime
  helper : ∀ path, l.status.helperLibrary = some path → config.helperPath .windows = .ok path

theorem coherent_degraded (platform : Platform) (cause : InitError) :
    (degraded platform cause).Coherent := by
  constructor <;> simp [degraded, status, isDegraded]

/-- A set-up that comes to a ready lookup has come to one of the three cases. -/
theorem standing_of_ready {platform : Platform} {config : Config} {loader : Loader}
    {lookup : ReadyLookup} (h : (establish platform config loader).1.state = .ready lookup) :
    Setup.Standing config platform lookup := by
  have hcourse := Setup.course platform config loader
  change (conclude platform (Setup.build platform config loader).outcome).1 = _ at h
  generalize (Setup.build platform config loader).outcome = outcome at hcourse h
  cases outcome with
  | error halt => exact absurd h (by simp [conclude])
  | ok built =>
      obtain rfl : built = lookup := LookupState.ready.inj h
      exact hcourse.standing

/-- A lookup that was set up in some session, or made degraded. -/
inductive Reachable : SystemLookup → Prop where
  | established (s : Session) (platform : Platform) (config : Config)
      (loaderOf : FileSystem → Loader) : Reachable (s.establish platform config loaderOf).1
  | degraded (platform : Platform) (cause : InitError) : Reachable (degraded platform cause)

/-- The array of a lookup that can be reached is read for the table of the universal runtime. -/
theorem Reachable.table_eq {l : SystemLookup} {ready : ReadyLookup} {fallback : FallbackLookup}
    (h : l.Reachable) (hready : l.state = .ready ready)
    (hfallback : ready.fallback? = some fallback) : fallback.table = .universal := by
  cases h with
  | degraded platform cause => exact absurd hready (by simp [SystemLookup.degraded])
  | established s platform config loaderOf =>
      cases standing_of_ready hready with
      | side _ => exact absurd hfallback (by simp [ReadyLookup.fallback?])
      | legacy _ => exact absurd hfallback (by simp [ReadyLookup.fallback?])
      | universal _ _ htable =>
          obtain rfl := Option.some.inj hfallback
          exact htable

variable {config : Config} {platform : Platform} {lookup : ReadyLookup}

theorem coherent_of_standing (h : Setup.Standing config platform lookup) :
    Coherent ⟨platform, .ready lookup⟩ := by
  have hsize : FallbackTable.universal.size = 52 := by decide
  cases h with
  | side _ =>
      constructor <;>
        simp [status, isDegraded, ReadyLookup.runtime, ReadyLookup.fallback?,
          RuntimeLibrary.needsFallback]
  | legacy _ =>
      constructor <;>
        simp [status, isDegraded, ReadyLookup.runtime, ReadyLookup.fallback?,
          RuntimeLibrary.needsFallback]
  | universal _ _ htable =>
      constructor <;>
        simp [status, isDegraded, ReadyLookup.runtime, ReadyLookup.fallback?,
          RuntimeLibrary.needsFallback, htable, hsize]

theorem follows_of_standing (h : Setup.Standing config platform lookup) :
    Follows config ⟨platform, .ready lookup⟩ := by
  cases h with
  | side hfile =>
      refine ⟨?_, fun path hpath => absurd hpath (by simp [status, ReadyLookup.fallback?])⟩
      rintro _ ⟨⟩
      exact hfile.symm
  | legacy hfile =>
      refine ⟨?_, fun path hpath => absurd hpath (by simp [status, ReadyLookup.fallback?])⟩
      rintro _ ⟨⟩
      exact hfile.symm
  | universal hfile hhelper _ =>
      refine ⟨?_, ?_⟩
      · rintro _ ⟨⟩
        exact hfile.symm
      · rintro _ ⟨⟩
        exact hhelper

/--
**The status of every lookup tells one story.**

Whether a lookup is set up or made degraded, the members of its status fit to one another and to
its platform. If it is set up, its libraries are the files that its configuration names, octet
for octet.
-/
theorem status_tells_one_story :
    (∀ (s : Session) (platform : Platform) (config : Config) (loaderOf : FileSystem → Loader),
      let lookup := (s.establish platform config loaderOf).1
      lookup.platform = platform ∧ lookup.Coherent ∧ lookup.Follows config) ∧
    ∀ (platform : Platform) (cause : InitError),
      (degraded platform cause).platform = platform ∧ (degraded platform cause).Coherent := by
  refine ⟨?_, fun platform cause => ⟨rfl, coherent_degraded platform cause⟩⟩
  intro s platform config loaderOf lookup
  have hlookup : lookup = ⟨platform, lookup.state⟩ := rfl
  have hstanding {ready : ReadyLookup} (h : lookup.state = .ready ready) :
      Setup.Standing config platform ready := standing_of_ready h
  rw [hlookup]
  cases hstate : lookup.state with
  | degraded cause =>
      exact ⟨rfl, coherent_degraded platform cause, by simp [status], by simp [status]⟩
  | ready ready =>
      exact ⟨rfl, coherent_of_standing (hstanding hstate), follows_of_standing (hstanding hstate)⟩

end SystemLookup

end Linkage
