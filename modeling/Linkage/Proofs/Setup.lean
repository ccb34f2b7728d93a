import Linkage.Setup

/-!
# How setting up the lookup can go

Setting up the lookup asks a loader at most three times and can stop after each
question. This file goes through the set-up once and lists, as an inductive
predicate, every course it can take: what was done, in order, and what came of
it. Laws about the set-up are then proved by looking at the courses, and none of
them opens the set-up again.

A configuration enters only through two paths it may or may not name, so those
are given first.
-/

namespace Linkage

namespace Config

/-! ## The two paths that a configuration may name -/

/-- The file of the helper library, if a directory for it is known. -/
def helperFile? (c : Config) (platform : Platform) : Option Path :=
  match c.libraryDir, c.installRoot with
  | some dir, _ => some (Layout.helperLibrary platform dir)
  | none, some root => some (Layout.helperLibrary platform (Layout.libraryDir platform root))
  | none, none => none

theorem helperPath_eq (c : Config) (platform : Platform) :
    c.helperPath platform =
      match c.helperFile? platform with
      | some path => .ok path
      | none => .error .libraryDirUnknown := by
  unfold helperPath helperDir helperFile?
  cases c.libraryDir with
  | some dir => rfl
  | none =>
      cases c.installRoot with
      | some root => rfl
      | none => rfl

theorem helperPath_of_some {c : Config} {platform : Platform} {path : Path}
    (h : c.helperFile? platform = some path) : c.helperPath platform = .ok path := by
  rw [helperPath_eq, h]

theorem helperPath_of_none {c : Config} {platform : Platform}
    (h : c.helperFile? platform = none) : c.helperPath platform = .error .libraryDirUnknown := by
  rw [helperPath_eq, h]

end Config

namespace RuntimeLibrary

variable {runtime : RuntimeLibrary}

/-- Only the universal runtime leaves out names. -/
theorem needsFallback_iff : runtime.needsFallback = true ↔ runtime = .universal := by
  cases runtime <;> decide

theorem needsFallback_eq_false_iff : runtime.needsFallback = false ↔ runtime ≠ .universal := by
  rw [← Bool.not_eq_true, needsFallback_iff]

end RuntimeLibrary

namespace Attempt

variable {α β : Type}

/-! ## Work after work -/

@[simp] theorem pure_eq (a : α) : (pure a : Attempt α) = ⟨[], .ok a⟩ := rfl

@[simp] theorem ok_bind (actions : List Action) (a : α) (f : α → Attempt β) :
    (⟨actions, .ok a⟩ : Attempt α) >>= f = ⟨actions ++ (f a).actions, (f a).outcome⟩ := rfl

@[simp] theorem error_bind (actions : List Action) (halt : Halt) (f : α → Attempt β) :
    (⟨actions, .error halt⟩ : Attempt α) >>= f = ⟨actions, .error halt⟩ := rfl

theorem bind_assoc {γ : Type} (x : Attempt α) (f : α → Attempt β) (g : β → Attempt γ) :
    x >>= f >>= g = x >>= fun a => f a >>= g := by
  obtain ⟨actions, halt | a⟩ := x
  · rfl
  · rcases h : f a with ⟨later, halt | b⟩
    · simp [h]
    · simp [h]

/-- How attempts are grouped makes no difference. -/
instance : LawfulMonad Attempt := by
  refine LawfulMonad.mk' Attempt (fun x => ?_) (fun _ _ => rfl) bind_assoc
  obtain ⟨actions, halt | a⟩ := x
  · rfl
  · show (⟨actions ++ [], .ok a⟩ : Attempt _) = ⟨actions, .ok a⟩
    rw [List.append_nil]

@[simp] theorem require_ok (a : α) : require (.ok a) = ⟨[], .ok a⟩ := rfl

@[simp] theorem require_error (cause : InitError) :
    (require (.error cause) : Attempt α) = ⟨[], .error (.failed cause)⟩ := rfl

theorem check_of_ok {loader : Loader} {path : Path} {b : Bool}
    (h : loader.fileExists path = .ok b) : check loader path = ⟨[.checked path], .ok b⟩ := by
  rw [check, h]
  rfl

theorem check_of_error {loader : Loader} {path : Path} {crash : Crash}
    (h : loader.fileExists path = .error crash) :
    check loader path = ⟨[.checked path], .error (.crashed crash)⟩ := by
  rw [check, h]
  rfl

theorem load_of_ok {loader : Loader} {path : Path} {library : Library}
    (h : loader.load path = .ok library) :
    load loader path = ⟨[.loaded path], .ok ⟨library, path⟩⟩ := by
  rw [load, h]
  rfl

theorem load_of_error {loader : Loader} {path : Path} {halt : Halt}
    (h : loader.load path = .error halt) :
    load loader path = ⟨[.loaded path], .error halt⟩ := by
  rw [load, h]
  rfl

end Attempt

namespace Setup

/-- The file of the universal runtime under a system root. -/
def universalFile (systemRoot : Path) : Path :=
  (Layout.system32 systemRoot).child Layout.universalRuntime

/-- The file of the legacy runtime under a system root. -/
def legacyFile (systemRoot : Path) : Path :=
  (Layout.system32 systemRoot).child Layout.legacyRuntime

/-! ## Selecting and loading the primary library -/

/-- How selecting and loading the primary library can go. -/
inductive Opening (config : Config) (loader : Loader) :
    Platform → List Action → Except Halt (RuntimeLibrary × OpenLibrary) → Prop where
  | helperUnknown :
      config.helperFile? .posix = none →
      Opening config loader .posix [] (.error (.failed .libraryDirUnknown))
  | sideRefused {path : Path} {halt : Halt} :
      config.helperFile? .posix = some path → loader.load path = .error halt →
      Opening config loader .posix [.loaded path] (.error halt)
  | side {path : Path} {library : Library} :
      config.helperFile? .posix = some path → loader.load path = .ok library →
      Opening config loader .posix [.loaded path] (.ok (.side, ⟨library, path⟩))
  | rootUnset :
      config.systemRoot = none →
      Opening config loader .windows [] (.error (.failed .systemRootUnset))
  | checkBroken {root : Path} {crash : Crash} :
      config.systemRoot = some root → loader.fileExists (universalFile root) = .error crash →
      Opening config loader .windows [.checked (universalFile root)] (.error (.crashed crash))
  | legacyRefused {root : Path} {halt : Halt} :
      config.systemRoot = some root → loader.fileExists (universalFile root) = .ok false →
      loader.load (legacyFile root) = .error halt →
      Opening config loader .windows [.checked (universalFile root), .loaded (legacyFile root)]
        (.error halt)
  | legacy {root : Path} {library : Library} :
      config.systemRoot = some root → loader.fileExists (universalFile root) = .ok false →
      loader.load (legacyFile root) = .ok library →
      Opening config loader .windows [.checked (universalFile root), .loaded (legacyFile root)]
        (.ok (.legacy, ⟨library, legacyFile root⟩))
  | universalRefused {root : Path} {halt : Halt} :
      config.systemRoot = some root → loader.fileExists (universalFile root) = .ok true →
      loader.load (universalFile root) = .error halt →
      Opening config loader .windows
        [.checked (universalFile root), .loaded (universalFile root)] (.error halt)
  | universal {root : Path} {library : Library} :
      config.systemRoot = some root → loader.fileExists (universalFile root) = .ok true →
      loader.load (universalFile root) = .ok library →
      Opening config loader .windows
        [.checked (universalFile root), .loaded (universalFile root)]
        (.ok (.universal, ⟨library, universalFile root⟩))

theorem opening_posix (config : Config) (loader : Loader) :
    Opening config loader .posix (openPrimary .posix config loader).actions
      (openPrimary .posix config loader).outcome := by
  unfold openPrimary selectRuntime
  cases hpath : config.helperFile? .posix with
  | none => simpa [Config.helperPath_of_none hpath] using Opening.helperUnknown hpath
  | some path =>
      cases hload : loader.load path with
      | error halt =>
          simpa [Config.helperPath_of_some hpath, Attempt.load_of_error hload]
            using Opening.sideRefused hpath hload
      | ok library =>
          simpa [Config.helperPath_of_some hpath, Attempt.load_of_ok hload]
            using Opening.side hpath hload

/-- On Windows the root decides what is asked for. -/
theorem selectRuntime_windows (config : Config) (loader : Loader) :
    selectRuntime .windows config loader = (do
      let root ← Attempt.require config.requireSystemRoot
      if ← Attempt.check loader (universalFile root) then
        return (.universal, universalFile root)
      else
        return (.legacy, legacyFile root)) := rfl

theorem opening_windows (config : Config) (loader : Loader) :
    Opening config loader .windows (openPrimary .windows config loader).actions
      (openPrimary .windows config loader).outcome := by
  rw [openPrimary, selectRuntime_windows, Config.requireSystemRoot]
  cases hroot : config.systemRoot with
  | none => simpa using Opening.rootUnset hroot
  | some root =>
      cases hcheck : loader.fileExists (universalFile root) with
      | error crash =>
          simpa [Attempt.check_of_error hcheck] using Opening.checkBroken hroot hcheck
      | ok present =>
          have hchecked := Attempt.check_of_ok hcheck
          cases present with
          | false =>
              cases hload : loader.load (legacyFile root) with
              | error halt =>
                  simpa [hchecked, Attempt.load_of_error hload]
                    using Opening.legacyRefused hroot hcheck hload
              | ok library =>
                  simpa [hchecked, Attempt.load_of_ok hload]
                    using Opening.legacy hroot hcheck hload
          | true =>
              cases hload : loader.load (universalFile root) with
              | error halt =>
                  simpa [hchecked, Attempt.load_of_error hload]
                    using Opening.universalRefused hroot hcheck hload
              | ok library =>
                  simpa [hchecked, Attempt.load_of_ok hload]
                    using Opening.universal hroot hcheck hload

theorem opening (platform : Platform) (config : Config) (loader : Loader) :
    Opening config loader platform (openPrimary platform config loader).actions
      (openPrimary platform config loader).outcome := by
  cases platform with
  | posix => exact opening_posix config loader
  | windows => exact opening_windows config loader

/-- The universal runtime is one of Windows. -/
theorem Opening.windows_of_universal {config : Config} {loader : Loader} {platform : Platform}
    {actions : List Action} {primary : OpenLibrary}
    (h : Opening config loader platform actions (.ok (.universal, primary))) :
    platform = .windows := by
  cases h
  rfl

/-! ## Opening the helper -/

section

variable {loader : Loader} {path : Path} {table : FallbackTable}

theorem openFallback_of_unloaded {halt : Halt} (h : loader.load path = .error halt) :
    openFallback loader path table = ⟨[.loaded path], .error halt⟩ := by
  unfold openFallback
  rw [Attempt.load_of_error h]
  rfl

theorem openFallback_of_error {helper : Library} {cause : InitError}
    (hload : loader.load path = .ok helper)
    (hread : FallbackLookup.ofHelper ⟨helper, path⟩ table = .error cause) :
    openFallback loader path table = ⟨[.loaded path], .error (.failed cause)⟩ := by
  unfold openFallback
  rw [Attempt.load_of_ok hload, Attempt.ok_bind, hread]
  rfl

theorem openFallback_of_ok {helper : Library} {fallback : FallbackLookup}
    (hload : loader.load path = .ok helper)
    (hread : FallbackLookup.ofHelper ⟨helper, path⟩ table = .ok fallback) :
    openFallback loader path table = ⟨[.loaded path], .ok fallback⟩ := by
  unfold openFallback
  rw [Attempt.load_of_ok hload, Attempt.ok_bind, hread]
  rfl

end

/-! ## The whole set-up -/

/-- How setting up the lookup can go. The helper is looked for behind one runtime only. -/
inductive Course (config : Config) (loader : Loader) :
    Platform → List Action → Except Halt ReadyLookup → Prop where
  | unopened {platform : Platform} {actions : List Action} {halt : Halt} :
      Opening config loader platform actions (.error halt) →
      Course config loader platform actions (.error halt)
  | direct {platform : Platform} {actions : List Action} {runtime : RuntimeLibrary}
      {primary : OpenLibrary} :
      Opening config loader platform actions (.ok (runtime, primary)) → runtime ≠ .universal →
      Course config loader platform
        (actions ++ [.reported (.primaryLoaded platform runtime primary.path)])
        (.ok (.direct runtime primary))
  | helperUnknown {actions : List Action} {primary : OpenLibrary} :
      Opening config loader .windows actions (.ok (.universal, primary)) →
      config.helperFile? .windows = none →
      Course config loader .windows
        (actions ++ [.reported (.primaryLoaded .windows .universal primary.path)])
        (.error (.failed .libraryDirUnknown))
  | helperRefused {actions : List Action} {primary : OpenLibrary} {path : Path} {halt : Halt} :
      Opening config loader .windows actions (.ok (.universal, primary)) →
      config.helperFile? .windows = some path → loader.load path = .error halt →
      Course config loader .windows
        (actions ++ [.reported (.primaryLoaded .windows .universal primary.path), .loaded path])
        (.error halt)
  | arrayRefused {actions : List Action} {primary : OpenLibrary} {path : Path}
      {helper : Library} {cause : InitError} :
      Opening config loader .windows actions (.ok (.universal, primary)) →
      config.helperFile? .windows = some path → loader.load path = .ok helper →
      FallbackLookup.ofHelper ⟨helper, path⟩ .universal = .error cause →
      Course config loader .windows
        (actions ++ [.reported (.primaryLoaded .windows .universal primary.path), .loaded path])
        (.error (.failed cause))
  | withFallback {actions : List Action} {primary : OpenLibrary} {path : Path}
      {helper : Library} {fallback : FallbackLookup} :
      Opening config loader .windows actions (.ok (.universal, primary)) →
      config.helperFile? .windows = some path → loader.load path = .ok helper →
      FallbackLookup.ofHelper ⟨helper, path⟩ .universal = .ok fallback →
      Course config loader .windows
        (actions ++ [.reported (.primaryLoaded .windows .universal primary.path), .loaded path,
          .reported
            (.fallbackLoaded .windows .universal fallback.helper.path fallback.table.size)])
        (.ok (.withFallback .universal primary fallback))

theorem course (platform : Platform) (config : Config) (loader : Loader) :
    Course config loader platform (build platform config loader).actions
      (build platform config loader).outcome := by
  have hopen := opening platform config loader
  unfold build
  generalize openPrimary platform config loader = attempt at hopen ⊢
  obtain ⟨actions, halt | ⟨runtime, primary⟩⟩ := attempt
  · simpa using Course.unopened hopen
  · cases hneeds : runtime.needsFallback with
    | false =>
        have hruntime := RuntimeLibrary.needsFallback_eq_false_iff.mp hneeds
        simpa [Attempt.report, hneeds] using Course.direct hopen hruntime
    | true =>
        -- only now is it known that this is Windows, and which helper is meant
        obtain rfl := RuntimeLibrary.needsFallback_iff.mp hneeds
        obtain rfl := hopen.windows_of_universal
        cases hpath : config.helperFile? .windows with
        | none =>
            simpa [Attempt.report, hneeds, Config.helperPath_of_none hpath]
              using Course.helperUnknown hopen hpath
        | some path =>
            have hpath' := Config.helperPath_of_some hpath
            cases hload : loader.load path with
            | error halt =>
                simpa [Attempt.report, hneeds, hpath', openFallback_of_unloaded hload]
                  using Course.helperRefused hopen hpath hload
            | ok helper =>
                cases hread : FallbackLookup.ofHelper ⟨helper, path⟩ .universal with
                | error cause =>
                    simpa [Attempt.report, hneeds, hpath', openFallback_of_error hload hread]
                      using Course.arrayRefused hopen hpath hload hread
                | ok fallback =>
                    simpa [Attempt.report, hneeds, hpath', openFallback_of_ok hload hread]
                      using Course.withFallback hopen hpath hload hread

/-- A set-up behind the universal runtime that meets no fault. -/
theorem build_universal {config : Config} {loader : Loader} {root path : Path}
    {runtime helper : Library} {fallback : FallbackLookup}
    (hroot : config.systemRoot = some root)
    (hcheck : loader.fileExists (universalFile root) = .ok true)
    (hruntime : loader.load (universalFile root) = .ok runtime)
    (hpath : config.helperFile? .windows = some path)
    (hhelper : loader.load path = .ok helper)
    (hread : FallbackLookup.ofHelper ⟨helper, path⟩ .universal = .ok fallback) :
    (build .windows config loader).outcome =
      .ok (.withFallback .universal ⟨runtime, universalFile root⟩ fallback) := by
  rw [build, openPrimary, selectRuntime_windows, Config.requireSystemRoot, hroot]
  simp [Attempt.check_of_ok hcheck, Attempt.load_of_ok hruntime, Attempt.report,
    RuntimeLibrary.needsFallback, Config.helperPath_of_some hpath,
    openFallback_of_ok hhelper hread]

end Setup

end Linkage
