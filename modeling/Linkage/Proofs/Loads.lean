import Linkage.Proofs.FileName
import Linkage.Proofs.HelperInterface
import Linkage.Proofs.Session
import Linkage.Report

/-!
# Which libraries a set-up loads

A lookup needs one library or two, and the set-up loads these and nothing else:
looking for a file is not loading it, and a helper that no runtime asks for is
left alone. This file reads the loads of a set-up off the configuration and the
files that are there, and shows that they are the loads on record, in that order.

The paths are made of configured directories in any spelling. That two of them
are different files is told by the names of the files, which no directory changes.
-/

namespace Linkage

namespace Setup

/-! ## The loads, read off the configuration -/

/-- The loads of a set-up in order, given which library files are there. -/
def loads (platform : Platform) (config : Config) (present : Path → Bool) : List Path :=
  match platform with
  | .posix => (config.helperFile? .posix).toList
  | .windows =>
    match config.systemRoot with
    | none => []
    | some root =>
      if present (universalFile root) then
        universalFile root :: (config.helperFile? .windows).toList
      else [legacyFile root]

/-! ## The loads that are made -/

variable {platform : Platform} {config : Config} {loader : ScriptedLoader} {actions : List Action}

/-- A library file is there if the loader has a library for it. -/
def serves (loader : ScriptedLoader) (path : Path) : Bool := (loader.library? path).isSome

theorem serves_of_fileExists {path : Path} {b : Bool}
    (h : loader.toLoader.fileExists path = .ok b) : serves loader path = b :=
  Except.ok.inj h

theorem not_serves_of_load {path : Path} {halt : Halt}
    (h : loader.toLoader.load path = .error halt) : serves loader path = false := by
  unfold serves
  cases hlib : loader.library? path with
  | none => rfl
  | some library =>
      rw [ScriptedLoader.load_of_library? hlib] at h
      exact absurd h (by simp)

/-- Selecting and loading the primary library fails at the load, or before there is one. -/
theorem Opening.loads_of_error {halt : Halt}
    (h : Opening config loader.toLoader platform actions (.error halt)) :
    actions.filterMap Action.load? = loads platform config (serves loader) := by
  unfold loads
  cases h with
  | helperUnknown hpath => simp [hpath]
  | sideRefused hpath hload => simp [hpath, Action.load?]
  | rootUnset hroot => simp [hroot]
  | checkBroken hroot hcheck => exact absurd hcheck (by simp [ScriptedLoader.toLoader])
  | legacyRefused hroot hcheck hload =>
      simp [hroot, serves_of_fileExists hcheck, List.filterMap_cons, Action.load?]
  | universalRefused hroot hcheck hload =>
      -- what is there can be loaded
      exact absurd ((serves_of_fileExists hcheck).symm.trans (not_serves_of_load hload)) (by simp)

/-- Where the primary library covers everything, it is the only one. -/
theorem Opening.loads_of_direct {runtime : RuntimeLibrary} {primary : OpenLibrary}
    (h : Opening config loader.toLoader platform actions (.ok (runtime, primary)))
    (hruntime : runtime ≠ .universal) :
    actions.filterMap Action.load? = loads platform config (serves loader) := by
  unfold loads
  cases h with
  | side hpath hload => simp [hpath, Action.load?]
  | legacy hroot hcheck hload =>
      simp [hroot, serves_of_fileExists hcheck, List.filterMap_cons, Action.load?]
  | universal hroot hcheck hload => exact absurd rfl hruntime

/-- Behind the universal runtime only the helper is left to load, if its path is known. -/
theorem Opening.loads_of_universal {primary : OpenLibrary}
    (h : Opening config loader.toLoader .windows actions (.ok (.universal, primary))) :
    actions.filterMap Action.load? ++ (config.helperFile? .windows).toList =
      loads .windows config (serves loader) := by
  unfold loads
  cases h with
  | universal hroot hcheck hload =>
      simp [hroot, serves_of_fileExists hcheck, List.filterMap_cons, Action.load?]

theorem Course.loads_eq {outcome : Except Halt ReadyLookup}
    (h : Course config loader.toLoader platform actions outcome) :
    actions.filterMap Action.load? = loads platform config (serves loader) := by
  cases h with
  | unopened hopen => exact hopen.loads_of_error
  | direct hopen hruntime =>
      rw [List.filterMap_append, ← hopen.loads_of_direct hruntime]
      simp [Action.load?]
  | helperUnknown hopen hpath =>
      rw [List.filterMap_append, ← hopen.loads_of_universal, hpath]
      rfl
  | helperRefused hopen hpath hload =>
      rw [List.filterMap_append, ← hopen.loads_of_universal, hpath]
      rfl
  | arrayRefused hopen hpath hload hread =>
      rw [List.filterMap_append, ← hopen.loads_of_universal, hpath]
      rfl
  | withFallback hopen hpath hload hread =>
      rw [List.filterMap_append, ← hopen.loads_of_universal, hpath]
      rfl

/-- Selecting a runtime loads nothing, whatever the loader is. -/
theorem loads_selectRuntime (platform : Platform) (config : Config) (loader : Loader) :
    (selectRuntime platform config loader).loads = [] := by
  cases platform with
  | posix =>
      unfold selectRuntime
      cases hpath : config.helperFile? .posix with
      | none => simp [Config.helperPath_of_none hpath, Attempt.loads]
      | some path => simp [Config.helperPath_of_some hpath, Attempt.loads]
  | windows =>
      rw [selectRuntime_windows, Config.requireSystemRoot]
      cases config.systemRoot with
      | none => simp [Attempt.loads]
      | some root =>
          cases hcheck : loader.fileExists (universalFile root) with
          | error crash =>
              simp [Attempt.check_of_error hcheck, Attempt.loads, List.filterMap_cons,
                Action.load?]
          | ok present =>
              cases present <;>
                simp [Attempt.check_of_ok hcheck, Attempt.loads, List.filterMap_cons, Action.load?]

/-- What is loaded first is the path that was selected, if one was. -/
theorem loads_openPrimary (platform : Platform) (config : Config) (loader : Loader) :
    (openPrimary platform config loader).loads =
      ((selectRuntime platform config loader).outcome.toOption.map (·.2)).toList := by
  have hselect := loads_selectRuntime platform config loader
  unfold openPrimary
  generalize selectRuntime platform config loader = selection at hselect ⊢
  obtain ⟨actions, halt | ⟨runtime, path⟩⟩ := selection
  · exact hselect
  · have hnone : actions.filterMap Action.load? = [] := hselect
    cases hload : loader.load path with
    | error halt =>
        simp [Attempt.load_of_error hload, Attempt.loads, hnone, Action.load?, Except.toOption]
    | ok library =>
        simp [Attempt.load_of_ok hload, Attempt.loads, hnone, Action.load?, Except.toOption]

/-! ## The files that are loaded are different ones -/

theorem fileName?_universalFile (root : Path) :
    (universalFile root).fileName? = some (Utf8.encode Layout.universalRuntime) :=
  Path.fileName?_child _ Layout.isEntryName_universalRuntime

theorem fileName?_legacyFile (root : Path) :
    (legacyFile root).fileName? = some (Utf8.encode Layout.legacyRuntime) :=
  Path.fileName?_child _ Layout.isEntryName_legacyRuntime

theorem fileName?_helperFile {path : Path} (h : config.helperFile? platform = some path) :
    path.fileName? = some (Utf8.encode (Layout.libraryFile platform Layout.helperName)) := by
  have hdir : ∃ dir, path = Layout.helperLibrary platform dir := by
    unfold Config.helperFile? at h
    split at h
    · exact ⟨_, (Option.some.inj h).symm⟩
    · exact ⟨_, (Option.some.inj h).symm⟩
    · exact absurd h (by simp)
  obtain ⟨dir, rfl⟩ := hdir
  exact Layout.fileName?_helperLibrary platform dir

/-- What the loads can be named: the helper's file, a runtime's, or both with the helper last. -/
def loadNames : List (List (Option Bytes)) :=
  let universal := Utf8.encode Layout.universalRuntime
  let legacy := Utf8.encode Layout.legacyRuntime
  let helper platform := Utf8.encode (Layout.libraryFile platform Layout.helperName)
  [[], [some (helper .posix)], [some legacy], [some universal],
    [some universal, some (helper .windows)]]

theorem fileNames_loads (platform : Platform) (config : Config) (present : Path → Bool) :
    (loads platform config present).map Path.fileName? ∈ loadNames := by
  unfold loads
  cases platform with
  | posix =>
      cases hpath : config.helperFile? .posix with
      | none => simp [loadNames]
      | some path => simp [loadNames, fileName?_helperFile hpath]
  | windows =>
      cases config.systemRoot with
      | none => simp [loadNames]
      | some root =>
          cases hpresent : present (universalFile root) with
          | false => simp [loadNames, hpresent, fileName?_legacyFile]
          | true =>
              cases hpath : config.helperFile? .windows with
              | none => simp [loadNames, hpresent, fileName?_universalFile]
              | some path =>
                  simp [loadNames, hpresent, fileName?_universalFile, fileName?_helperFile hpath]

/-- Different names, and not both runtimes. -/
theorem distinct_of_mem_loadNames : ∀ names ∈ loadNames, names.Nodup ∧
    ¬ (some (Utf8.encode Layout.universalRuntime) ∈ names ∧
      some (Utf8.encode Layout.legacyRuntime) ∈ names) := by
  decide

/-- No file is loaded twice, in whatever spelling. -/
theorem pairwise_loads (platform : Platform) (config : Config) (present : Path → Bool) :
    (loads platform config present).Pairwise fun p q => ¬ p.SameFile q := by
  have hnodup := (distinct_of_mem_loadNames _ (fileNames_loads platform config present)).1
  exact (List.pairwise_map.mp hnodup).imp fun hne hsame => hne hsame.fileName?_eq

end Setup

/-! ## What is asked of a lookup later -/

/-- A lookup that a process keeps answers it, and the process stays as it is. -/
theorem Session.find_of_kept {s : Session} {l : SystemLookup} (h : s.lookup? = some l)
    (linker : Linker) (name : String) : s.find linker name = (l.find name, s) := by
  rw [find, lookup, h]

/-! ## The record of the loads -/

/-- Without mishaps every load leaves a record. -/
theorem Script.record_eq (loader : ScriptedLoader) (actions : List Action) :
    record { loader } actions = actions.filterMap Action.load? :=
  List.filter_eq_self.mpr fun _ _ => rfl

theorem Session.record_establish (s : Session) (platform : Platform) (config : Config)
    (loader : ScriptedLoader) :
    Script.record { loader } (s.establish platform config (Script.toLoader { loader })).2.1 =
      Setup.loads platform config (Setup.serves loader) := by
  rw [Script.record_eq, ← (Setup.course platform config loader.toLoader).loads_eq]
  show List.filterMap Action.load? (_ :: (_ ++ [_])) = _
  rw [List.filterMap_cons, List.filterMap_append]
  exact List.append_nil _

/--
**A set-up loads the libraries that it needs, in order, and nothing else.**

The record of a loader without mishaps has the helper on POSIX, one runtime on
Windows, and the helper behind the universal runtime. No file stands in it twice,
however the directories are spelled, and never both runtimes. Looking for a file
and selecting a runtime add nothing to it. Nor do any questions that are asked of the
lookup later, whatever they work out of it, such as a symbol, its status or a probe; and
a process that keeps the lookup answers from it and sets up no other.
-/
theorem Session.establish_loads (s : Session) (platform : Platform) (config : Config)
    (loader : ScriptedLoader) :
    let script : Script := { loader }
    let (lookup, actions, after) := s.establish platform config script.toLoader
    let record := script.record actions
    record = Setup.loads platform config (Setup.serves loader) ∧
    (record.Pairwise fun p q => ¬ p.SameFile q) ∧
    (¬ ∃ p ∈ record, ∃ q ∈ record, p.fileName? = some (Utf8.encode Layout.universalRuntime) ∧
      q.fileName? = some (Utf8.encode Layout.legacyRuntime)) ∧
    (∀ fs path, (Attempt.check (script.toLoader fs) path).loads = []) ∧
    (∀ fs, (Setup.selectRuntime platform config (script.toLoader fs)).loads = []) ∧
    (∀ fs, (Setup.openPrimary platform config (script.toLoader fs)).loads =
      ((Setup.selectRuntime platform config (script.toLoader fs)).outcome.toOption.map
        (·.2)).toList) ∧
    (∀ {α : Type} (questions : List (SystemLookup → α)), script.record
      (actions ++ (questions.mapM fun ask => (return ask lookup : Attempt α)).actions) = record) ∧
    ∀ linker name, let kept := { after with lookup? := some lookup }
      kept.find linker name = (lookup.find name, kept) := by
  intro script
  have hrecord := s.record_establish platform config loader
  have hdistinct := Setup.pairwise_loads platform config (Setup.serves loader)
  have hnames := Setup.distinct_of_mem_loadNames _
    (Setup.fileNames_loads platform config (Setup.serves loader))
  rw [← hrecord] at hdistinct hnames
  refine ⟨hrecord, hdistinct, ?_, fun _ _ => rfl, fun _ => Setup.loads_selectRuntime _ _ _,
    fun _ => Setup.loads_openPrimary _ _ _, fun questions => ?_,
    fun linker name => Session.find_of_kept rfl linker name⟩
  · rintro ⟨p, hp, q, hq, hpname, hqname⟩
    exact hnames.2 ⟨hpname ▸ List.mem_map_of_mem hp, hqname ▸ List.mem_map_of_mem hq⟩
  · rw [List.mapM_pure]
    exact congrArg script.record (List.append_nil _)

end Linkage
