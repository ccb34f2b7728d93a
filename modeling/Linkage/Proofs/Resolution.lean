import Linkage.Proofs.Degradation
import Linkage.Proofs.Scripted

/-!
# What a name resolves to

A lookup over a script goes a long way to an answer: it selects a runtime, loads
one library or two, copies a pointer array, and asks two kinds of sources by two
kinds of keys. The answer itself can be read off the script at once. This file
writes that reading down, `Scene.answer`, and shows that the lookup agrees with
it for every name:

* a text that is no name is refused, whatever came of the set-up;
* a degraded lookup finds nothing;
* the selected runtime decides for what its listing exports under the very name;
* the helper's array decides for the other names of the table, and only behind
  the universal runtime.

The reading looks at two listings at most. Of the runtime it takes the one name
that is asked for, and of the helper behind a runtime nothing but the array.
-/

namespace Linkage

namespace Scene

/-! ## The answer, read off the script -/

/-- The primary runtime and its file, as the configuration and the script have it. -/
def primary? (scene : Scene) (platform : Platform) (config : Config) (fs : FileSystem) :
    Option (RuntimeLibrary × Path) :=
  match platform with
  | .posix => (config.helperFile? .posix).map (.side, ·)
  | .windows =>
    config.systemRoot.map fun root =>
      if scene.present fs (Setup.universalFile root) then (.universal, Setup.universalFile root)
      else (.legacy, Setup.legacyFile root)

/-- The word at a position of the array that the helper's `funcs` points to. -/
def arrayWord? (scene : Scene) (config : Config) (i : Nat) : Option Word := do
  let path ← config.helperFile? .windows
  let helper ← scene.listing? path
  let base ← helper.symbol? "funcs"
  return helper.memory (base.address + UInt64.ofNat (8 * i))

/-- What a name resolves to when the set-up met no fault. -/
def hit? (scene : Scene) (platform : Platform) (config : Config) (fs : FileSystem)
    (name : String) : Option Resolution := do
  let (runtime, path) ← scene.primary? platform config fs
  let listing ← scene.listing? path
  match listing.symbol? name with
  | some symbol => return ⟨symbol, .library⟩
  | none =>
    if runtime = .universal then
      let i ← FallbackTable.universalNames.idxOf? name
      let symbol ← Symbol.ofWord? (← scene.arrayWord? config i)
      return ⟨symbol, .fallback i⟩
    else none

/-- What a text resolves to, given whether the lookup is degraded. -/
def answer (scene : Scene) (platform : Platform) (config : Config) (fs : FileSystem)
    (degraded : Bool) (name : String) : Except NameError (Option Resolution) :=
  if name = "" then .error .empty
  else if 0 ∈ Utf8.encode name then .error (.interiorNul ((Utf8.encode name).idxOf 0))
  else .ok (if degraded then none else scene.hit? platform config fs name)

/-! ## The sources give what the script lists -/

variable {scene : Scene} {config : Config} {fs : FileSystem} {platform : Platform}
  {actions : List Action}

/-- A library that was loaded resolves a name as its listing says. -/
theorem resolve_listing (listing : Listing) (path : Path) (n : SymbolName) :
    OpenLibrary.resolve ⟨listing.library.toLibrary, path⟩ n =
      (listing.symbol? n.text).map (⟨·, .library⟩) := by
  unfold OpenLibrary.resolve SymbolName.key
  rw [Listing.export?_library listing n.no_nul]

/-- The primary library that was opened is the one that the script selects. -/
theorem primary?_of_opening {runtime : RuntimeLibrary} {primary : OpenLibrary}
    (h : Setup.Opening config (scene.script.toLoader fs) platform actions
      (.ok (runtime, primary))) :
    scene.primary? platform config fs = some (runtime, primary.path) ∧
      ∃ listing, scene.listing? primary.path = some listing ∧
        primary.library = listing.library.toLibrary := by
  unfold primary?
  cases h with
  | side hpath hload =>
      rw [hpath]
      exact ⟨rfl, listing?_of_load hload⟩
  | legacy hroot hcheck hload =>
      refine ⟨?_, listing?_of_load hload⟩
      simp [hroot, present_of_fileExists hcheck]
  | universal hroot hcheck hload =>
      refine ⟨?_, listing?_of_load hload⟩
      simp [hroot, present_of_fileExists hcheck]

/-- The array of a helper that was accepted answers with the words that the script lists. -/
theorem resolve_fallback {path : Path} {helper : Library} {fallback : FallbackLookup}
    (hpath : config.helperFile? .windows = some path)
    (hload : (scene.script.toLoader fs).load path = .ok helper)
    (hread : FallbackLookup.ofHelper ⟨helper, path⟩ .universal = .ok fallback)
    (n : SymbolName) :
    fallback.resolve n = (do
      let i ← FallbackTable.universalNames.idxOf? n.text
      let symbol ← Symbol.ofWord? (← scene.arrayWord? config i)
      return ⟨symbol, .fallback i⟩) := by
  obtain ⟨listing, hlisting, rfl⟩ := listing?_of_load hload
  have hr := FallbackLookup.reading ⟨listing.library.toLibrary, path⟩ .universal
  rw [hread] at hr
  cases hr with
  | @accepted base symbols hbase hfill h0 =>
      have hfuncs : listing.symbol? "funcs" = some base := by
        rw [← hbase]
        exact (Listing.export?_library listing (by decide)).symm
      have hword : ∀ i, scene.arrayWord? config i =
          some (Library.element listing.library.toLibrary base i) := by
        intro i
        simp [arrayWord?, hpath, hlisting, hfuncs, Library.element, wordSize,
          Listing.memory_library]
      rw [FallbackLookup.resolve_of_fills hfill]
      show (FallbackTable.universalNames.idxOf? n.text).bind _ = _
      cases FallbackTable.universalNames.idxOf? n.text with
      | none => rfl
      | some i =>
          simp only [hword, Option.bind_eq_bind, Option.bind_some]
          cases Symbol.ofWord? (Library.element listing.library.toLibrary base i) <;> rfl

/-- A lookup that is ready resolves every name as the script lists it. -/
theorem resolve_of_course {lookup : ReadyLookup}
    (h : Setup.Course config (scene.script.toLoader fs) platform actions (.ok lookup))
    (n : SymbolName) :
    lookup.source.resolve n = scene.hit? platform config fs n.text := by
  cases h with
  | @direct _ _ runtime primary hopen hruntime =>
      obtain ⟨hprimary, listing, hlisting, hlib⟩ := primary?_of_opening hopen
      obtain ⟨library, path⟩ := primary
      dsimp only at hprimary hlisting hlib
      subst hlib
      show OpenLibrary.resolve ⟨listing.library.toLibrary, path⟩ n = _
      rw [resolve_listing]
      unfold hit?
      simp only [hprimary, hlisting, Option.bind_eq_bind, Option.bind_some, if_neg hruntime]
      cases listing.symbol? n.text <;> rfl
  | @withFallback _ primary path helper fallback hopen hpath hload hread =>
      obtain ⟨hprimary, listing, hlisting, hlib⟩ := primary?_of_opening hopen
      obtain ⟨library, primaryPath⟩ := primary
      dsimp only at hprimary hlisting hlib
      subst hlib
      -- what the runtime exports is not asked of the array
      show (OpenLibrary.resolve ⟨listing.library.toLibrary, primaryPath⟩ n).or
        (fallback.resolve n) = _
      rw [resolve_listing, resolve_fallback hpath hload hread]
      unfold hit?
      simp only [hprimary, hlisting, Option.bind_eq_bind, Option.bind_some, if_true]
      cases listing.symbol? n.text <;> rfl

/-- The source of a lookup resolves every name as the script lists it, or not at all. -/
theorem resolve_source (platform : Platform) (config : Config) (fs : FileSystem)
    (n : SymbolName) :
    let lookup := (SystemLookup.establish platform config (scene.script.toLoader fs)).1
    lookup.state.source.resolve n =
      if lookup.isDegraded then none else scene.hit? platform config fs n.text := by
  have hcourse := Setup.course platform config (scene.script.toLoader fs)
  unfold SystemLookup.establish
  dsimp only
  generalize Setup.build platform config (scene.script.toLoader fs) = attempt at hcourse ⊢
  obtain ⟨actions, halt | lookup⟩ := attempt
  · rfl
  · exact resolve_of_course hcourse n

end Scene

/-- A lookup over a script resolves a text to what the script says of it. -/
theorem Scene.resolve_establish (scene : Scene) (platform : Platform) (config : Config)
    (fs : FileSystem) (name : String) :
    let lookup := (SystemLookup.establish platform config (scene.script.toLoader fs)).1
    lookup.resolve name = scene.answer platform config fs lookup.isDegraded name := by
  intro lookup
  unfold answer
  by_cases hempty : name = ""
  · subst hempty
    exact SystemLookup.resolve_eq_error_iff.mpr rfl
  · rw [if_neg hempty]
    by_cases hnul : 0 ∈ Utf8.encode name
    · rw [if_pos hnul]
      exact SystemLookup.resolve_eq_error_iff.mpr (SymbolName.ofString_of_zero_mem hnul)
    · rw [if_neg hnul]
      obtain ⟨n, rfl⟩ := SymbolName.exists_text_eq hempty hnul
      rw [SystemLookup.resolve_text]
      exact congrArg Except.ok (resolve_source platform config fs n)

/--
**Every text resolves to what the script says of it.**

The answer is read off the lists of the script. No other export of the helper
behind a runtime stands in it, no export of the runtime that was not selected,
and no line whose name is spelled in another way.
-/
theorem Session.establish_resolve (s : Session) (scene : Scene) (platform : Platform)
    (config : Config) (name : String) :
    let lookup := (s.establish platform config scene.script.toLoader).1
    let answer :=
      scene.answer platform config (s.filesSeen platform config) lookup.isDegraded name
    lookup.resolve name = answer ∧
      lookup.find name = answer.map (Option.map Resolution.symbol) := by
  intro lookup answer
  have hresolve : lookup.resolve name = answer :=
    scene.resolve_establish platform config (s.filesSeen platform config) name
  exact ⟨hresolve, by rw [SystemLookup.find_eq, hresolve]⟩

end Linkage
