import Linkage.Proofs.FileName
import Linkage.Proofs.SideBySide
import Linkage.Proofs.Session
import Linkage.Scripted.Fixture

/-!
# The spelling of a directory does not matter

A directory in a configuration may be written with separators twice, with one at
its end, or with dots inside. The files that are made of it are then spelled
differently too, and a script knows its libraries and its mishaps by components.
So two spellings of the same directories lead to set-ups that go alike: paths
stand for each other if they have the same components.

What is reported keeps the spelling it was given, and there the two differ.
-/

namespace Linkage

open Linkage.Path (SameFile)

/-- Two configurations have the same directories, in any spelling. -/
structure Config.SameDirectories (c c' : Config) : Prop where
  systemRoot : Option.Rel SameFile c.systemRoot c'.systemRoot
  installRoot : Option.Rel SameFile c.installRoot c'.installRoot
  libraryDir : Option.Rel SameFile c.libraryDir c'.libraryDir

/-! ## The files of a configuration -/

theorem Layout.sameFile_system32 {root root' : Path} (h : root.SameFile root') :
    (system32 root).SameFile (system32 root') :=
  h.child isEntryName_system32

theorem Layout.sameFile_helperLibrary (platform : Platform) {dir dir' : Path}
    (h : dir.SameFile dir') : (helperLibrary platform dir).SameFile (helperLibrary platform dir') :=
  h.child (isEntryName_helperFile platform)

theorem Layout.sameFile_libraryDir (platform : Platform) {root root' : Path}
    (h : root.SameFile root') : (libraryDir platform root).SameFile (libraryDir platform root') :=
  h.child (isEntryName_librarySubdir platform)

namespace Config.SameDirectories

variable {c c' : Config}

/-- The directory of the helper is the same one, whether it is configured or in the installation. -/
theorem sameFile_helperFile? (h : c.SameDirectories c') (platform : Platform) :
    Option.Rel SameFile (c.helperFile? platform) (c'.helperFile? platform) := by
  have hinstall := h.installRoot
  have hdir := h.libraryDir
  unfold helperFile?
  -- both name a directory of the helper, or both leave it to the installation
  generalize c.installRoot = installRoot, c.libraryDir = libraryDir at hinstall hdir ⊢
  generalize c'.installRoot = installRoot', c'.libraryDir = libraryDir' at hinstall hdir ⊢
  cases hdir with
  | some hsame => exact .some (Layout.sameFile_helperLibrary platform hsame)
  | none =>
      cases hinstall with
      | none => exact .none
      | some hsame =>
          exact .some
            (Layout.sameFile_helperLibrary platform (Layout.sameFile_libraryDir platform hsame))

theorem alike (h : c.SameDirectories c') (platform : Platform) : c.Alike SameFile platform c' where
  helperFile? := h.sameFile_helperFile? platform
  systemRoot _ := by
    have hroot := h.systemRoot
    generalize c.systemRoot = root? at hroot ⊢
    generalize c'.systemRoot = root?' at hroot ⊢
    cases hroot with
    | none => exact .none
    | some hsame =>
        have hsystem := Layout.sameFile_system32 hsame
        exact .some ⟨hsystem.child Layout.isEntryName_universalRuntime,
          hsystem.child Layout.isEntryName_legacyRuntime⟩

end Config.SameDirectories

/-! ## A script answers by components -/

theorem Path.SameFile.iff_right {p q : Path} (h : p.SameFile q) (other : Path) :
    other.SameFile p ↔ other.SameFile q := by
  unfold SameFile
  rw [show p.components = q.components from h]

theorem ScriptedLoader.library?_eq (l : ScriptedLoader) {p q : Path} (h : p.SameFile q) :
    l.library? p = l.library? q := by
  unfold library?
  simp only [h.iff_right]

namespace Script

variable (script : Script)

theorem mishap?_eq (occasion : Scripted.Occasion) {p q : Path} (h : p.SameFile q) :
    script.mishap? occasion p = script.mishap? occasion q := by
  unfold mishap? Scripted.Rule.applies
  simp only [h.iff_right]

/-- A script that asks no file system answers alike for every spelling of a path. -/
theorem alike_toLoader (hscript : script.checksFiles = false) (fs fs' : FileSystem) :
    (script.toLoader fs).Alike SameFile SameFile (script.toLoader fs') where
  asked _ _ h := h
  fileExists p q h := by
    simp only [toLoader, hscript, Bool.false_eq_true, if_false, script.mishap?_eq .check h,
      ScriptedLoader.toLoader, script.loader.library?_eq h]
  load p q h := by
    simp only [toLoader, script.mishap?_eq .load h, ScriptedLoader.toLoader,
      script.loader.library?_eq h]
    cases script.mishap? .load q with
    | some mishap =>
        cases mishap with
        | refusal reason => exact .halted (.failed (.load reason h))
        | breakdown crash => exact .halted (.crashed crash)
    | none =>
        cases script.loader.library? q with
        | some library => exact .ok rfl
        | none => exact .halted (.failed (.load _ h))

/-- Loads that are alike are recorded alike, for they meet the same mishaps. -/
theorem sameFile_record {actions actions' : List Action}
    (h : List.Forall₂ (Action.Alike SameFile) actions actions') :
    List.Forall₂ SameFile (script.record actions) (script.record actions') := by
  refine List.rel_filter (fun p q hsame => ?_) (List.rel_filterMap (fun _ _ ha => ha.load?) h)
  show (script.mishap? .load p).isNone = true ↔ (script.mishap? .load q).isNone = true
  rw [script.mishap?_eq .load hsame]

end Script

/--
**How directories are spelled does not matter.**

Two configurations with the same directories make two set-ups over a script that
both work, on the same runtime, or both stop for causes that are the same but for
the spelling of paths. They resolve every name alike, and load the same files in
the same order. Neither the logs of the two nor anything else in their sessions
makes a difference.
-/
theorem Session.establish_of_sameDirectories (s s' : Session) (platform : Platform)
    {config config' : Config} (hdirs : config.SameDirectories config') (script : Script)
    (hscript : script.checksFiles = false) :
    let lookup := (s.establish platform config script.toLoader).1
    let lookup' := (s'.establish platform config' script.toLoader).1
    let record := script.record (s.establish platform config script.toLoader).2.1
    let record' := script.record (s'.establish platform config' script.toLoader).2.1
    ((∃ ready ready', lookup.state = .ready ready ∧ lookup'.state = .ready ready' ∧
        ready.runtime = ready'.runtime) ∨
      ∃ cause cause', lookup.state = .degraded cause ∧ lookup'.state = .degraded cause' ∧
        InitError.Alike SameFile cause cause') ∧
    (∀ name, lookup.resolve name = lookup'.resolve name) ∧
    List.Forall₂ SameFile record record' := by
  intro lookup lookup' record record'
  -- the files that the two loaders see may differ, but the script looks at neither
  obtain ⟨hstate, hactions⟩ := SystemLookup.alike_establish
    (script.alike_toLoader hscript (s.filesSeen platform config) (s'.filesSeen platform config'))
    (hdirs.alike platform)
  refine ⟨?_, fun name => SystemLookup.resolve_eq_of_alike hstate name,
    script.sameFile_record hactions⟩
  change LookupState.Alike SameFile lookup.state lookup'.state at hstate
  generalize lookup.state = state, lookup'.state = state' at hstate
  cases hstate with
  | ready hready => exact .inl ⟨_, _, rfl, rfl, hready.runtime_eq⟩
  | degraded hcause => exact .inr ⟨_, _, rfl, rfl, hcause⟩

/--
The fixture loads its two libraries from the same places when its directories are spelled with
separators and dots to spare.
-/
theorem Session.establish_of_sameDirectories_fixture :
    let spare : Config :=
      { systemRoot := some (.ofString "C://Windows/./")
        installRoot := some (.ofString "//opt/./app//") }
    let script : Script := { loader := Scripted.Fixture.loader }
    let loads (config : Config) : List Path :=
      script.record (({} : Session).establish .windows config script.toLoader).2.1
    Scripted.Fixture.config.SameDirectories spare ∧ script.checksFiles = false ∧
      List.Forall₂ SameFile (loads Scripted.Fixture.config) (loads spare) ∧
      loads spare = [.ofString "C://Windows/./System32/ucrtbase.dll",
        .ofString "//opt/./app//bin/syslookup.dll"] := by
  intro spare script loads
  have hdirs : Scripted.Fixture.config.SameDirectories spare :=
    ⟨.some (by decide), .some (by decide), .none⟩
  obtain ⟨-, -, hloads⟩ := Session.establish_of_sameDirectories {} {} .windows hdirs script rfl
  exact ⟨hdirs, rfl, hloads, by decide⟩

end Linkage
