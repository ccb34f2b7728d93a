import Linkage.CommandLine.Run
import Linkage.Proofs.FileAccess
import Linkage.Proofs.Probe
import Linkage.Proofs.ReportText

/-!
# The outcome of a probe

A probe is carried out in three steps that know nothing of each other: a report is made,
it is handed over, and then a verdict is given. So the report is in its place in any case,
complete and with all names, when the verdict turns out badly (`perform_probe`). That it is
the report is said of the text that was handed over, which reads back as the entries.

Two numbers are told with a bad verdict. The entries of the report are as many as the names,
and those that are found are no more than that, so the difference of the two counts is the
count of the names that the lookup does not find.
-/

namespace Linkage

/-! ## Counting -/

theorem ProbeEntry.name_ofResult (name : String)
    (answer : Except NameError (Option Resolution)) : (ofResult name answer).name = name := by
  cases answer with
  | error fault => rfl
  | ok answer => cases answer <;> rfl

namespace ProbeReport

variable (l : SystemLookup) (names : List String)

/-- The names of a probe are those that are found and those that are missing. -/
theorem found_add_missing :
    (ofLookup l names).found + names.countP (fun name => !l.finds name) = names.length := by
  rw [found_ofLookup, List.length_eq_countP_add_countP l.finds]
  simp

/-- There is an entry for each name, in the order of the names. -/
theorem names_ofLookup : (ofLookup l names).results.map (·.name) = names := by
  unfold ofLookup
  rw [List.map_map]
  have hname : ∀ name ∈ names, (ProbeEntry.ofResult name (l.resolve name)).name = name :=
    fun name _ => ProbeEntry.name_ofResult name _
  exact (List.map_congr_left hname).trans (List.map_id names)

end ProbeReport

namespace CommandLine

open Json (parse?)

/-! ## Handing a text over -/

/-- The file system with the directories above a path, and whether they could all be made. -/
def parentsMade (fs : FileSystem) (path : Path) : FileSystem × Except FileError Unit :=
  match path.parent? with
  | some parent => fs.makeDirectories parent
  | none => (fs, .ok ())

/--
An output can be written: it is the standard output, or a path that can be written when the
directories above it are made.
-/
def Deliverable (fs : FileSystem) : Option Path → Prop
  | none => True
  | some path => (parentsMade fs path).2 = .ok () ∧ (parentsMade fs path).1.Writable path

instance (fs : FileSystem) : (output : Option Path) → Decidable (Deliverable fs output)
  | none => .isTrue trivial
  | some path =>
    inferInstanceAs
      (Decidable ((parentsMade fs path).2 = .ok () ∧ (parentsMade fs path).1.Writable path))

/-- A text was written to a file. -/
structure FileWritten (before after : Session) (path : Path) (text : String) : Prop where
  /-- The file holds the text and nothing else, unless the path leads to a device. -/
  content : after.files.stat path = .ok (.file (Utf8.encode text)) ∨
    ∃ kind, kind ≠ .full ∧ after.files.stat path = .ok (.device kind)
  parent : ∀ parent, path.parent? = some parent →
    parent.bytes = [] ∨ after.files.isDirectory parent = true
  /-- Besides that, only directories were made. -/
  elsewhere : ∃ at_, after.files.Leads path at_ ∧ ∀ other, other ≠ at_ →
    after.files.look other = before.files.look other ∨
      before.files.look other = none ∧ after.files.look other = some .directory
  /-- The streams are as they were, but for a note. -/
  noted : after = { before with
    log.outputs.files := after.files
    log.outputs.stderr := before.log.outputs.stderr ++ ("Wrote " ++ path.display ++ "\n") }

/-- A text was handed over. -/
inductive HandedOver (before : Session) (text : String) : Option Path → Session → Prop
  | stdout : HandedOver before text none { before with
      log.outputs.stdout := before.log.outputs.stdout ++ (text ++ "\n") }
  | file {path : Path} {after : Session} (written : FileWritten before after path text) :
      HandedOver before text (some path) after

variable {s : Session} {path : Path}

theorem parentsMade_spec (fs : FileSystem) (path : Path) :
    fs.MadeDirectories (parentsMade fs path).1 ∧
      ((parentsMade fs path).2 = .ok () → ∀ parent, path.parent? = some parent →
        parent.bytes = [] ∨ (parentsMade fs path).1.isDirectory parent = true) := by
  unfold parentsMade
  cases hparent : path.parent? with
  | none => exact ⟨.refl fs, fun _ _ h => by cases h⟩
  | some parent =>
      obtain ⟨hmade, hthere⟩ :=
        FileSystem.makeDirectoriesUpTo_spec (parent.bytes.length + 1) fs parent
      refine ⟨hmade, fun hok _ h => ?_⟩
      cases h
      exact hthere hok

/-- Nothing is written where a directory could not be made. -/
theorem writeFile_eq (s : Session) (path : Path) (text : String) :
    writeFile s path text =
      match (parentsMade s.files path).2,
        (parentsMade s.files path).1.write path (Utf8.encode text) with
      | .error e, _ => (setFiles s (parentsMade s.files path).1, .error (.io e))
      | .ok (), .error e => (setFiles s (parentsMade s.files path).1, .error (.io e))
      | .ok (), .ok files => (setFiles s files, .ok ()) := rfl

/-- **What can be handed over is handed over.** -/
theorem deliver_of_deliverable {output : Option Path} (h : Deliverable s.files output)
    (text : String) :
    ∃ after, deliver s text output = (after, .ok ()) ∧ HandedOver s text output after := by
  cases output with
  | none => exact ⟨_, rfl, .stdout⟩
  | some path =>
      obtain ⟨hok, hwritable⟩ := h
      obtain ⟨hmade, hparent⟩ := parentsMade_spec s.files path
      obtain ⟨files, hwrite, hreplaced⟩ := hwritable.write (Utf8.encode text)
      have hdeliver : deliver s text (some path) =
          (print (setFiles s files) .stderr ("Wrote " ++ path.display ++ "\n"), .ok ()) := by
        simp only [deliver, writeFile_eq, hok, hwrite]
      refine ⟨_, hdeliver, .file ?_⟩
      refine ⟨?_, fun parent h => ?_, ?_, rfl⟩
      · rcases hreplaced.here with hfile | ⟨hsame, kind, hkind, hdevice⟩
        · exact .inl hfile
        · refine .inr ⟨kind, hkind, ?_⟩
          rw [← hsame] at hdevice
          exact hdevice
      · exact (hparent hok parent h).imp_right hreplaced.grown.isDirectory
      · obtain ⟨at_, hleads, helsewhere⟩ := hreplaced.elsewhere
        refine ⟨at_, hreplaced.grown.leads hleads, fun other hne => ?_⟩
        show files.look other = _ ∨ _ ∧ files.look other = _
        rw [helsewhere other hne]
        exact hmade.look other

/-- What cannot be handed over leaves no more behind than some of the directories above it. -/
theorem deliver_of_not_deliverable {output : Option Path} (h : ¬ Deliverable s.files output)
    (text : String) :
    ∃ e files, deliver s text output = (setFiles s files, .error (.io e)) ∧
      s.files.MadeDirectories files := by
  cases output with
  | none => exact absurd trivial h
  | some path =>
      obtain ⟨hmade, -⟩ := parentsMade_spec s.files path
      cases hok : (parentsMade s.files path).2 with
      | error e => exact ⟨e, _, by simp only [deliver, writeFile_eq, hok], hmade⟩
      | ok u =>
          cases hwrite : (parentsMade s.files path).1.write path (Utf8.encode text) with
          | error e => exact ⟨e, _, by simp only [deliver, writeFile_eq, hok, hwrite], hmade⟩
          | ok files =>
              exact absurd ⟨hok, FileSystem.isOk_write_iff.mp (by rw [hwrite]; rfl)⟩ h

/-! ## The verdict -/

/-- How many of some names a lookup does not find. -/
def missingCount (l : SystemLookup) (names : List String) : Nat :=
  names.countP fun name => !l.finds name

theorem missingCount_ne_zero_iff {l : SystemLookup} {names : List String} :
    missingCount l names ≠ 0 ↔ ∃ name ∈ names, l.finds name = false := by
  rw [← Nat.pos_iff_ne_zero, missingCount, List.countP_pos_iff]
  simp

/-- What can come of a probe. -/
inductive ProbeOutcome (s : Session) (l : SystemLookup) (names : List String) (requireAll : Bool)
    (output : Option Path) : Result → Prop
  | unwritten {e : FileError} {files : FileSystem}
      (undeliverable : ¬ Deliverable s.files output) (made : s.files.MadeDirectories files) :
      ProbeOutcome s l names requireAll output (setFiles s files, .error (.io e))
  | unresolved {after : Session} (deliverable : Deliverable s.files output)
      (handed : HandedOver s (ProbeReport.ofLookup l names).text output after)
      (required : requireAll = true) (incomplete : missingCount l names ≠ 0) :
      ProbeOutcome s l names requireAll output
        (after, .error (.unresolved (missingCount l names) names.length))
  | succeeded {after : Session} (deliverable : Deliverable s.files output)
      (handed : HandedOver s (ProbeReport.ofLookup l names).text output after)
      (good : requireAll = true → missingCount l names = 0) :
      ProbeOutcome s l names requireAll output (after, .ok ())

/-- **The verdict comes behind the delivery**, and only where that succeeded. -/
theorem outcome_deliverProbe (s : Session) (l : SystemLookup) (names : List String)
    (requireAll : Bool) (output : Option Path) :
    ProbeOutcome s l names requireAll output
      (deliverProbe s (.ofLookup l names) requireAll output) := by
  have hlength : (ProbeReport.ofLookup l names).results.length = names.length :=
    List.length_map _
  have hsum : (ProbeReport.ofLookup l names).found + missingCount l names = names.length :=
    ProbeReport.found_add_missing l names
  -- the subtraction gives the count of the others
  have hmissing : names.length - (ProbeReport.ofLookup l names).found =
      missingCount l names := by omega
  have hverdict : (ProbeReport.ofLookup l names).found ≠ names.length ↔
      missingCount l names ≠ 0 := by omega
  by_cases hdeliverable : Deliverable s.files output
  · obtain ⟨after, hdeliver, hhanded⟩ :=
      deliver_of_deliverable hdeliverable (ProbeReport.ofLookup l names).text
    simp only [deliverProbe, hdeliver, hlength, hmissing, hverdict]
    split
    · rename_i h
      exact .unresolved hdeliverable hhanded h.1 h.2
    · rename_i h
      refine .succeeded hdeliverable hhanded fun hrequired => ?_
      by_contra hne
      exact h ⟨hrequired, hne⟩
  · obtain ⟨e, files, hdeliver, hmade⟩ :=
      deliver_of_not_deliverable hdeliverable (ProbeReport.ofLookup l names).text
    simp only [deliverProbe, hdeliver]
    exact .unwritten hdeliverable hmade

/--
**A probe delivers its report before it gives its verdict.**

The report has an entry for each name, in order, which says what the lookup says of the name, and
its text reads back as the report. If the output can be written, all of that text is in the output
file, or on the standard output with a line break behind it, whatever the verdict is. If not, the
command fails with an error of the file system and has made directories at most.

The command fails exactly if the output cannot be written, or all names are required and the lookup
does not find one of them. It then tells how many are missing and how many names there are; those
that are found and those that are missing make up all of them.
-/
theorem perform_probe (linker : Linker) (s : Session) (names : List String) (requireAll : Bool)
    (output : Option Path) :
    let l := (s.lookup linker).1
    let begun := (s.lookup linker).2
    let report := ProbeReport.ofLookup l names
    let missing := names.countP fun name => !l.finds name
    let after := (perform linker s (.probe names false requireAll output)).1
    let result := (perform linker s (.probe names false requireAll output)).2
    report.results.map (·.name) = names ∧
    (l.Reachable → List.Forall₂ (ProbeEntry.Agrees l) names report.results) ∧
    (parse? report.text).bind ProbeReport.ofJson? = some report ∧
    (Deliverable begun.files output → HandedOver begun report.text output after) ∧
    (¬ Deliverable begun.files output → ∃ e files, result = .error (.io e) ∧
      after = setFiles begun files ∧ begun.files.MadeDirectories files) ∧
    (result ≠ .ok () ↔ ¬ Deliverable begun.files output ∨
      requireAll = true ∧ ∃ name ∈ names, l.finds name = false) ∧
    (Deliverable begun.files output → ∀ failure, result = .error failure →
      failure = .unresolved missing names.length ∧ 0 < missing ∧
      failure.quoted = Quoted.text
        (Numeral.text missing ++ " of " ++ Numeral.text names.length ++ " symbols unresolved")) ∧
    (report.found = names.countP l.finds ∧ report.found + missing = names.length) := by
  intro l begun report missing
  have hperform : perform linker s (.probe names false requireAll output) =
      deliverProbe begun report requireAll output := rfl
  have hcounts : report.found = names.countP l.finds ∧ report.found + missing = names.length :=
    ⟨ProbeReport.found_ofLookup l names, ProbeReport.found_add_missing l names⟩
  have houtcome : ProbeOutcome begun l names requireAll output
      (deliverProbe begun report requireAll output) := outcome_deliverProbe ..
  rw [hperform]
  refine ⟨ProbeReport.names_ofLookup l names,
    fun h => ProbeReport.forall_agrees h names, report.read_text, ?_⟩
  generalize deliverProbe begun report requireAll output = r at houtcome ⊢
  cases houtcome with
  | @unwritten e files undeliverable made =>
      refine ⟨fun h => absurd h undeliverable, fun _ => ⟨e, files, rfl, rfl, made⟩, ?_,
        fun h => absurd h undeliverable, hcounts⟩
      simp [undeliverable]
  | unresolved deliverable handed required incomplete =>
      refine ⟨fun _ => handed, fun h => absurd deliverable h, ?_, fun _ failure h => ?_, hcounts⟩
      · simp [required, missingCount_ne_zero_iff.mp incomplete]
      · cases h
        exact ⟨rfl, Nat.pos_of_ne_zero incomplete, rfl⟩
  | succeeded deliverable handed good =>
      refine ⟨fun _ => handed, fun h => absurd deliverable h, ?_, fun _ failure h => (by cases h),
        hcounts⟩
      simp only [ne_eq, not_true_eq_false, deliverable, false_or, false_iff,
        ← missingCount_ne_zero_iff]
      exact fun h => h.2 (good h.1)

open Scripted in
/--
A process whose helper has no `fprintf` is asked for it, and for a name with a NUL in it. All names
are required, so the command fails, but its report is there, in a directory that was made for it,
and reads back.
-/
theorem perform_probe_fixture :
    let linker : Linker := {
      open_ := fun fs path =>
        if fs.isFile path then .ok Fixture.runtime.toLibrary
        else .error (some (Utf8.encode "cannot open shared object file"))
      process := .ok Fixture.runtime.toLibrary }
    let helper := Path.ofString "/opt/app/lib/libsyslookup.so"
    let s : Session := {
      executableRoot := some Fixture.installRoot
      log := { outputs := { files := FileSystem.empty.provide helper (Utf8.encode "\x7fELF") } } }
    let names := ["strlen", "fprintf", "a\x00"]
    let path := Path.ofString "out/report.json"
    Deliverable (s.lookup linker).2.files (some path) ∧
      ∃ after text, perform linker s (.probe names false true (some path)) =
          (after, .error (.unresolved 2 3)) ∧
        FileWritten (s.lookup linker).2 after path text ∧
        (parse? text).bind ProbeReport.ofJson? = some ⟨.system, [
          { name := "strlen", found := true, address := some "0x1000", origin := some "library" },
          { name := "fprintf" },
          { name := "a\x00", error := some "symbol name contains a NUL byte at offset 1" }]⟩ := by
  intro linker helper s names path
  have hdeliverable : Deliverable (s.lookup linker).2.files (some path) := by decide +kernel
  have hreport : ProbeReport.ofLookup (s.lookup linker).1 names = ⟨.system, [
      { name := "strlen", found := true, address := some "0x1000", origin := some "library" },
      { name := "fprintf" },
      { name := "a\x00", error := some "symbol name contains a NUL byte at offset 1" }]⟩ := by
    decide +kernel
  have hprobe := perform_probe linker s names true (some path)
  generalize hperform : perform linker s (.probe names false true (some path)) = r at hprobe ⊢
  obtain ⟨after, result⟩ := r
  obtain ⟨-, -, hread, hhanded, -, hfails, hfailure, -, hsum⟩ := hprobe
  have hfound : (ProbeReport.ofLookup (s.lookup linker).1 names).found = 1 := by
    rw [hreport]
    rfl
  have hmissing : missingCount (s.lookup linker).1 names = 2 := by
    rw [hfound] at hsum
    exact Nat.add_left_cancel hsum
  have hincomplete : missingCount (s.lookup linker).1 names ≠ 0 := by
    rw [hmissing]
    exact Nat.succ_ne_zero 1
  cases result with
  | ok u => exact absurd rfl (hfails.mpr (.inr ⟨rfl, missingCount_ne_zero_iff.mp hincomplete⟩))
  | error failure =>
      obtain ⟨rfl, -, -⟩ := hfailure hdeliverable failure rfl
      have hcount : (names.countP fun name => !(s.lookup linker).1.finds name) = 2 := hmissing
      rw [hcount]
      cases hhanded hdeliverable with
      | file written =>
          exact ⟨hdeliverable, after, _, rfl, written, hread.trans (congrArg some hreport)⟩

end CommandLine

end Linkage
