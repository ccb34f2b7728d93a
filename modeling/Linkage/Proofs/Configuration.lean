import Linkage.Proofs.FileName
import Linkage.Proofs.Setup

/-!
# What a configuration is made from, and where it leads

Five variables make a configuration, and each of them only by a value that is not
empty. For the three paths this is how they are read. For the two words it is so
because an empty word means what is the default anyway. So a configuration is the
same for all variables with the same such values (`ofVariables_congr`), which
covers variables that are not among the five and variables that are emptied.

What is changed afterwards is one path at a time, and the last change of a path is
the one that counts. Where the helper library is follows from the paths alone,
however a configuration has come by them.
-/

namespace Linkage

namespace Config

/-! ## The variables -/

/-- The value of a variable that is set, and not to the empty one. -/
def valueIn (vars : Variables) (name : String) : Option Bytes := (vars name).filter (· ≠ [])

/-- An emptied variable has no more value than an unset one. -/
theorem valueIn_congr {vars vars' : Variables} {name : String}
    (h : vars' name = vars name ∨ vars name = some [] ∧ vars' name = none) :
    valueIn vars' name = valueIn vars name := by
  unfold valueIn
  rcases h with hsame | ⟨hempty, hunset⟩
  · rw [hsame]
  · rw [hempty, hunset]
    rfl

/-- A word whose default is what the empty word means is told by a value that is not empty. -/
theorem getD_map_eq {α : Type} (vars : Variables) (name : String) (word : Bytes → α) :
    ((vars name).map word).getD (word []) = ((valueIn vars name).map word).getD (word []) := by
  unfold valueIn
  cases vars name with
  | none => rfl
  | some value =>
      cases value with
      | nil => rfl
      | cons b rest => rfl

theorem ofVariables_eq (vars : Variables) :
    ofVariables vars =
      { systemRoot := (valueIn vars systemRootVariable).map Path.mk
        installRoot := (valueIn vars installRootVariable).map Path.mk
        libraryDir := (valueIn vars libraryDirVariable).map Path.mk
        logTarget := ((valueIn vars logTargetVariable).map
          fun v => Log.Target.ofText (Utf8.lossy v)).getD .off
        logLevel := ((valueIn vars logLevelVariable).map
          fun v => Log.Level.ofText (Utf8.lossy v)).getD .info } := by
  have htarget : Log.Target.ofText (Utf8.lossy []) = .off := by decide
  have hlevel : Log.Level.ofText (Utf8.lossy []) = .info := by decide
  unfold ofVariables
  rw [← htarget, ← hlevel, getD_map_eq vars logTargetVariable, getD_map_eq vars logLevelVariable]
  rfl

/-- **A configuration is made from the values of five variables that are not empty.** -/
theorem ofVariables_congr {vars vars' : Variables}
    (h : ∀ name ∈ variableNames, valueIn vars' name = valueIn vars name) :
    ofVariables vars' = ofVariables vars := by
  rw [ofVariables_eq, ofVariables_eq, h systemRootVariable (by decide),
    h installRootVariable (by decide), h libraryDirVariable (by decide),
    h logTargetVariable (by decide), h logLevelVariable (by decide)]

theorem pathIn_eq_some_iff {vars : Variables} {name : String} {p : Path} :
    pathIn vars name = some p ↔ p.bytes ≠ [] ∧ vars name = some p.bytes := by
  unfold pathIn
  rw [Option.map_eq_some_iff]
  constructor
  · rintro ⟨value, hvalue, rfl⟩
    obtain ⟨hset, hne⟩ := Option.filter_eq_some_iff.mp hvalue
    exact ⟨of_decide_eq_true hne, hset⟩
  · rintro ⟨hne, hset⟩
    exact ⟨p.bytes, Option.filter_eq_some_iff.mpr ⟨hset, decide_eq_true hne⟩, rfl⟩

/-! ## The paths -/

/-- One of the paths that a configuration may have. -/
inductive Setting
  | systemRoot
  | installRoot
  | libraryDir
  deriving DecidableEq

/-- The variable that holds a path. -/
def Setting.variableName : Setting → String
  | .systemRoot => "SystemRoot"
  | .installRoot => "SYSLOOKUP_HOME"
  | .libraryDir => "SYSLOOKUP_LIBRARY_DIR"

/-- A path of a configuration. -/
def pathOf (c : Config) : Setting → Option Path
  | .systemRoot => c.systemRoot
  | .installRoot => c.installRoot
  | .libraryDir => c.libraryDir

/-- The configuration with another path. -/
def withPath (c : Config) : Setting → Path → Config
  | .systemRoot => c.withSystemRoot
  | .installRoot => c.withInstallRoot
  | .libraryDir => c.withLibraryDir

/-- The configuration after some changes of paths, one after the other. -/
def adjust (c : Config) (changes : List (Setting × Path)) : Config :=
  changes.foldl (fun c change => c.withPath change.1 change.2) c

/-- **A path is there if its variable is not empty, and then it is the variable's value.** -/
theorem pathOf_ofVariables_iff {vars : Variables} {s : Setting} {p : Path} :
    (ofVariables vars).pathOf s = some p ↔ p.bytes ≠ [] ∧ vars s.variableName = some p.bytes := by
  cases s
  all_goals exact pathIn_eq_some_iff

/-- A change is a change of one path. -/
theorem pathOf_withPath (c : Config) (s t : Setting) (p : Path) :
    (c.withPath t p).pathOf s = if s = t then some p else c.pathOf s := by
  cases t
  all_goals
    cases s
    all_goals rfl

/-- **The last change of a path counts, and without one the path is what it was.** -/
theorem pathOf_adjust (c : Config) (changes : List (Setting × Path)) (s : Setting) :
    (c.adjust changes).pathOf s = (changes.reverse.lookup s).or (c.pathOf s) := by
  induction changes generalizing c with
  | nil => rfl
  | cons change changes ih =>
      obtain ⟨t, p⟩ := change
      show ((c.withPath t p).adjust changes).pathOf s = _
      rw [ih, pathOf_withPath, List.reverse_cons, List.lookup_append, Option.or_assoc]
      by_cases h : s = t
      · rw [h, if_pos rfl, List.lookup_cons_self, Option.some_or]
      · rw [if_neg h, List.lookup_cons, beq_false_of_ne h]
        rfl

/-- Changes of paths leave the log where it is. -/
theorem log_adjust (c : Config) (changes : List (Setting × Path)) :
    (c.adjust changes).logTarget = c.logTarget ∧ (c.adjust changes).logLevel = c.logLevel := by
  induction changes generalizing c with
  | nil => exact ⟨rfl, rfl⟩
  | cons change changes ih =>
      obtain ⟨t, p⟩ := change
      have hstep : (c.withPath t p).logTarget = c.logTarget ∧
          (c.withPath t p).logLevel = c.logLevel := by
        cases t
        all_goals exact ⟨rfl, rfl⟩
      rw [← hstep.1, ← hstep.2]
      exact ih (c.withPath t p)

/-! ## The helper library -/

/-- The file of the helper library on a platform. -/
def helperFileName : Platform → String
  | .windows => "syslookup.dll"
  | .posix => "libsyslookup.so"

/-- Where an installation has its libraries on a platform. -/
def helperSubdir : Platform → String
  | .windows => "bin"
  | .posix => "lib"

theorem libraryFile_helperName (platform : Platform) :
    Layout.libraryFile platform Layout.helperName = helperFileName platform := by
  cases platform with
  | windows => decide
  | posix => decide

theorem librarySubdir_eq (platform : Platform) :
    Layout.librarySubdir platform = helperSubdir platform := by
  cases platform with
  | windows => rfl
  | posix => rfl

variable {c : Config} {platform : Platform}

theorem helperDir_of_libraryDir {dir : Path} (h : c.libraryDir = some dir) :
    c.helperDir platform = .ok dir := by
  rw [helperDir, h]

theorem helperDir_of_installRoot {root : Path} (hdir : c.libraryDir = none)
    (hroot : c.installRoot = some root) :
    c.helperDir platform = .ok (root.join (.ofString (helperSubdir platform))) := by
  rw [helperDir, hdir, hroot, ← librarySubdir_eq]
  rfl

theorem helperDir_of_none (hdir : c.libraryDir = none) (hroot : c.installRoot = none) :
    c.helperDir platform = .error .libraryDirUnknown := by
  rw [helperDir, hdir, hroot]

theorem exists_helperDir_iff :
    (∃ dir, c.helperDir platform = .ok dir) ↔ c.libraryDir.isSome ∨ c.installRoot.isSome := by
  cases hdir : c.libraryDir with
  | some dir => simp [helperDir_of_libraryDir hdir]
  | none =>
      cases hroot : c.installRoot with
      | some root => simp [helperDir_of_installRoot hdir hroot]
      | none => simp [helperDir_of_none hdir hroot]

/-- The helper library is the file of its name in the helper's directory. -/
theorem helperPath_eq_map :
    c.helperPath platform =
      (c.helperDir platform).map (·.join (.ofString (helperFileName platform))) := by
  rw [← libraryFile_helperName]
  rfl

theorem exists_helperPath_iff :
    (∃ path, c.helperPath platform = .ok path) ↔ ∃ dir, c.helperDir platform = .ok dir := by
  rw [helperPath_eq_map]
  cases c.helperDir platform with
  | ok dir => simp [Except.map]
  | error e => simp [Except.map]

/--
Where a configuration leads on a platform: to the helper library in its own directory, or else to
the one in its installation, and to its system root.
-/
structure Leads (c : Config) (platform : Platform) : Prop where
  helperPath_ok_iff :
    (∃ path, c.helperPath platform = .ok path) ↔ c.libraryDir.isSome ∨ c.installRoot.isSome
  of_libraryDir : ∀ dir, c.libraryDir = some dir → ∀ root,
    { c with installRoot := root }.helperPath platform =
      .ok (dir.join (.ofString (helperFileName platform)))
  of_installRoot : ∀ root, c.libraryDir = none → c.installRoot = some root →
    c.helperPath platform =
      .ok ((root.join (.ofString (helperSubdir platform))).join
        (.ofString (helperFileName platform)))
  helperDir_ok_iff :
    (∃ dir, c.helperDir platform = .ok dir) ↔ ∃ path, c.helperPath platform = .ok path
  components_helperPath : ∀ path, c.helperPath platform = .ok path →
    ∃ dir, c.helperDir platform = .ok dir ∧
      path.components = dir.components ++ [.name (Utf8.encode (helperFileName platform))]
  requireSystemRoot_ok_iff : ∀ root, c.requireSystemRoot = .ok root ↔ c.systemRoot = some root
  requireSystemRoot_error_iff : (∃ e, c.requireSystemRoot = .error e) ↔ c.systemRoot = none

theorem leads (c : Config) (platform : Platform) : c.Leads platform where
  helperPath_ok_iff := exists_helperPath_iff.trans exists_helperDir_iff
  of_libraryDir dir hdir root := by
    rw [helperPath_eq_map, helperDir_of_libraryDir (c := { c with installRoot := root }) hdir]
    rfl
  of_installRoot root hdir hroot := by
    rw [helperPath_eq_map, helperDir_of_installRoot hdir hroot]
    rfl
  helperDir_ok_iff := exists_helperPath_iff.symm
  components_helperPath path hpath := by
    obtain ⟨dir, hdir⟩ := exists_helperPath_iff.mp ⟨path, hpath⟩
    rw [helperPath_eq_map, hdir] at hpath
    obtain rfl := Except.ok.inj hpath
    refine ⟨dir, hdir, ?_⟩
    have hname := Layout.isEntryName_helperFile platform
    rw [libraryFile_helperName] at hname
    exact Path.components_child dir hname
  requireSystemRoot_ok_iff root := by
    unfold requireSystemRoot
    cases c.systemRoot with
    | some _ => simp
    | none => simp
  requireSystemRoot_error_iff := by
    unfold requireSystemRoot
    cases c.systemRoot with
    | some _ => simp
    | none => simp

/--
**A configuration is what its variables say, and leads where its paths say.**

It depends on five variables only, and emptying one is unsetting it. A path is there if its
variable is not empty, octet for octet as it stands there. Changes afterwards put the last path
given in the place of the variable's, and nothing else. And whatever paths there are in the end,
they alone tell where the helper library and the system root are.
-/
theorem ofVariables_leads (vars : Variables) :
    (∀ vars' : Variables,
      (∀ name ∈ ["SystemRoot", "SYSLOOKUP_HOME", "SYSLOOKUP_LIBRARY_DIR", "SYSLOOKUP_LOG",
        "SYSLOOKUP_LOG_LEVEL"], vars' name = vars name) →
      ofVariables vars' = ofVariables vars) ∧
    (∀ vars' : Variables,
      (∀ name, vars' name = vars name ∨ vars name = some [] ∧ vars' name = none) →
      ofVariables vars' = ofVariables vars) ∧
    (∀ s p, (ofVariables vars).pathOf s = some p ↔
      p.bytes ≠ [] ∧ vars s.variableName = some p.bytes) ∧
    ∀ (changes : List (Setting × Path)) (platform : Platform),
      let c := (ofVariables vars).adjust changes
      (∀ s, c.pathOf s = (changes.reverse.lookup s).or ((ofVariables vars).pathOf s)) ∧
        (c.logTarget = (ofVariables vars).logTarget ∧ c.logLevel = (ofVariables vars).logLevel) ∧
        c.Leads platform := by
  refine ⟨fun vars' h => ofVariables_congr fun name hname => ?_,
    fun vars' h => ofVariables_congr fun name _ => valueIn_congr (h name),
    fun s p => pathOf_ofVariables_iff, fun changes platform => ⟨fun s => pathOf_adjust _ changes s,
      log_adjust _ changes, leads _ platform⟩⟩
  exact valueIn_congr (.inl (h name hname))

/-- A home that is no text, an emptied log variable, and a directory given twice. -/
theorem ofVariables_leads_override :
    let home : Bytes := [0x2F, 0x6F, 0xFF]
    let vars : Variables := fun name =>
      if name = "SYSLOOKUP_HOME" then some home
      else if name = "SYSLOOKUP_LOG" then some []
      else none
    let unset : Variables := fun name => if name = "SYSLOOKUP_HOME" then some home else none
    let changes : List (Setting × Path) :=
      [(.libraryDir, .ofString "/usr"), (.libraryDir, .ofString "/srv/")]
    ofVariables unset = ofVariables vars ∧
      (ofVariables vars).installRoot = some ⟨home⟩ ∧
      (ofVariables vars).helperPath .windows =
        .ok ⟨home ++ Utf8.encode "/bin/syslookup.dll"⟩ ∧
      ((ofVariables vars).adjust changes).helperPath .posix =
        .ok (.ofString "/srv/libsyslookup.so") := by
  intro home vars unset changes
  obtain ⟨-, hunset, hpath, hchanged⟩ := ofVariables_leads vars
  have hroot : (ofVariables vars).installRoot = some ⟨home⟩ :=
    (hpath .installRoot ⟨home⟩).mpr ⟨by decide, rfl⟩
  obtain ⟨-, -, hplain⟩ := hchanged [] .windows
  obtain ⟨hlast, -, hleads⟩ := hchanged changes .posix
  refine ⟨hunset unset fun name => ?_, hroot, ?_, ?_⟩
  · by_cases hlog : name = "SYSLOOKUP_LOG"
    · subst hlog
      exact .inr ⟨rfl, rfl⟩
    · left
      simp only [unset, vars, if_neg hlog]
  · exact hplain.of_installRoot ⟨home⟩ rfl hroot
  · exact hleads.of_libraryDir (.ofString "/srv/") (hlast .libraryDir) _

end Config

end Linkage
