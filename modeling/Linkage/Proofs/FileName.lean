import Linkage.Layout

/-!
# Where a joined path leads

A directory can be spelled in many ways: empty, with separators or dots at its
end, or as the root. What a name behind it adds is always the same, one step with
that name. So the last step of a joined path tells the name that was joined, and
paths that were joined with different names never name the same file.
-/

namespace Linkage.Path

/-! ## Segments and steps -/

/-- An octet string that is one segment and describes a step to an entry. -/
structure IsEntryName (name : Bytes) : Prop where
  ne_nil : name ≠ []
  no_separator : separator ∉ name
  ne_dot : name ≠ dot
  ne_dotDot : name ≠ dotDot

/-- The steps that the segments of an octet string describe. -/
def stepsOf (b : Bytes) : List Component := ((segments b).filter isStep).map stepOf

theorem components_eq (p : Path) :
    p.components = (start p).1.components ++ stepsOf (start p).2 := rfl

theorem segments_ne_nil (b : Bytes) : segments b ≠ [] := by
  cases b with
  | nil => simp [segments]
  | cons o rest =>
      unfold segments
      split
      · simp
      · split <;> simp

/-- A separator ends a segment, whatever stands before it and behind it. -/
theorem segments_append_separator (a b : Bytes) :
    segments (a ++ separator :: b) = segments a ++ segments b := by
  induction a with
  | nil => simp [segments]
  | cons o rest ih =>
      by_cases ho : o = separator
      · simp [segments, ho, ih]
      · cases hrest : segments rest with
        | nil => exact absurd hrest (segments_ne_nil rest)
        | cons s more => simp [segments, ho, ih, hrest]

/-- An octet string without a separator is one segment. -/
theorem segments_of_notMem {b : Bytes} (h : separator ∉ b) : segments b = [b] := by
  induction b with
  | nil => rfl
  | cons o rest ih =>
      have ho : o ≠ separator := fun he => h (by simp [he])
      have hrest : separator ∉ rest := fun hm => h (List.mem_cons_of_mem o hm)
      simp [segments, ho, ih hrest]

theorem stepsOf_append_separator (a b : Bytes) :
    stepsOf (a ++ separator :: b) = stepsOf a ++ stepsOf b := by
  simp [stepsOf, segments_append_separator]

theorem stepsOf_entryName {name : Bytes} (h : IsEntryName name) : stepsOf name = [.name name] := by
  have hstep : isStep name = true := by simp [isStep, h.ne_nil, h.ne_dot]
  simp [stepsOf, segments_of_notMem h.no_separator, hstep, stepOf, h.ne_dotDot]

/-! ## What a path starts with -/

theorem start_entryName {name : Bytes} (h : IsEntryName name) :
    start ⟨name⟩ = (.relative, name) := by
  cases name with
  | nil => exact absurd rfl h.ne_nil
  | cons o rest =>
      have ho : o ≠ separator := fun he => h.no_separator (by simp [he])
      have hdot : ¬ (o = 0x2E ∧ (rest = [] ∨ rest.head? = some separator)) := by
        rintro ⟨rfl, rfl | hhead⟩
        · exact h.ne_dot rfl
        · exact h.no_separator (List.mem_cons_of_mem _ (List.mem_of_mem_head? hhead))
      unfold start
      dsimp only
      rw [if_neg ho, if_neg hdot]

/-- What stands behind a separator does not change what a path starts with. -/
theorem start_append_separator {b : Bytes} (hb : b ≠ []) (rest : Bytes) :
    start ⟨b ++ separator :: rest⟩ = ((start ⟨b⟩).1, (start ⟨b⟩).2 ++ separator :: rest) := by
  cases b with
  | nil => exact absurd rfl hb
  | cons o more =>
      -- behind a dot in front there is a separator now if there was nothing or one before
      have hhead : (more ++ separator :: rest = [] ∨
          (more ++ separator :: rest).head? = some separator) ↔
          (more = [] ∨ more.head? = some separator) := by
        cases more <;> simp
      unfold start
      simp only [List.cons_append, hhead]
      split
      · rfl
      · split <;> rfl

/-- The steps behind a separator come after the components in front of it. -/
theorem components_append_separator {b : Bytes} (hb : b ≠ []) (rest : Bytes) :
    components ⟨b ++ separator :: rest⟩ = components ⟨b⟩ ++ stepsOf rest := by
  simp [components_eq, start_append_separator hb, stepsOf_append_separator]

/-- A path that ends in a separator goes on with the steps of what is put behind it. -/
theorem components_append_of_separator (before rest : Bytes) :
    components ⟨before ++ separator :: rest⟩ =
      components ⟨before ++ [separator]⟩ ++ stepsOf rest := by
  by_cases hroot : before = []
  · subst hroot
    rfl
  · have hend : stepsOf [] = [] := rfl
    rw [components_append_separator hroot, components_append_separator hroot, hend,
      List.append_nil]

/-! ## Joining a name -/

theorem isAbsolute_entryName {name : Bytes} (h : IsEntryName name) :
    isAbsolute ⟨name⟩ = false := by
  have hhead : name.head? ≠ some separator := fun hh =>
    h.no_separator (List.mem_of_mem_head? hh)
  exact decide_eq_false hhead

/-- **A name behind a directory adds one step, however the directory is spelled.** -/
theorem components_join (p : Path) {name : Bytes} (h : IsEntryName name) :
    (p.join ⟨name⟩).components = p.components ++ [.name name] := by
  obtain ⟨bytes⟩ := p
  unfold join
  rw [isAbsolute_entryName h, if_neg Bool.false_ne_true, ← stepsOf_entryName h]
  dsimp only
  by_cases hempty : bytes = []
  · -- nothing stands in front of the name
    subst hempty
    rw [if_pos (.inl rfl)]
    show components ⟨name⟩ = _
    rw [components_eq, start_entryName h]
    rfl
  · by_cases hlast : bytes.getLast? = some separator
    · -- the separator at the end of the directory is the one in front of the name
      rw [if_pos (.inr hlast)]
      obtain ⟨before, rfl⟩ := List.getLast?_eq_some_iff.mp hlast
      rw [← components_append_of_separator, List.append_assoc]
      rfl
    · rw [if_neg (not_or.mpr ⟨hempty, hlast⟩)]
      exact components_append_separator hempty _

theorem components_child (p : Path) {name : String} (h : IsEntryName (Utf8.encode name)) :
    (p.child name).components = p.components ++ [.name (Utf8.encode name)] :=
  components_join p h

/-- The same name behind two directories is the same file if they are the same directory. -/
theorem sameFile_child_iff {p q : Path} {name : String} (h : IsEntryName (Utf8.encode name)) :
    (p.child name).SameFile (q.child name) ↔ p.SameFile q := by
  unfold SameFile
  rw [components_child p h, components_child q h]
  exact List.append_left_inj _

theorem SameFile.child {p q : Path} (h : p.SameFile q) {name : String}
    (hname : IsEntryName (Utf8.encode name)) : (p.child name).SameFile (q.child name) :=
  (sameFile_child_iff hname).mpr h

/-- The name in the last component of a path, if it has one. -/
def fileName? (p : Path) : Option Bytes :=
  match p.components.getLast? with
  | some (.name octets) => some octets
  | _ => none

theorem fileName?_child (p : Path) {name : String} (h : IsEntryName (Utf8.encode name)) :
    (p.child name).fileName? = some (Utf8.encode name) := by
  simp [fileName?, components_child p h]

theorem SameFile.fileName?_eq {p q : Path} (h : p.SameFile q) : p.fileName? = q.fileName? := by
  unfold fileName?
  rw [show p.components = q.components from h]

end Linkage.Path

namespace Linkage.Layout

/-! ## The files of a layout -/

theorem isEntryName_universalRuntime : Path.IsEntryName (Utf8.encode universalRuntime) :=
  ⟨by decide, by decide, by decide, by decide⟩

theorem isEntryName_legacyRuntime : Path.IsEntryName (Utf8.encode legacyRuntime) :=
  ⟨by decide, by decide, by decide, by decide⟩

theorem isEntryName_helperFile (platform : Platform) :
    Path.IsEntryName (Utf8.encode (libraryFile platform helperName)) := by
  cases platform
  all_goals exact ⟨by decide, by decide, by decide, by decide⟩

theorem isEntryName_system32 : Path.IsEntryName (Utf8.encode "System32") :=
  ⟨by decide, by decide, by decide, by decide⟩

theorem isEntryName_librarySubdir (platform : Platform) :
    Path.IsEntryName (Utf8.encode (librarySubdir platform)) := by
  cases platform
  all_goals exact ⟨by decide, by decide, by decide, by decide⟩

theorem fileName?_helperLibrary (platform : Platform) (dir : Path) :
    (helperLibrary platform dir).fileName? =
      some (Utf8.encode (libraryFile platform helperName)) :=
  Path.fileName?_child dir (isEntryName_helperFile platform)

end Linkage.Layout
