import Linkage.Proofs.FileName

/-!
# What lies above a path

The path above another one is cut out of its spelling. The last segment that
describes a step goes, and with it the segments around it that describe none:
separators and dots at the end, and those right before the step. What is left is
spelled as it was. So going up undoes going down only as far as components tell,
and there it does without exception: a path loses its last component, and only
the root and the empty path have none to lose.

The fact that carries this is where the cut is made (`Cut`). What is cut off is a
separator and octets that describe one step, unless nothing is left but the start
of the path. Neither changes how the rest is read.

An installation puts names behind directories, so going up from what it makes
leads back to where it began.
-/

namespace Linkage.Path

/-! ## Segments put together -/

theorem unsegment_append {before after : List Bytes} (hbefore : before ≠ []) (hafter : after ≠ []) :
    unsegment (before ++ after) = unsegment before ++ separator :: unsegment after := by
  induction before with
  | nil => exact absurd rfl hbefore
  | cons s rest ih =>
      cases rest with
      | nil =>
          obtain ⟨t, more, rfl⟩ := List.exists_cons_of_ne_nil hafter
          rfl
      | cons r more =>
          have hrest := ih (List.cons_ne_nil r more)
          show s ++ separator :: unsegment (r :: more ++ after) =
            (s ++ separator :: unsegment (r :: more)) ++ separator :: unsegment after
          rw [hrest, List.append_assoc, List.cons_append]

theorem unsegment_segments (b : Bytes) : unsegment (segments b) = b := by
  induction b with
  | nil => rfl
  | cons o rest ih =>
      obtain ⟨s, more, hrest⟩ := List.exists_cons_of_ne_nil (segments_ne_nil rest)
      rw [hrest] at ih
      by_cases ho : o = separator
      · rw [segments, if_pos ho, hrest, ho]
        show separator :: unsegment (s :: more) = separator :: rest
        rw [ih]
      · rw [segments, if_neg ho, hrest, ← ih]
        -- the octet goes in front of the first segment, whether there are more or not
        cases more with
        | nil => rfl
        | cons t more => rfl

theorem separator_notMem_of_mem_segments {b s : Bytes} (h : s ∈ segments b) : separator ∉ s := by
  induction b generalizing s with
  | nil =>
      obtain rfl := List.mem_singleton.mp h
      exact List.not_mem_nil
  | cons o rest ih =>
      by_cases ho : o = separator
      · rw [segments, if_pos ho] at h
        rcases List.mem_cons.mp h with rfl | hs
        · exact List.not_mem_nil
        · exact ih hs
      · obtain ⟨t, more, hrest⟩ := List.exists_cons_of_ne_nil (segments_ne_nil rest)
        rw [segments, if_neg ho, hrest] at h
        rw [hrest] at ih
        rcases List.mem_cons.mp h with rfl | hs
        · intro hmem
          rcases List.mem_cons.mp hmem with heq | hmem
          · exact ho heq.symm
          · exact ih List.mem_cons_self hmem
        · exact ih (List.mem_cons_of_mem t hs)

/-- Segments that are put together describe the steps that they describe one by one. -/
theorem stepsOf_unsegment {parts : List Bytes} (h : ∀ s ∈ parts, separator ∉ s) :
    stepsOf (unsegment parts) = (parts.filter isStep).map stepOf := by
  induction parts with
  | nil => rfl
  | cons s rest ih =>
      have hone : stepsOf s = ([s].filter isStep).map stepOf := by
        rw [stepsOf, segments_of_notMem (h s List.mem_cons_self)]
      have hrest := ih fun t ht => h t (List.mem_cons_of_mem s ht)
      cases rest with
      | nil => exact hone
      | cons r more =>
          show stepsOf (s ++ separator :: unsegment (r :: more)) = _
          rw [stepsOf_append_separator, hone, hrest, ← List.map_append, ← List.filter_append]
          rfl

/-- One step among gaps is the only one. -/
theorem stepsOf_unsegment_one {before after : List Bytes} {s : Bytes}
    (hfree : ∀ r ∈ before ++ s :: after, separator ∉ r) (hbefore : before.filter isStep = [])
    (hs : isStep s = true) (hafter : after.filter isStep = []) :
    stepsOf (unsegment (before ++ s :: after)) = [stepOf s] := by
  rw [stepsOf_unsegment hfree, List.filter_append, hbefore, List.filter_cons_of_pos hs, hafter]
  rfl

theorem unsegment_ne_nil (before : List Bytes) {s : Bytes} (hs : isStep s = true) :
    unsegment (before ++ [s]) ≠ [] := by
  cases before with
  | nil =>
      rintro rfl
      exact absurd hs (by decide)
  | cons r more =>
      rw [unsegment_append (by simp) (by simp)]
      simp

/-! ## Where a path is cut -/

/-- Looking from the end, there is no step, or a last one that only gaps stand behind. -/
theorem dropWhile_reverse_cases (parts : List Bytes) :
    parts.reverse.dropWhile (!isStep ·) = [] ∧ parts.filter isStep = [] ∨
      ∃ before s gap, parts = before ++ s :: gap ∧ isStep s = true ∧ gap.filter isStep = [] ∧
        parts.reverse.dropWhile (!isStep ·) = s :: before.reverse := by
  have hsplit := List.takeWhile_append_dropWhile (p := (!isStep ·)) (l := parts.reverse)
  have hgap : ∀ s ∈ parts.reverse.takeWhile (!isStep ·), (!isStep s) = true :=
    List.all_eq_true.mp List.all_takeWhile
  have hhead := List.head?_dropWhile_not (!isStep ·) parts.reverse
  generalize parts.reverse.takeWhile (!isStep ·) = gap at hsplit hgap
  generalize parts.reverse.dropWhile (!isStep ·) = rest at hsplit hhead ⊢
  have hnone : gap.reverse.filter isStep = [] := by
    rw [List.filter_eq_nil_iff]
    intro s hs
    simpa using hgap s (List.mem_reverse.mp hs)
  have hparts : parts = rest.reverse ++ gap.reverse := by
    rw [← List.reverse_append, hsplit, List.reverse_reverse]
  cases rest with
  | nil => exact .inl ⟨rfl, by rw [hparts]; exact hnone⟩
  | cons s before =>
      refine .inr ⟨before.reverse, s, gap.reverse, ?_, by simpa using hhead, hnone, ?_⟩
      · rw [hparts, List.reverse_cons, List.append_assoc, List.singleton_append]
      · rw [List.reverse_reverse]

/-- What going up makes of what stands behind the start of a path. -/
inductive Cut (st : Start) (body : Bytes) : Option Path → Prop
  /-- There is nothing to cut, and the start is no step to undo. -/
  | nothing : stepsOf body = [] → st ≠ .explicit → Cut st body none
  /-- The start itself is cut off. -/
  | current : stepsOf body = [] → st = .explicit → Cut st body (some ⟨[]⟩)
  /-- The start is all that is left. -/
  | start {s : Bytes} : stepsOf body = [stepOf s] → Cut st body (some ⟨st.bytes⟩)
  | front {front rest s : Bytes} :
      body = front ++ separator :: rest → front ≠ [] → stepsOf rest = [stepOf s] →
      Cut st body (some ⟨st.bytes ++ front⟩)

theorem cut (p : Path) : Cut (start p).1 (start p).2 p.parent? := by
  unfold parent?
  generalize start p = begun
  obtain ⟨st, body⟩ := begun
  dsimp only
  have hbody := unsegment_segments body
  have hfree : ∀ s ∈ segments body, separator ∉ s := fun _ => separator_notMem_of_mem_segments
  generalize segments body = parts at hbody hfree ⊢
  rcases dropWhile_reverse_cases parts with ⟨hdrop, hnone⟩ | ⟨before, s, gap, rfl, hs, hgap, hdrop⟩
  · have hsteps : stepsOf body = [] := by
      rw [← hbody, stepsOf_unsegment hfree, hnone]
      rfl
    rw [hdrop]
    cases st with
    | absolute => exact .nothing hsteps (by decide)
    | explicit => exact .current hsteps rfl
    | relative => exact .nothing hsteps (by decide)
  · rw [hdrop]
    dsimp only
    -- the gap before the step goes too, up to an earlier step or to the start
    rcases dropWhile_reverse_cases before with
      ⟨hdrop, hnone⟩ | ⟨kept, t, inner, rfl, ht, hinner, hdrop⟩
    · rw [hdrop, List.reverse_nil]
      show Cut st body (some ⟨st.bytes ++ []⟩)
      rw [List.append_nil, ← hbody]
      exact .start (stepsOf_unsegment_one hfree hnone hs hgap)
    · rw [hdrop, List.reverse_cons, List.reverse_reverse]
      have hparts : kept ++ t :: inner ++ s :: gap = (kept ++ [t]) ++ (inner ++ s :: gap) := by
        simp
      rw [hparts] at hbody hfree
      have hfront : body =
          unsegment (kept ++ [t]) ++ separator :: unsegment (inner ++ s :: gap) := by
        rw [← hbody, unsegment_append (by simp) (by simp)]
      have hrest : ∀ r ∈ inner ++ s :: gap, separator ∉ r :=
        fun r hr => hfree r (List.mem_append_right _ hr)
      exact .front hfront (unsegment_ne_nil kept ht)
        (stepsOf_unsegment_one hrest hinner hs hgap)

/-! ## What is left -/

theorem bytes_start (p : Path) : (start p).1.bytes ++ (start p).2 = p.bytes := by
  obtain ⟨bytes⟩ := p
  cases bytes with
  | nil => rfl
  | cons o rest =>
      unfold start
      dsimp only
      split
      · rename_i ho
        rw [ho]
        rfl
      · split
        · rename_i hdot
          rw [hdot.1]
          rfl
        · rfl

theorem components_start (st : Start) : components ⟨st.bytes⟩ = st.components := by
  cases st <;> decide

theorem stepOf_ne_root (s : Bytes) : stepOf s ≠ .root := by
  unfold stepOf
  split <;> simp

/--
**Going up takes the last component off.** There is a way up unless the path has no component
but the root, and it leads to all components but the last.
-/
theorem parent?_cases (p : Path) :
    p.parent? = none ∧ (p.components = [] ∨ p.components = [.root]) ∨
      ∃ above c, p.parent? = some above ∧ p.components = above.components ++ [c] ∧ c ≠ .root := by
  have hcut := cut p
  have hbytes := bytes_start p
  have hcomponents := components_eq p
  generalize p.parent? = above? at hcut ⊢
  generalize start p = begun at hcut hbytes hcomponents
  obtain ⟨st, body⟩ := begun
  cases hcut with
  | nothing hnone hst =>
      rw [hcomponents, hnone, List.append_nil]
      cases st with
      | absolute => exact .inl ⟨rfl, .inr rfl⟩
      | explicit => exact absurd rfl hst
      | relative => exact .inl ⟨rfl, .inl rfl⟩
  | current hnone hst =>
      refine .inr ⟨_, .current, rfl, ?_, by simp⟩
      rw [hcomponents, hnone, show st = _ from hst]
      rfl
  | @start s hone =>
      refine .inr ⟨_, stepOf s, rfl, ?_, stepOf_ne_root s⟩
      rw [hcomponents, hone, components_start]
  | @front front rest s hbody hfront hone =>
      refine .inr ⟨_, stepOf s, rfl, ?_, stepOf_ne_root s⟩
      have hp : p = ⟨(st.bytes ++ front) ++ separator :: rest⟩ := by
        rw [List.append_assoc, ← hbody]
        exact congrArg Path.mk hbytes.symm
      rw [hp, components_append_separator (by simp [hfront]), hone]

/-- Going up from the entry of a directory leads to the directory. -/
theorem exists_parent? {p : Path} {steps : List Component} {name : Bytes}
    (h : p.components = steps ++ [.name name]) :
    ∃ above, p.parent? = some above ∧ above.components = steps := by
  rcases parent?_cases p with ⟨-, hnil | hroot⟩ | ⟨above, c, habove, hlast, -⟩
  · exact absurd (hnil.symm.trans h) (by simp)
  · have hone : [] ++ [Component.root] = steps ++ [.name name] := hroot.symm.trans h
    exact absurd (List.append_inj' hone rfl).2 (by simp)
  · exact ⟨above, habove, (List.append_inj' (hlast.symm.trans h) rfl).1⟩

end Linkage.Path

namespace Linkage.Layout

/-! ## Back to where an installation stands -/

/--
**Going up from what an installation holds leads back to it.**

Two names behind a root, however it is spelled, make a path whose installation root is that root
again. If the first name is `bin`, the path stands next to the libraries of a Windows installation.
A helper library stands in the directory it was put in, and in no other.
-/
theorem installation_round_trip (root : Path) {directory file : Bytes}
    (hdirectory : Path.IsEntryName directory) (hfile : Path.IsEntryName file) :
    let executable := (root.join ⟨directory⟩).join ⟨file⟩
    (∃ found, installRoot? executable = some found ∧ found.SameFile root ∧
      (directory = Utf8.encode "bin" → ∃ above, executable.parent? = some above ∧
        (libraryDir .windows found).SameFile above)) ∧
    (∀ platform dir, ∃ above, (helperLibrary platform dir).parent? = some above ∧
      above.SameFile dir) ∧
    ∀ platform dir dir', (helperLibrary platform dir).SameFile (helperLibrary platform dir') ↔
      dir.SameFile dir' := by
  intro executable
  have hinner := Path.components_join root hdirectory
  obtain ⟨above, habove, hsame⟩ := Path.exists_parent? (Path.components_join (root.join _) hfile)
  obtain ⟨found, hfound, hroot⟩ := Path.exists_parent? (hsame.trans hinner)
  refine ⟨⟨found, ?_, hroot, fun hbin => ⟨above, habove, ?_⟩⟩, fun platform dir => ?_,
    fun platform dir dir' => Path.sameFile_child_iff (isEntryName_helperFile platform)⟩
  · show executable.parent? >>= Path.parent? = some found
    rw [habove]
    exact hfound
  · -- both are the root and `bin` behind it
    show (found.child (librarySubdir .windows)).components = above.components
    rw [Path.components_child found (isEntryName_librarySubdir .windows), hroot, hsame, hinner,
      hbin]
    rfl
  · exact Path.exists_parent? (Path.components_child dir (isEntryName_helperFile platform))

/-- A root with separators and dots to spare is found again without those at its end. -/
theorem installation_round_trip_spare :
    let root := Path.ofString "//opt/.//app/./"
    let tool := (root.join (.ofString "bin")).join (.ofString "tool.exe")
    Path.IsEntryName (Utf8.encode "bin") ∧ Path.IsEntryName (Utf8.encode "tool.exe") ∧
      installRoot? tool = some (.ofString "//opt/.//app") ∧
      (Path.ofString "//opt/.//app").SameFile root ∧
      ∃ above, tool.parent? = some above ∧
        (libraryDir .windows (.ofString "//opt/.//app")).SameFile above := by
  intro root tool
  have hbin : Path.IsEntryName (Utf8.encode "bin") := isEntryName_librarySubdir .windows
  have htool : Path.IsEntryName (Utf8.encode "tool.exe") :=
    ⟨by decide, by decide, by decide, by decide⟩
  obtain ⟨⟨found, hfound, hsame, hlibraries⟩, -, -⟩ := installation_round_trip root hbin htool
  have hspelled : installRoot? tool = some (.ofString "//opt/.//app") := by decide
  obtain rfl := Option.some.inj (hspelled.symm.trans hfound)
  exact ⟨hbin, htool, hspelled, hsame, hlibraries rfl⟩

end Linkage.Layout
