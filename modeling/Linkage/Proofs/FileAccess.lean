import Linkage.Proofs.Delivery
import Linkage.Proofs.LogStream

/-!
# What a path leads to, now and later

A path is walked anew each time it is used. It goes on to lead to the same place as
long as nothing is taken away on the way: directories stay directories, and what
exists exists. Opening, writing and making directories all keep to that (`Grown`), and
so a file that was opened by a path is the file that is read by the path afterwards.

What is done at a place is then told by what stands there, before and after, without
a look at the walk.
-/

namespace Linkage.FileSystem

variable {fs fs' fs'' : FileSystem} {p : Path} {at_ other : Location} {node : FileNode}

/-- A step that follows another one succeeds if both do. -/
theorem bind_eq_ok_iff {α β : Type} {x : Except FileError α} {f : α → Except FileError β}
    {b : β} : x >>= f = .ok b ↔ ∃ a, x = .ok a ∧ f a = .ok b := by
  cases x with
  | error e => simp [bind, Except.bind]
  | ok a => simp [bind, Except.bind]

/-! ## What stands at a location -/

/-- What is no directory is not at the root. -/
theorem ne_root_of_look {node? : Option FileNode} (h : fs.look at_ = node?)
    (hdir : node? ≠ some .directory) : at_ ≠ [] := by
  rintro rfl
  exact hdir (h.symm.trans rfl)

theorem look_put (fs : FileSystem) (h : at_ ≠ []) (node : FileNode) :
    (fs.put at_ node).look at_ = some node := by
  simp [look, put, h]

theorem look_put_of_ne (h : other ≠ at_) (node : FileNode) :
    (fs.put at_ node).look other = fs.look other := by
  simp [look, put, h]

/--
A later state of a file system: nothing was taken away, no directory became anything
else, and nothing else became a directory.
-/
structure Grown (fs fs' : FileSystem) : Prop where
  current : fs'.current = fs.current
  look : ∀ at_ node, fs.look at_ = some node →
    ∃ node', fs'.look at_ = some node' ∧ (node' = .directory ↔ node = .directory)

theorem Grown.refl (fs : FileSystem) : Grown fs fs :=
  ⟨rfl, fun _ node h => ⟨node, h, Iff.rfl⟩⟩

theorem Grown.trans (h : Grown fs fs') (h' : Grown fs' fs'') : Grown fs fs'' where
  current := h'.current.trans h.current
  look at_ node hlook := by
    obtain ⟨node', hlook', hkind⟩ := h.look at_ node hlook
    obtain ⟨node'', hlook'', hkind'⟩ := h'.look at_ node' hlook'
    exact ⟨node'', hlook'', hkind'.trans hkind⟩

theorem Grown.look_directory (h : Grown fs fs') (hdir : fs.look at_ = some .directory) :
    fs'.look at_ = some .directory := by
  obtain ⟨node, hnode, hkind⟩ := h.look at_ _ hdir
  rw [hnode, hkind.mpr rfl]

/-- Something new can be put where nothing stands. -/
theorem grown_put_of_none (h : fs.look at_ = none) (node : FileNode) :
    Grown fs (fs.put at_ node) where
  current := rfl
  look other node' hother := by
    have hne : other ≠ at_ := by
      rintro rfl
      exact absurd (h.symm.trans hother) (by simp)
    exact ⟨node', (look_put_of_ne hne node).trans hother, Iff.rfl⟩

/-- What is no directory can be replaced by something else that is none. -/
theorem grown_put_of_not_directory (hbefore : fs.look at_ ≠ some .directory)
    (hnode : node ≠ .directory) : Grown fs (fs.put at_ node) where
  current := rfl
  look other node' hother := by
    by_cases hne : other = at_
    · subst hne
      refine ⟨node, look_put fs (ne_root_of_look rfl hbefore) node, iff_of_false hnode ?_⟩
      rintro rfl
      exact hbefore hother
    · exact ⟨node', (look_put_of_ne hne node).trans hother, Iff.rfl⟩

/-! ## Where a path leads -/

/-- **A walk that came to an end comes to the same end later.** -/
theorem Grown.walk (h : Grown fs fs') {steps : List Bytes} {base dir : Location}
    (hwalk : fs.walk base steps = .ok dir) : fs'.walk base steps = .ok dir := by
  induction steps generalizing base with
  | nil => exact hwalk
  | cons s rest ih =>
      rw [FileSystem.walk] at hwalk ⊢
      split at hwalk
      · cases hwalk
      · rename_i hdir
        rw [if_neg (by rw [h.look_directory (Decidable.not_not.mp hdir)]; simp)]
        split at hwalk
        · rename_i hdot
          rw [if_pos hdot]
          exact ih hwalk
        · rename_i hdot
          rw [if_neg hdot]
          split at hwalk
          · rename_i hup
            rw [if_pos hup]
            exact ih hwalk
          · rename_i hup
            rw [if_neg hup]
            split at hwalk
            · cases hwalk
            · rename_i hshort
              rw [if_neg hshort]
              dsimp only at hwalk ⊢
              split at hwalk
              · cases hwalk
              · -- what was found on the way is still there
                rename_i hfound
                obtain ⟨node, hnode⟩ := Option.ne_none_iff_exists'.mp hfound
                obtain ⟨node', hnode', -⟩ := h.look _ _ hnode
                rw [if_neg (by rw [hnode']; simp)]
                exact ih hwalk

theorem Grown.place (h : Grown fs fs') {place : Place} (hplace : fs.place p = .ok place) :
    fs'.place p = .ok place := by
  unfold FileSystem.place at hplace ⊢
  rw [h.current]
  generalize (if p.isAbsolute then [] else fs.current) = base at hplace ⊢
  generalize (Path.segments p.bytes).filter (· ≠ []) = steps at hplace ⊢
  split at hplace
  · cases hplace
  · rename_i hnul
    rw [if_neg hnul]
    split at hplace
    · cases hplace
    · rename_i hempty
      rw [if_neg hempty]
      split at hplace
      · cases hplace
      · rename_i hlong
        rw [if_neg hlong]
        cases hlast : steps.getLast? with
        | none => simpa only [hlast] using hplace
        | some name =>
            simp only [hlast] at hplace ⊢
            obtain ⟨dir, hwalk, hplace⟩ := bind_eq_ok_iff.mp hplace
            refine bind_eq_ok_iff.mpr ⟨dir, h.walk hwalk, ?_⟩
            split at hplace
            · cases hplace
            · rename_i hdir
              rw [if_neg (by rw [h.look_directory (Decidable.not_not.mp hdir)]; simp)]
              exact hplace

/-- What is found at a location stands there, and its name is not too long. -/
theorem find_eq_ok_iff {node? : Option FileNode} :
    fs.find at_ = .ok node? ↔
      at_.getLast?.any (maxName < ·.length) = false ∧ fs.look at_ = node? := by
  unfold find
  cases at_.getLast?.any (maxName < ·.length) with
  | true => simp
  | false => simp

/-- A look that shows something has come to a directory, or has found the last name. -/
theorem stat_cases (h : fs.stat p = .ok node) :
    (∃ dir, fs.place p = .ok (.directory dir) ∧ node = .directory) ∨
      ∃ entry slash, fs.place p = .ok (.entry entry slash) ∧ fs.find entry = .ok (some node) ∧
        (slash = true → node = .directory) := by
  obtain ⟨place, hplace, h⟩ := bind_eq_ok_iff.mp h
  cases place with
  | directory dir =>
      cases h
      exact .inl ⟨dir, hplace, rfl⟩
  | entry entry slash =>
      obtain ⟨node?, hfind, h⟩ := bind_eq_ok_iff.mp h
      cases node? with
      | none => cases h
      | some found =>
          cases found with
          | directory =>
              cases h
              exact .inr ⟨entry, slash, hplace, hfind, fun _ => rfl⟩
          | file | device | installed =>
              -- behind a separator only a directory is shown
              cases slash with
              | true => cases h
              | false =>
                  cases h
                  exact .inr ⟨entry, false, hplace, hfind, fun h => by cases h⟩

theorem isDirectory_iff : fs.isDirectory p = true ↔ fs.stat p = .ok .directory := by
  unfold isDirectory
  split
  · rename_i h
    simp [h]
  · rename_i h
    exact iff_of_false (by simp) h

/-- A directory stays one. -/
theorem Grown.isDirectory (h : Grown fs fs') (hdir : fs.isDirectory p = true) :
    fs'.isDirectory p = true := by
  rw [isDirectory_iff] at hdir ⊢
  rcases stat_cases hdir with ⟨dir, hplace, -⟩ | ⟨entry, slash, hplace, hfind, -⟩
  · simp only [stat, h.place hplace, bind, Except.bind]
  · obtain ⟨hshort, hlook⟩ := find_eq_ok_iff.mp hfind
    have hfind' := find_eq_ok_iff.mpr ⟨hshort, h.look_directory hlook⟩
    simp only [stat, h.place hplace, hfind', bind, Except.bind]

/-- A path ends in a name that can be the name of a file at a location. -/
structure Leads (fs : FileSystem) (p : Path) (at_ : Location) : Prop where
  place : fs.place p = .ok (.entry at_ false)
  short : at_.getLast?.any (maxName < ·.length) = false

/-- A path goes on to lead where it leads. -/
theorem Grown.leads (h : Grown fs fs') (hleads : fs.Leads p at_) : fs'.Leads p at_ :=
  ⟨h.place hleads.place, hleads.short⟩

theorem Leads.find_eq (h : fs.Leads p at_) : fs.find at_ = .ok (fs.look at_) :=
  find_eq_ok_iff.mpr ⟨h.short, rfl⟩

theorem Leads.stat_eq (h : fs.Leads p at_) :
    fs.stat p = match fs.look at_ with
      | none => .error .notFound
      | some node => .ok node := by
  simp only [stat, h.place, h.find_eq, bind, Except.bind]
  cases fs.look at_ with
  | none => rfl
  | some node => cases node <;> rfl

theorem Leads.openFile_eq (h : fs.Leads p at_) :
    fs.openFile p = match fs.look at_ with
      | none => .ok (at_, fs.put at_ (.file []))
      | some .directory => .error .isDirectory
      | some _ => .ok (at_, fs) := by
  simp only [openFile, h.place, h.find_eq, bind, Except.bind]
  cases fs.look at_ with
  | none => rfl
  | some node => cases node <;> rfl

/-- What can be looked at has a place, and what is no directory has a name. -/
theorem leads_of_stat (h : fs.stat p = .ok node) (hnode : node ≠ .directory) :
    ∃ at_, fs.Leads p at_ ∧ fs.look at_ = some node := by
  rcases stat_cases h with ⟨-, -, hdir⟩ | ⟨entry, slash, hplace, hfind, hslash⟩
  · exact absurd hdir hnode
  · obtain ⟨hshort, hlook⟩ := find_eq_ok_iff.mp hfind
    obtain rfl : slash = false := Bool.eq_false_iff.mpr fun h => hnode (hslash h)
    exact ⟨entry, ⟨hplace, hshort⟩, hlook⟩

/-- What can be opened has a name, and is no directory. -/
theorem leads_of_openFile (h : fs.openFile p = .ok (at_, fs')) :
    fs.Leads p at_ ∧ fs.look at_ ≠ some .directory ∧
      fs' = if fs.look at_ = none then fs.put at_ (.file []) else fs := by
  obtain ⟨place, hplace, h⟩ := bind_eq_ok_iff.mp h
  cases place with
  | directory dir => cases h
  | entry entry slash =>
      cases slash with
      | true => cases h
      | false =>
          obtain ⟨node?, hfind, h⟩ := bind_eq_ok_iff.mp h
          obtain ⟨hshort, hlook⟩ := find_eq_ok_iff.mp hfind
          cases node? with
          | none =>
              cases h
              exact ⟨⟨hplace, hshort⟩, by simp [hlook], by simp [hlook]⟩
          | some found =>
              cases found with
              | directory => cases h
              | file | device | installed =>
                  cases h
                  exact ⟨⟨hplace, hshort⟩, by simp [hlook], by simp [hlook]⟩

/-- What is read from a path is what a file there holds. -/
theorem Leads.read_eq (h : fs.Leads p at_) {content : Bytes}
    (hfile : fs.look at_ = some (.file content)) : fs.read p = .ok content := by
  simp only [read, h.stat_eq, hfile, bind, Except.bind]

/-! ## Replacing a file -/

theorem put_put (fs : FileSystem) (at_ : Location) (first second : FileNode) :
    (fs.put at_ first).put at_ second = fs.put at_ second := by
  simp only [put, FileSystem.mk.injEq, and_true]
  funext l
  split
  · rfl
  · rfl

/-- A path leads to what takes what is written there: a file, or a device, or nothing yet. -/
def Writable (fs : FileSystem) (p : Path) : Prop :=
  ∃ at_, fs.Leads p at_ ∧ fs.look at_ ≠ some .directory ∧ fs.look at_ ≠ some (.device .full)

/-- What a write does is told by what stands where the path leads. -/
theorem Leads.write_eq (h : fs.Leads p at_) (content : Bytes) :
    fs.write p content = match fs.look at_ with
      | some .directory => .error .isDirectory
      | some (.device .full) => .error .noSpace
      | some (.device _) => .ok fs
      | _ => .ok (fs.put at_ (.file content)) := by
  simp only [write, h.openFile_eq]
  cases hlook : fs.look at_ with
  | none =>
      have hroot : at_ ≠ [] := ne_root_of_look hlook (by simp)
      simp [truncate, append, look_put fs hroot, put_put, bind, Except.bind]
  | some node =>
      cases node with
      | directory => rfl
      | file old =>
          have hroot : at_ ≠ [] := ne_root_of_look hlook (by simp)
          simp [truncate, append, look_put fs hroot, hlook, put_put, bind, Except.bind]
      | installed kind =>
          have hroot : at_ ≠ [] := ne_root_of_look hlook (by simp)
          simp [truncate, append, look_put fs hroot, hlook, put_put, bind, Except.bind]
      | device kind =>
          cases kind with
          | null | full | zero => simp [truncate, append, hlook, bind, Except.bind]

/-- A file was written: a file with the content is there now, unless it was a device. -/
structure Replaced (fs fs' : FileSystem) (p : Path) (content : Bytes) : Prop where
  here : fs'.stat p = .ok (.file content) ∨
    fs' = fs ∧ ∃ kind, kind ≠ .full ∧ fs.stat p = .ok (.device kind)
  elsewhere : ∃ at_, fs.Leads p at_ ∧ ∀ other, other ≠ at_ → fs'.look other = fs.look other
  grown : Grown fs fs'

/-- **A path that can be written holds the new content afterwards**, and only that is new. -/
theorem Writable.write (h : fs.Writable p) (content : Bytes) :
    ∃ fs', fs.write p content = .ok fs' ∧ Replaced fs fs' p content := by
  obtain ⟨at_, hleads, hdir, hfull⟩ := h
  have hput : Replaced fs (fs.put at_ (.file content)) p content := by
    have hgrown : Grown fs (fs.put at_ (.file content)) :=
      grown_put_of_not_directory hdir (by simp)
    refine ⟨.inl ?_, ⟨at_, hleads, fun other hne => look_put_of_ne hne _⟩, hgrown⟩
    rw [(hgrown.leads hleads).stat_eq, look_put fs (ne_root_of_look rfl hdir)]
  have hwrite := hleads.write_eq content
  cases hlook : fs.look at_ with
  | none => exact ⟨_, by rw [hwrite, hlook], hput⟩
  | some node =>
      cases node with
      | directory => exact absurd hlook hdir
      | file | installed => exact ⟨_, by rw [hwrite, hlook], hput⟩
      | device kind =>
          have hkind : kind ≠ .full := by
            rintro rfl
            exact hfull hlook
          have hstat : fs.stat p = .ok (.device kind) := by rw [hleads.stat_eq, hlook]
          refine ⟨fs, ?_, .inr ⟨rfl, kind, hkind, hstat⟩, ⟨at_, hleads, fun _ _ => rfl⟩, .refl fs⟩
          rw [hwrite, hlook]
          cases kind with
          | null | zero => rfl
          | full => exact absurd rfl hkind

/-- A write succeeds exactly where a path can be written, whatever the content is. -/
theorem isOk_write_iff {content : Bytes} :
    (fs.write p content).isOk = true ↔ fs.Writable p := by
  constructor
  · intro h
    cases hwrite : fs.write p content with
    | error e =>
        rw [hwrite] at h
        cases h
    | ok written =>
        obtain ⟨⟨at_, files⟩, hopen, -⟩ := bind_eq_ok_iff.mp hwrite
        obtain ⟨hleads, hdir, -⟩ := leads_of_openFile hopen
        refine ⟨at_, hleads, hdir, fun hfull => ?_⟩
        rw [hleads.write_eq, hfull] at hwrite
        cases hwrite
  · intro h
    obtain ⟨fs', hwrite, -⟩ := h.write content
    rw [hwrite]
    rfl

instance (fs : FileSystem) (p : Path) : Decidable (fs.Writable p) :=
  decidable_of_iff ((fs.write p []).isOk = true) isOk_write_iff

/-! ## Making directories -/

/-- Directories were made where nothing was, and nothing else. -/
structure MadeDirectories (fs fs' : FileSystem) : Prop where
  current : fs'.current = fs.current
  look : ∀ at_, fs'.look at_ = fs.look at_ ∨
    fs.look at_ = none ∧ fs'.look at_ = some .directory

namespace MadeDirectories

theorem refl (fs : FileSystem) : MadeDirectories fs fs := ⟨rfl, fun _ => .inl rfl⟩

theorem trans (h : MadeDirectories fs fs') (h' : MadeDirectories fs' fs'') :
    MadeDirectories fs fs'' where
  current := h'.current.trans h.current
  look at_ := by
    rcases h.look at_ with hsame | ⟨hnone, hmade⟩
    · rcases h'.look at_ with hsame' | ⟨hnone', hmade'⟩
      · exact .inl (hsame'.trans hsame)
      · exact .inr ⟨hsame.symm.trans hnone', hmade'⟩
    · rcases h'.look at_ with hsame' | ⟨hnone', -⟩
      · exact .inr ⟨hnone, hsame'.trans hmade⟩
      · exact absurd (hmade.symm.trans hnone') (by simp)

theorem grown (h : MadeDirectories fs fs') : Grown fs fs' where
  current := h.current
  look at_ node hnode := by
    rcases h.look at_ with hsame | ⟨hnone, -⟩
    · exact ⟨node, hsame.trans hnode, Iff.rfl⟩
    · exact absurd (hnone.symm.trans hnode) (by simp)

end MadeDirectories

theorem madeDirectories_put (h : fs.look at_ = none) :
    MadeDirectories fs (fs.put at_ .directory) where
  current := rfl
  look other := by
    by_cases hne : other = at_
    · subst hne
      exact .inr ⟨h, look_put fs (ne_root_of_look h (by simp)) _⟩
    · exact .inl (look_put_of_ne hne _)

/-- A directory that was made is there. -/
theorem makeDirectory_spec (h : fs.makeDirectory p = .ok fs') :
    MadeDirectories fs fs' ∧ fs'.isDirectory p = true := by
  obtain ⟨place, hplace, h⟩ := bind_eq_ok_iff.mp h
  cases place with
  | directory dir => cases h
  | entry entry slash =>
      obtain ⟨node?, hfind, h⟩ := bind_eq_ok_iff.mp h
      cases node? with
      | some node => cases h
      | none =>
          cases h
          obtain ⟨hshort, hlook⟩ := find_eq_ok_iff.mp hfind
          have hmade := madeDirectories_put hlook
          have hput := look_put fs (ne_root_of_look hlook (by simp)) .directory
          have hfind' := find_eq_ok_iff.mpr ⟨hshort, hput⟩
          refine ⟨hmade, isDirectory_iff.mpr ?_⟩
          simp only [stat, hmade.grown.place hplace, hfind', bind, Except.bind]

theorem eq_true_of_ite_ok {there : Bool} {e : FileError}
    (h : (if there then .ok () else .error e) = Except.ok ()) : there = true := by
  cases there with
  | true => rfl
  | false => cases h

/-- **Making directories only makes directories**, and if it succeeds the path is one. -/
theorem makeDirectoriesUpTo_spec (bound : Nat) (fs : FileSystem) (p : Path) :
    MadeDirectories fs (makeDirectoriesUpTo bound fs p).1 ∧
      ((makeDirectoriesUpTo bound fs p).2 = .ok () →
        p.bytes = [] ∨ (makeDirectoriesUpTo bound fs p).1.isDirectory p = true) := by
  induction bound generalizing fs p with
  | zero => exact ⟨.refl fs, by simp [makeDirectoriesUpTo]⟩
  | succ bound ih =>
      rw [makeDirectoriesUpTo]
      split
      · rename_i hempty
        exact ⟨.refl fs, fun _ => .inl hempty⟩
      · split
        · rename_i made hmade
          obtain ⟨honly, hthere⟩ := makeDirectory_spec hmade
          exact ⟨honly, fun _ => .inr hthere⟩
        · split
          · exact ⟨.refl fs, by simp⟩
          · -- first what is above, and then the directory itself
            rename_i above habove
            obtain ⟨habove, -⟩ := ih fs above
            split
            · rename_i fs₁ e heq
              rw [heq] at habove
              exact ⟨habove, by simp⟩
            · rename_i fs₁ heq
              rw [heq] at habove
              split
              · rename_i made hmade
                obtain ⟨honly, hthere⟩ := makeDirectory_spec hmade
                exact ⟨habove.trans honly, fun _ => .inr hthere⟩
              · exact ⟨habove, fun hok => .inr (eq_true_of_ite_ok hok)⟩
        · exact ⟨.refl fs, fun hok => .inr (eq_true_of_ite_ok hok)⟩

end Linkage.FileSystem
