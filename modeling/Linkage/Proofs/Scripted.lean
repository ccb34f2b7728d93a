import Linkage.Proofs.SymbolName
import Linkage.Scripted.Loader

/-!
# A script as it is written

A script is written as lists: of libraries, of the exports of each one, of the
mishaps in front of them. Later lines replace earlier ones. The loader that is
made of a script answers by keys and by components instead. This file keeps the
lists as they are written, reads the answers off them directly, and shows that
the loader gives the same ones:

* a library exports a name exactly if some line has that very name and an address
  that is not null, and then at the address of the last such line;
* the library at a path is the one of the last entry whose path names that file.
-/

namespace Linkage

/-! ## The exports of one library -/

/-- A library as a script lists it: its exports, in the order they are made, and its memory. -/
structure Listing where
  exports : List (String × Word)
  memory : Memory

namespace Listing

/-- The library made of a listing. -/
def library (l : Listing) : ScriptedLibrary :=
  l.exports.foldl (fun library line => library.exporting line.1 line.2) { memory := l.memory }

/-- The symbol that one line gives a name. -/
def lineSymbol? (name : String) (line : String × Word) : Option Symbol :=
  if line.1 = name then Symbol.ofWord? line.2 else none

/-- The symbol that a listing gives a name: the last line that has one decides. -/
def symbol? (l : Listing) (name : String) : Option Symbol :=
  l.exports.reverse.findSome? (lineSymbol? name)

end Listing

namespace ScriptedLibrary

/-- An export decides for its own name, unless its address is null, and for no other name. -/
theorem lookup_exporting (l : ScriptedLibrary) (line : String × Word) {name : String}
    (hname : '\x00' ∉ name.toList) :
    (l.exporting line.1 line.2).exports.lookup (Utf8.encode name ++ [0]) =
      (Listing.lineSymbol? name line).or (l.exports.lookup (Utf8.encode name ++ [0])) := by
  unfold exporting Listing.lineSymbol?
  by_cases heq : line.1 = name
  · subst heq
    rw [if_neg hname, if_pos rfl]
    cases Symbol.ofWord? line.2 with
    | none => rfl
    | some symbol => simp
  · have hkey : Utf8.encode name ++ [0] ≠ Utf8.encode line.1 ++ [0] := fun h =>
      heq (Utf8.terminated_inj.mp h).symm
    rw [if_neg heq, Option.none_or]
    split
    · rfl
    · cases Symbol.ofWord? line.2 with
      | none => rfl
      | some symbol =>
          rw [List.lookup_cons, beq_eq_false_iff_ne.mpr hkey]

theorem memory_exporting (l : ScriptedLibrary) (name : String) (address : Word) :
    (l.exporting name address).memory = l.memory := by
  unfold exporting
  split
  · rfl
  · split <;> rfl

/-- Of many exports the last one of a name decides, and those that were there come after all. -/
theorem lookup_foldl_exporting (lines : List (String × Word)) (l : ScriptedLibrary)
    {name : String} (hname : '\x00' ∉ name.toList) :
    (lines.foldl (fun library line => library.exporting line.1 line.2) l).exports.lookup
        (Utf8.encode name ++ [0]) =
      (lines.reverse.findSome? (Listing.lineSymbol? name)).or
        (l.exports.lookup (Utf8.encode name ++ [0])) := by
  induction lines generalizing l with
  | nil => rfl
  | cons line rest ih =>
      -- the first line is the last one to be asked
      rw [List.foldl_cons, ih, lookup_exporting l line hname, List.reverse_cons,
        List.findSome?_append, Option.or_assoc]
      simp

theorem memory_foldl_exporting (lines : List (String × Word)) (l : ScriptedLibrary) :
    (lines.foldl (fun library line => library.exporting line.1 line.2) l).memory = l.memory := by
  induction lines generalizing l with
  | nil => rfl
  | cons line rest ih => rw [List.foldl_cons, ih, memory_exporting]

end ScriptedLibrary

namespace Listing

/-- A name is exported as the lines of the listing say. -/
theorem export?_library (l : Listing) {name : String} (hname : '\x00' ∉ name.toList) :
    l.library.toLibrary.export? (Utf8.encode name ++ [0]) = l.symbol? name := by
  show l.library.exports.lookup _ = _
  rw [library, ScriptedLibrary.lookup_foldl_exporting _ _ hname, symbol?]
  simp

theorem memory_library (l : Listing) : l.library.toLibrary.memory = l.memory :=
  ScriptedLibrary.memory_foldl_exporting _ _

end Listing

/-! ## The libraries of a script -/

/-- A script as it is written. -/
structure Scene where
  /-- The libraries, in the order in which they are put in place. -/
  libraries : List (Path × Listing) := []
  rules : List Scripted.Rule := []
  /-- Whether a file exists is asked of the file system. -/
  checksFiles : Bool := false

namespace Scene

/-- The loader of the libraries. -/
def loader (scene : Scene) : ScriptedLoader :=
  scene.libraries.foldl (fun loader entry => loader.serving entry.1 entry.2.library) {}

/-- The script that is written. -/
def script (scene : Scene) : Script where
  loader := scene.loader
  rules := scene.rules
  checksFiles := scene.checksFiles

/-- The listing of the library at a path: the last entry whose path names that file. -/
def listing? (scene : Scene) (path : Path) : Option Listing :=
  (scene.libraries.reverse.find? fun entry => decide (entry.1.SameFile path)).map (·.2)

/-- A library file stands at a path, as far as a caller is told. -/
def present (scene : Scene) (fs : FileSystem) (path : Path) : Bool :=
  match scene.script.mishap? .check path with
  | some _ => false
  | none => if scene.checksFiles then fs.isFile path else (scene.listing? path).isSome

theorem libraries_foldl_serving (entries : List (Path × Listing)) (l : ScriptedLoader) :
    (entries.foldl (fun loader entry => loader.serving entry.1 entry.2.library) l).libraries =
      (entries.map fun entry => (entry.1, entry.2.library)).reverse ++ l.libraries := by
  induction entries generalizing l with
  | nil => rfl
  | cons entry rest ih =>
      rw [List.foldl_cons, ih, List.map_cons, List.reverse_cons, List.append_assoc]
      rfl

/-- The loader finds the library that is listed at a path. -/
theorem library?_loader (scene : Scene) (path : Path) :
    scene.loader.library? path = (scene.listing? path).map Listing.library := by
  unfold ScriptedLoader.library? loader listing?
  rw [libraries_foldl_serving, List.append_nil, ← List.map_reverse, List.find?_map,
    Option.map_map, Option.map_map]
  rfl

/-! ## What the loader of a scene answers -/

variable {scene : Scene} {fs : FileSystem} {path : Path}

/-- What the loader says of a file is what a caller is told of it. -/
theorem present_of_fileExists {b : Bool}
    (h : (scene.script.toLoader fs).fileExists path = .ok b) : scene.present fs path = b := by
  have hlisted : scene.loader.toLoader.fileExists path = .ok (scene.listing? path).isSome := by
    show Except.ok (scene.loader.library? path).isSome = _
    rw [library?_loader, Option.isSome_map]
  unfold Script.toLoader at h
  unfold present
  dsimp only at h
  cases hmishap : scene.script.mishap? .check path with
  | some mishap =>
      rw [hmishap] at h
      cases mishap with
      | refusal reason => exact Except.ok.inj h
      | breakdown crash => exact absurd h (by simp)
  | none =>
      rw [hmishap] at h
      change (if scene.checksFiles then Except.ok (fs.isFile path)
        else scene.loader.toLoader.fileExists path) = Except.ok b at h
      rw [hlisted] at h
      cases hchecks : scene.checksFiles with
      | true => simpa [hchecks] using h
      | false => simpa [hchecks] using h

/-- A load that succeeds gives the library that is listed at its path. -/
theorem listing?_of_load {library : Library}
    (h : (scene.script.toLoader fs).load path = .ok library) :
    ∃ listing, scene.listing? path = some listing ∧ library = listing.library.toLibrary := by
  unfold Script.toLoader at h
  dsimp only at h
  split at h
  · exact absurd h (by simp)
  · exact absurd h (by simp)
  · have hlib : scene.script.loader.library? path = (scene.listing? path).map Listing.library :=
      library?_loader scene path
    simp only [ScriptedLoader.toLoader, hlib] at h
    cases hlisting : scene.listing? path with
    | none =>
        rw [hlisting] at h
        exact absurd h (by simp)
    | some listing =>
        rw [hlisting] at h
        exact ⟨listing, rfl, (Except.ok.inj h).symm⟩

end Scene

end Linkage
