import Linkage.Proofs.Loads
import Linkage.Proofs.Scripted
import Linkage.Scripted.Recorder
import Mathlib.Data.List.Forall2

/-!
# A script at work does what is written

What a script is told later replaces what it was told before: an export replaces
one of the same name, and a library one at the same file, however the two paths
are spelled. So what is found is always the last entry of its kind (`IsLast`).

A call changes nothing but the record, and nothing is read off the record to
answer a call. That is the frame that carries this file: calls that are made one
after the other are told what each of them would be told alone, and the record is
the list of the loads among them.
-/

namespace Linkage

/-- An entry is the last one of a list that is of a kind. -/
structure IsLast {α : Type} (kind : α → Prop) (entries : List α) (entry : α) : Prop where
  holds : kind entry
  last : ∃ before after, entries = before ++ entry :: after ∧ ∀ e ∈ after, ¬ kind e

/-- Read from the end, the last entry is the first one. -/
theorem isLast_iff_reverse {α : Type} {kind : α → Prop} {entries : List α} {entry : α} :
    IsLast kind entries entry ↔
      kind entry ∧ ∃ after before, entries.reverse = after ++ entry :: before ∧
        ∀ e ∈ after, ¬ kind e := by
  constructor
  · rintro ⟨hkind, before, after, rfl, hafter⟩
    exact ⟨hkind, after.reverse, before.reverse, by simp,
      fun e he => hafter e (List.mem_reverse.mp he)⟩
  · rintro ⟨hkind, after, before, hsplit, hafter⟩
    refine ⟨hkind, before.reverse, after.reverse, ?_,
      fun e he => hafter e (List.mem_reverse.mp he)⟩
    rw [← List.reverse_reverse entries, hsplit]
    simp

/-! ## The last export of a name -/

namespace Listing

variable {l : Listing} {name : String} {line : String × Word} {symbol : Symbol}

theorem lineSymbol?_eq_some_iff :
    lineSymbol? name line = some symbol ↔ line = (name, symbol.address) := by
  unfold lineSymbol?
  constructor
  · intro h
    split at h
    · rename_i hname
      have haddress : line.2 = symbol.address := by
        unfold Symbol.ofWord? at h
        split at h
        · exact absurd h (by simp)
        · exact congrArg Symbol.address (Option.some.inj h)
      rw [← hname, ← haddress]
    · exact absurd h (by simp)
  · rintro rfl
    rw [if_pos rfl, Symbol.ofWord?_address]

theorem lineSymbol?_eq_none_iff :
    lineSymbol? name line = none ↔ ¬ (line.1 = name ∧ line.2 ≠ 0) := by
  unfold lineSymbol?
  split
  · rename_i hname
    rw [Symbol.ofWord?_eq_none_iff]
    simp [hname]
  · rename_i hname
    simp [hname]

/-- A name has the address in the last of its lines with one. -/
theorem symbol?_eq_some_iff : l.symbol? name = some symbol ↔
    IsLast (fun line => line.1 = name ∧ line.2 ≠ 0) l.exports (name, symbol.address) := by
  unfold symbol?
  rw [isLast_iff_reverse, List.findSome?_eq_some_iff]
  constructor
  · rintro ⟨after, line, before, hsplit, hline, hafter⟩
    obtain rfl := lineSymbol?_eq_some_iff.mp hline
    exact ⟨⟨rfl, symbol.ne_zero⟩, after, before, hsplit,
      fun e he => lineSymbol?_eq_none_iff.mp (hafter e he)⟩
  · rintro ⟨-, after, before, hsplit, hafter⟩
    exact ⟨after, _, before, hsplit, lineSymbol?_eq_some_iff.mpr rfl,
      fun e he => lineSymbol?_eq_none_iff.mpr (hafter e he)⟩

theorem symbol?_eq_none_iff : l.symbol? name = none ↔
    ∀ line ∈ l.exports, ¬ (line.1 = name ∧ line.2 ≠ 0) := by
  unfold symbol?
  rw [List.findSome?_eq_none_iff]
  simp only [List.mem_reverse, lineSymbol?_eq_none_iff]

end Listing

/-- An export of a null address, or of a name that holds a NUL, changes nothing. -/
theorem ScriptedLibrary.exporting_eq_self {l : ScriptedLibrary} {name : String} {address : Word}
    (h : address = 0 ∨ '\x00' ∈ name.toList) : l.exporting name address = l := by
  unfold exporting
  split
  · rfl
  · rename_i hnul
    have hzero : address = 0 := h.resolve_right hnul
    rw [Symbol.ofWord?_eq_none_iff.mpr hzero]

/-! ## The last library at a path -/

namespace Scene

variable {scene : Scene} {path : Path}

theorem listing?_eq_some_iff {listing : Listing} : scene.listing? path = some listing ↔
    ∃ spelled, IsLast (fun entry => entry.1.SameFile path) scene.libraries (spelled, listing) := by
  unfold listing?
  simp only [isLast_iff_reverse, Option.map_eq_some_iff, List.find?_eq_some_iff_append]
  constructor
  · rintro ⟨⟨spelled, _⟩, ⟨hsame, after, before, hsplit, hafter⟩, rfl⟩
    exact ⟨spelled, of_decide_eq_true hsame, after, before, hsplit,
      fun e he => by simpa using hafter e he⟩
  · rintro ⟨spelled, hsame, after, before, hsplit, hafter⟩
    exact ⟨(spelled, listing), ⟨decide_eq_true hsame, after, before, hsplit,
      fun e he => by simpa using hafter e he⟩, rfl⟩

theorem listing?_eq_none_iff : scene.listing? path = none ↔
    ∀ entry ∈ scene.libraries, ¬ entry.1.SameFile path := by
  unfold listing?
  simp

end Scene

namespace Scripted

/-! ## One call after the other -/

/-- What a call does. -/
def Call.action : Call → Action
  | .check path => .checked path
  | .load path => .loaded path

/-- The path of a load. -/
def Call.load? (call : Call) : Option Path := call.action.load?

namespace Recorder

variable (r : Recorder) (fs : FileSystem)

/-- A call leaves the script as it is, and goes on the record as one action does. -/
theorem answer_snd (call : Call) :
    (r.answer fs call).2 = { r with loads := r.loads ++ r.script.record [call.action] } := by
  cases call with
  | check path =>
      have hnone : r.script.record [.checked path] = [] := rfl
      show r = { r with loads := r.loads ++ r.script.record [.checked path] }
      rw [hnone, List.append_nil]
  | load path =>
      show r.note path = { r with loads := r.loads ++ r.script.record [.loaded path] }
      unfold note
      split
      · rename_i hreached
        have hone : r.script.record [.loaded path] = [path] := by
          simp [Script.record, Action.load?, hreached]
        rw [hone]
      · rename_i hmishap
        have hnone : r.script.record [.loaded path] = [] := by
          simp [Script.record, Action.load?, hmishap]
        rw [hnone, List.append_nil]

/-- The record is not read to answer a call. -/
theorem answer_fst (call : Call) (loads : List Path) :
    (answer { r with loads } fs call).1 = (r.answer fs call).1 := by
  cases call with
  | check path => rfl
  | load path => rfl

/-- Calls leave the script as it is, and go on the record as their actions do. -/
theorem answers_snd (calls : List Call) :
    (r.answers fs calls).2 =
      { r with loads := r.loads ++ r.script.record (calls.map Call.action) } := by
  induction calls generalizing r with
  | nil =>
      show r = { r with loads := r.loads ++ [] }
      rw [List.append_nil]
  | cons call rest ih =>
      have happend : r.script.record ((call :: rest).map Call.action) =
          r.script.record [call.action] ++ r.script.record (rest.map Call.action) := by
        unfold Script.record
        rw [← List.filter_append, ← List.filterMap_append]
        rfl
      show ((r.answer fs call).2.answers fs rest).2 = _
      rw [ih, answer_snd, happend, List.append_assoc]

/-- Each call is told what it would be told alone. -/
theorem answers_fst (calls : List Call) :
    (r.answers fs calls).1 = calls.map fun call => (r.answer fs call).1 := by
  induction calls generalizing r with
  | nil => rfl
  | cons call rest ih =>
      -- the calls behind this one find a longer record, but none of them reads it
      show (r.answer fs call).1 :: ((r.answer fs call).2.answers fs rest).1 = _
      rw [ih, answer_snd, List.map_cons]
      simp only [answer_fst]

end Recorder

/-! ## What a call is told -/

/-- What a call is told, read off the libraries as they are written. -/
inductive Told (libraries : List (Path × Listing)) : Call → Reply → Prop
  | present {path : Path} {entry : Path × Listing} :
      entry ∈ libraries → entry.1.SameFile path →
      Told libraries (.check path) (.checked (.ok true))
  | absent {path : Path} :
      (∀ entry ∈ libraries, ¬ entry.1.SameFile path) →
      Told libraries (.check path) (.checked (.ok false))
  /-- A path leads to the last library that is written at the same file. -/
  | found {path spelled : Path} {listing : Listing} :
      IsLast (fun entry => entry.1.SameFile path) libraries (spelled, listing) →
      Told libraries (.load path) (.loaded (.ok listing.library.toLibrary))
  | missing {path : Path} :
      (∀ entry ∈ libraries, ¬ entry.1.SameFile path) →
      Told libraries (.load path) (.loaded (.error (.failed (.load path "not scripted"))))

namespace Recorder

/-- Some libraries at work, before any call. -/
def ofLibraries (libraries : List (Path × Listing)) : Recorder where
  script := Scene.script { libraries }

variable (libraries : List (Path × Listing)) (fs : FileSystem)

theorem answer_check (path : Path) :
    ((ofLibraries libraries).answer fs (.check path)).1 =
      .checked (.ok (Scene.listing? { libraries } path).isSome) := by
  have hlibrary := Scene.library?_loader { libraries } path
  show Reply.checked (.ok ((Scene.loader { libraries }).library? path).isSome) = _
  rw [hlibrary, Option.isSome_map]

theorem answer_load_of_some {path : Path} {listing : Listing}
    (h : Scene.listing? { libraries } path = some listing) :
    ((ofLibraries libraries).answer fs (.load path)).1 =
      .loaded (.ok listing.library.toLibrary) := by
  have hlibrary := Scene.library?_loader { libraries } path
  rw [h, Option.map_some] at hlibrary
  exact congrArg Reply.loaded (ScriptedLoader.load_of_library? hlibrary)

theorem answer_load_of_none {path : Path} (h : Scene.listing? { libraries } path = none) :
    ((ofLibraries libraries).answer fs (.load path)).1 =
      .loaded (.error (.failed (.load path "not scripted"))) := by
  have hlibrary := Scene.library?_loader { libraries } path
  rw [h, Option.map_none] at hlibrary
  show Reply.loaded ((Scene.loader { libraries }).toLoader.load path) = _
  unfold ScriptedLoader.toLoader
  dsimp only
  rw [hlibrary]

theorem told_answer (call : Call) :
    Told libraries call ((ofLibraries libraries).answer fs call).1 := by
  cases call with
  | check path =>
      rw [answer_check]
      cases hlisting : Scene.listing? { libraries } path with
      | none => exact .absent (Scene.listing?_eq_none_iff.mp hlisting)
      | some listing =>
          obtain ⟨spelled, hsame, before, after, rfl, -⟩ := Scene.listing?_eq_some_iff.mp hlisting
          exact .present (List.mem_append_right before List.mem_cons_self) hsame
  | load path =>
      cases hlisting : Scene.listing? { libraries } path with
      | none =>
          rw [answer_load_of_none libraries fs hlisting]
          exact .missing (Scene.listing?_eq_none_iff.mp hlisting)
      | some listing =>
          obtain ⟨spelled, hlast⟩ := Scene.listing?_eq_some_iff.mp hlisting
          rw [answer_load_of_some libraries fs hlisting]
          exact .found hlast

/-- A file exists exactly if it can be loaded. -/
theorem check_iff_load (path : Path) :
    ((ofLibraries libraries).answer fs (.check path)).1 = .checked (.ok true) ↔
      ∃ library, ((ofLibraries libraries).answer fs (.load path)).1 = .loaded (.ok library) := by
  rw [answer_check]
  cases hlisting : Scene.listing? { libraries } path with
  | none =>
      rw [answer_load_of_none libraries fs hlisting]
      exact iff_of_false (by simp) (by simp)
  | some listing => exact iff_of_true rfl ⟨_, answer_load_of_some libraries fs hlisting⟩

end Recorder

/--
**A script at work does what is written.**

A library exports a name exactly at the address of the last line with that name and an address.
Lines without an address, or with a NUL in the name, do nothing at all. Whatever calls are made,
each of them is told of the last library at its file. The record is the list of the loads among
them, in the spelling of the calls. A file exists, whenever it is asked for, exactly if it could be
loaded at any time.
-/
theorem Recorder.answers_as_written (libraries : List (Path × Listing)) (fs : FileSystem)
    (calls : List Call) :
    let recorder := ofLibraries libraries
    let (replies, after) := recorder.answers fs calls
    (∀ (listing : Listing) (name : SymbolName),
      (∀ symbol, listing.library.toLibrary.export? name.key = some symbol ↔
        IsLast (fun line => line.1 = name.text ∧ line.2 ≠ 0) listing.exports
          (name.text, symbol.address)) ∧
      (listing.library.toLibrary.export? name.key = none ↔
        ∀ line ∈ listing.exports, ¬ (line.1 = name.text ∧ line.2 ≠ 0))) ∧
    (∀ (library : ScriptedLibrary) (name : String) (address : Word),
      address = 0 ∨ '\x00' ∈ name.toList → library.exporting name address = library) ∧
    List.Forall₂ (Told libraries) calls replies ∧
    after.loads = calls.filterMap Call.load? ∧
    ∀ path others, (after.answer fs (.check path)).1 = .checked (.ok true) ↔
      ∃ library, ((recorder.answers fs others).2.answer fs (.load path)).1 =
        .loaded (.ok library) := by
  intro recorder
  show _ ∧ _ ∧ List.Forall₂ (Told libraries) calls (recorder.answers fs calls).1 ∧
    (recorder.answers fs calls).2.loads = _ ∧ _
  refine ⟨fun listing name => ?_, fun _ _ _ => ScriptedLibrary.exporting_eq_self, ?_, ?_, ?_⟩
  · have hexport : listing.library.toLibrary.export? name.key = listing.symbol? name.text :=
      listing.export?_library name.no_nul
    rw [hexport]
    exact ⟨fun _ => Listing.symbol?_eq_some_iff, Listing.symbol?_eq_none_iff⟩
  · rw [answers_fst, List.forall₂_map_right_iff]
    exact List.forall₂_same.mpr fun call _ => told_answer libraries fs call
  · rw [answers_snd]
    show [] ++ Script.record { loader := Scene.loader { libraries } } (calls.map Call.action) = _
    rw [List.nil_append, Script.record_eq, List.filterMap_map]
    rfl
  · intro path others
    rw [answers_snd, answers_snd]
    simp only [answer_fst]
    exact check_iff_load libraries fs path

/--
A library replaces another one at a path that is spelled differently, and a line without an address
does not take an export away.
-/
theorem Recorder.answers_as_written_respelled :
    let listing : Listing := ⟨[("a", 0x20), ("a", 0x30), ("a", 0)], fun _ => 0⟩
    let libraries := [(Path.ofString "/lib/a.so", ⟨[("a", 0x10)], fun _ => 0⟩),
      (.ofString "/lib//./a.so", listing)]
    let missing := Path.ofString "/lib/b.so"
    let respelled := Path.ofString "/lib/a.so/"
    let (replies, after) := (ofLibraries libraries).answers .empty
      [.load missing, .check respelled, .load respelled]
    after.loads = [missing, respelled] ∧
      replies = [.loaded (.error (.failed (.load missing "not scripted"))),
        .checked (.ok true), .loaded (.ok listing.library.toLibrary)] ∧
      listing.library.toLibrary.export? (SymbolName.mk "a" (by decide) (by decide)).key =
        some ⟨0x30, by decide⟩ := by
  intro listing libraries missing respelled
  obtain ⟨hexports, -, -, hloads, -⟩ := answers_as_written libraries .empty
    [.load missing, .check respelled, .load respelled]
  have hlast : IsLast (fun line => line.1 = "a" ∧ line.2 ≠ 0) listing.exports ("a", 0x30) :=
    ⟨by decide, [("a", 0x20)], [("a", 0)], rfl, by decide⟩
  have hexport := ((hexports listing ⟨"a", by decide, by decide⟩).1 ⟨0x30, by decide⟩).mpr hlast
  exact ⟨hloads, rfl, hexport⟩

end Scripted

end Linkage
