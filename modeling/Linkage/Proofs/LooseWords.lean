import Linkage.Proofs.Configuration
import Linkage.Proofs.Utf8
import Mathlib.Data.List.Forall2

/-!
# Words that people write

The level and the target of the log are words, and people write them as they
like: with blanks around them, in capitals or in small letters. A text has one
word in it, which is what stands between the blanks (`trim_eq_iff`). Folded to
small letters it is the same for every such spelling of it (`Respelled.fold_eq`),
and what a level or a keyword is depends on the folded word alone.

A path is kept as the word stands, and only matched against the keywords in its
folded form. Both forms are needed to see that the path which is kept is read as
itself again.
-/

namespace Linkage

namespace Text

/-! ## What is left between the ends -/

section Ends

variable {α : Type} {p : α → Bool} {l m before after : List α}

/-- Neither the first item nor the last one passes a test. -/
def EndsFree (p : α → Bool) (m : List α) : Prop :=
  (∀ a ∈ m.head?, p a = false) ∧ ∀ a ∈ m.getLast?, p a = false

theorem dropWhile_append_of_head (hbefore : ∀ a ∈ before, p a = true)
    (hm : ∀ a ∈ m.head?, p a = false) : (before ++ m).dropWhile p = m := by
  rw [List.dropWhile_append_of_pos hbefore]
  cases m with
  | nil => rfl
  | cons a rest => exact List.dropWhile_cons_of_neg (by simp [hm a rfl])

theorem stripEnds_append (hbefore : ∀ a ∈ before, p a = true) (hm : EndsFree p m)
    (hafter : ∀ a ∈ after, p a = true) : stripEnds p (before ++ m ++ after) = m := by
  -- if nothing is left, the blanks in front take those behind along
  obtain ⟨after', hafter', hdrop⟩ : ∃ after' : List α, (∀ a ∈ after', p a = true) ∧
      (before ++ m ++ after).dropWhile p = m ++ after' := by
    rw [List.append_assoc, List.dropWhile_append_of_pos hbefore]
    cases m with
    | nil =>
        refine ⟨[], by simp, ?_⟩
        rw [List.nil_append, List.append_nil, ← List.append_nil after]
        exact dropWhile_append_of_head hafter (by simp)
    | cons a rest =>
        exact ⟨after, hafter, List.dropWhile_cons_of_neg (by simp [hm.1 a rfl])⟩
  unfold stripEnds
  rw [hdrop, List.reverse_append, dropWhile_append_of_head, List.reverse_reverse]
  · intro a ha
    exact hafter' a (List.mem_reverse.mp ha)
  · rw [List.head?_reverse]
    exact hm.2

theorem head?_dropWhile (l : List α) : ∀ a ∈ (l.dropWhile p).head?, p a = false := by
  intro a ha
  have hnot := List.head?_dropWhile_not p l
  rw [Option.mem_def.mp ha] at hnot
  simpa using hnot

theorem all_takeWhile (l : List α) : ∀ a ∈ l.takeWhile p, p a = true :=
  List.all_eq_true.mp List.all_takeWhile

theorem exists_stripEnds (p : α → Bool) (l : List α) :
    EndsFree p (stripEnds p l) ∧ ∃ before after : List α, l = before ++ stripEnds p l ++ after ∧
      (∀ a ∈ before, p a = true) ∧ ∀ a ∈ after, p a = true := by
  generalize hkept : stripEnds p l = kept
  obtain ⟨before, hbefore, hfront⟩ : ∃ before : List α, (∀ a ∈ before, p a = true) ∧
      l = before ++ l.dropWhile p := ⟨_, all_takeWhile l, List.takeWhile_append_dropWhile.symm⟩
  obtain ⟨after, hafter, hback⟩ : ∃ after : List α, (∀ a ∈ after, p a = true) ∧
      l.dropWhile p = kept ++ after := by
    refine ⟨((l.dropWhile p).reverse.takeWhile p).reverse, ?_, ?_⟩
    · intro a ha
      exact all_takeWhile _ a (List.mem_reverse.mp ha)
    · rw [← hkept, stripEnds, ← List.reverse_append, List.takeWhile_append_dropWhile,
        List.reverse_reverse]
  refine ⟨⟨?_, ?_⟩, before, after, ?_, hbefore, hafter⟩
  · intro a ha
    refine head?_dropWhile l a ?_
    rw [hback, List.head?_append, Option.mem_def.mp ha]
    rfl
  · rw [← hkept, stripEnds, List.getLast?_reverse]
    exact head?_dropWhile _
  · rw [List.append_assoc, ← hback, ← hfront]

/-- **What is left is what stands between the items that pass**, and does not pass at its ends. -/
theorem stripEnds_eq_iff : stripEnds p l = m ↔ EndsFree p m ∧
    ∃ before after : List α, l = before ++ m ++ after ∧ (∀ a ∈ before, p a = true) ∧
      ∀ a ∈ after, p a = true := by
  constructor
  · rintro rfl
    exact exists_stripEnds p l
  · rintro ⟨hm, before, after, rfl, hbefore, hafter⟩
    exact stripEnds_append hbefore hm hafter

theorem stripEnds_map {f : α → α} (hf : ∀ a, p (f a) = p a) (l : List α) :
    stripEnds p (l.map f) = (stripEnds p l).map f := by
  have hcomp : p ∘ f = p := funext hf
  unfold stripEnds
  rw [List.dropWhile_map, hcomp, ← List.map_reverse, List.dropWhile_map, hcomp, List.map_reverse]

end Ends

/-! ## The word in a text -/

/-- The text has no blank at either end. -/
def IsTrimmed (w : String) : Prop := EndsFree isBlank w.toList

/-- There is nothing but blanks in a text. -/
def AllBlank (s : String) : Prop := ∀ c ∈ s.toList, isBlank c = true

/-- A text is another one with nothing but blanks around it. -/
def Pads (s w : String) : Prop :=
  ∃ before after, s = before ++ w ++ after ∧ AllBlank before ∧ AllBlank after

variable {s t w : String}

/-- **A text has one word in it**, which is what stands between the blanks. -/
theorem trim_eq_iff : trim s = w ↔ IsTrimmed w ∧ Pads s w := by
  have hlist : trim s = w ↔ stripEnds isBlank s.toList = w.toList := by
    unfold trim
    rw [← String.toList_inj, String.toList_ofList]
  rw [hlist, stripEnds_eq_iff]
  refine and_congr_right fun _ => ?_
  constructor
  · rintro ⟨before, after, hs, hbefore, hafter⟩
    refine ⟨String.ofList before, String.ofList after, ?_, ?_, ?_⟩
    · rw [← String.toList_inj, hs]
      simp
    · rwa [AllBlank, String.toList_ofList]
    · rwa [AllBlank, String.toList_ofList]
  · rintro ⟨before, after, rfl, hbefore, hafter⟩
    exact ⟨before.toList, after.toList, by simp, hbefore, hafter⟩

theorem isTrimmed_trim (s : String) : IsTrimmed (trim s) := (trim_eq_iff.mp rfl).1

theorem trim_of_isTrimmed (h : IsTrimmed w) : trim w = w :=
  trim_eq_iff.mpr ⟨h, "", "", by simp, by simp [AllBlank], by simp [AllBlank]⟩

theorem AllBlank.append (hs : AllBlank s) (ht : AllBlank t) : AllBlank (s ++ t) := by
  intro c hc
  rw [String.toList_append] at hc
  rcases List.mem_append.mp hc with h | h
  · exact hs c h
  · exact ht c h

/-- Blanks around a text do not change its word. -/
theorem Pads.trim_eq (h : Pads s w) : trim s = trim w := by
  obtain ⟨before, after, rfl, hbefore, hafter⟩ := h
  obtain ⟨v, hv⟩ : ∃ v, trim w = v := ⟨_, rfl⟩
  obtain ⟨htrimmed, before', after', rfl, hbefore', hafter'⟩ := trim_eq_iff.mp hv
  rw [hv]
  refine trim_eq_iff.mpr ⟨htrimmed, before ++ before', after' ++ after, ?_,
    hbefore.append hbefore', hafter'.append hafter⟩
  simp only [String.append_assoc]

/-! ## Capitals and small letters -/

/-- Two texts are the same but for letters that are a capital in one and small in the other. -/
def SameLetters (s t : String) : Prop :=
  List.Forall₂ (fun c d : Char => c = d ∨ c.isUpper ∧ d = c.toLower ∨ d.isUpper ∧ c = d.toLower)
    s.toList t.toList

/-- A capital stands below its small letter, and neither is blank. -/
theorem toLower_of_isUpper {c : Char} (h : c.isUpper = true) :
    c.toLower.isUpper = false ∧ isBlank c = false ∧ isBlank c.toLower = false := by
  have hall : ∀ n ∈ List.range' 0x41 26, (Char.ofNat n).toLower.isUpper = false ∧
      isBlank (Char.ofNat n) = false ∧ isBlank (Char.ofNat n).toLower = false := by
    decide
  have hrange : 0x41 ≤ c.toNat ∧ c.toNat ≤ 0x5A := by
    have hval : 'A'.val ≤ c.val ∧ c.val ≤ 'Z'.val := of_decide_eq_true h
    simpa [UInt32.le_iff_toNat_le] using hval
  rw [← Char.ofNat_toNat c]
  exact hall c.toNat (List.mem_range'_1.mpr (by omega))

theorem toLower_of_not_isUpper {c : Char} (h : c.isUpper = false) : c.toLower = c := by
  unfold Char.toLower
  exact dif_neg (of_decide_eq_false h)

theorem toLower_toLower (c : Char) : c.toLower.toLower = c.toLower := by
  cases h : c.isUpper with
  | true => exact toLower_of_not_isUpper (toLower_of_isUpper h).1
  | false => rw [toLower_of_not_isUpper h, toLower_of_not_isUpper h]

theorem isBlank_toLower (c : Char) : isBlank c.toLower = isBlank c := by
  cases h : c.isUpper with
  | true => rw [(toLower_of_isUpper h).2.1, (toLower_of_isUpper h).2.2]
  | false => rw [toLower_of_not_isUpper h]

theorem SameLetters.lower_eq (h : SameLetters s t) : lower s = lower t := by
  have hmap : s.toList.map Char.toLower = t.toList.map Char.toLower := by
    rw [← List.forall₂_eq_eq_eq, List.forall₂_map_left_iff, List.forall₂_map_right_iff]
    refine List.Forall₂.imp ?_ h
    rintro c d (rfl | ⟨-, rfl⟩ | ⟨-, rfl⟩)
    · rfl
    · exact (toLower_toLower c).symm
    · exact toLower_toLower d
  rw [lower, lower, hmap]

/-! ## The folded word -/

/-- The word of a text in small letters. -/
def fold (s : String) : String := lower (trim s)

/-- The word can be looked for after the letters were made small. -/
theorem trim_lower (s : String) : trim (lower s) = fold s := by
  unfold fold trim lower
  rw [String.toList_ofList, String.toList_ofList, stripEnds_map isBlank_toLower]

/-- Two texts have the same word, with other blanks around it and in other capitals. -/
def Respelled (s t : String) : Prop := ∃ w w', Pads s w ∧ Pads t w' ∧ SameLetters w w'

/-- **Blanks and capitals do not change the folded word.** -/
theorem Respelled.fold_eq (h : Respelled s t) : fold s = fold t := by
  obtain ⟨w, w', hs, ht, hletters⟩ := h
  calc fold s = trim (lower w) := by rw [fold, hs.trim_eq, trim_lower, fold]
    _ = trim (lower w') := by rw [hletters.lower_eq]
    _ = fold t := by rw [fold, ht.trim_eq, trim_lower, fold]

theorem fold_trim (s : String) : fold (trim s) = fold s := by
  rw [fold, trim_of_isTrimmed (isTrimmed_trim s), fold]

end Text

namespace Log

/-! ## Levels and keywords -/

/-- The words for levels. -/
def Level.words : List (String × Level) :=
  [("trace", .trace), ("verbose", .trace), ("debug", .debug), ("warn", .warn), ("warning", .warn),
    ("error", .error), ("err", .error)]

/-- The word for a level that a text is, with the level. -/
def Level.wordIn? (s : String) : Option (String × Level) :=
  Level.words.find? (·.1 = Text.fold s)

theorem Level.ofText_eq (s : String) :
    Level.ofText s = ((Level.wordIn? s).map Prod.snd).getD .info := by
  unfold Level.ofText Level.wordIn? Text.fold
  dsimp only
  generalize Text.lower (Text.trim s) = word
  by_cases h : word ∈ Level.words.map Prod.fst
  · simp only [Level.words, List.map_cons, List.map_nil, List.mem_cons, List.not_mem_nil,
      or_false] at h
    rcases h with rfl | rfl | rfl | rfl | rfl | rfl | rfl
    all_goals rfl
  · simp only [Level.words, List.map_cons, List.map_nil, List.mem_cons, List.not_mem_nil,
      or_false, not_or] at h
    simp [Level.words, h, eq_comm]

/-- The words for targets that are no files. -/
def Target.keywords : List (String × Target) :=
  [("", .off), ("off", .off), ("none", .off), ("0", .off), ("false", .off), ("stderr", .stderr),
    ("1", .stderr), ("true", .stderr), ("stdout", .stdout)]

/-- The keyword that a text is, with the target that it stands for. -/
def Target.keywordIn? (s : String) : Option (String × Target) :=
  Target.keywords.find? (·.1 = Text.fold s)

theorem Target.ofText_eq (s : String) :
    Target.ofText s =
      ((Target.keywordIn? s).map Prod.snd).getD (.file (.ofString (Text.trim s))) := by
  unfold Target.ofText Target.keyword? Target.keywordIn? Text.fold
  dsimp only
  generalize Text.lower (Text.trim s) = word
  by_cases h : word ∈ Target.keywords.map Prod.fst
  · simp only [Target.keywords, List.map_cons, List.map_nil, List.mem_cons, List.not_mem_nil,
      or_false] at h
    rcases h with rfl | rfl | rfl | rfl | rfl | rfl | rfl | rfl | rfl
    all_goals rfl
  · simp only [Target.keywords, List.map_cons, List.map_nil, List.mem_cons, List.not_mem_nil,
      or_false, not_or] at h
    simp [Target.keywords, h, eq_comm]

theorem Target.keywordIn?_eq_none_iff {s : String} :
    Target.keywordIn? s = none ↔ ∀ k ∈ Target.keywords, Text.fold s ≠ k.1 := by
  unfold Target.keywordIn?
  rw [List.find?_eq_none]
  simp [eq_comm]

/-- A keyword never stands for a file. -/
theorem Target.not_file_of_mem_keywords {k : String × Target} (h : k ∈ Target.keywords)
    (p : Path) : k.2 ≠ .file p := by
  have hall : ∀ k ∈ Target.keywords, k.2 = .off ∨ k.2 = .stderr ∨ k.2 = .stdout := by decide
  rcases hall k h with h | h | h
  all_goals
    rw [h]
    intro hfile
    cases hfile

/-- **A text is a path if it is no keyword**, and the path is its word as it stands. -/
theorem Target.ofText_eq_file_iff {s : String} {p : Path} :
    Target.ofText s = .file p ↔
      (∀ k ∈ Target.keywords, Text.fold s ≠ k.1) ∧ p = .ofString (Text.trim s) := by
  rw [← Target.keywordIn?_eq_none_iff, Target.ofText_eq]
  cases h : Target.keywordIn? s with
  | none => simp [eq_comm]
  | some k =>
      have hfile := Target.not_file_of_mem_keywords (List.mem_of_find?_eq_some h) p
      simpa using hfile

/-- The empty word is a keyword, so no path is empty. -/
theorem Target.trim_ne_empty_of_file {s : String} {p : Path} (h : Target.ofText s = .file p) :
    Text.trim s ≠ "" := by
  intro hempty
  refine (Target.ofText_eq_file_iff.mp h).1 ("", .off) (by decide) ?_
  rw [Text.fold, hempty]
  rfl

/-- **A path is read as itself again.** -/
theorem Target.ofText_trim_of_file {s : String} {p : Path} (h : Target.ofText s = .file p) :
    Target.ofText (Text.trim s) = .file p := by
  obtain ⟨hword, hp⟩ := Target.ofText_eq_file_iff.mp h
  refine Target.ofText_eq_file_iff.mpr ⟨?_, ?_⟩
  · rwa [Text.fold_trim]
  · rw [hp, Text.trim_of_isTrimmed (Text.isTrimmed_trim s)]

end Log

/-! ## The variables of the log -/

theorem Utf8.lossy_encode (s : String) : Utf8.lossy (Utf8.encode s) = s := by
  unfold Utf8.lossy
  rw [Utf8.chunks_encode, List.map_map]
  exact (congrArg String.ofList (List.map_id _)).trans String.ofList_toList

namespace Config

open Log (Level Target)

/--
**The words for the log are read as they are meant.**

Blanks around a word and capitals in it change neither the level that it stands for, nor whether it
is a keyword for a target, nor which one. What is no keyword is a path, which is the word itself:
what is left of the text between its blanks, in the capitals that it has. It is not empty, and as a
word it is read as the same path again. The two variables are read so as well, whatever octets they
hold, and octets that are a text are read as that text.
-/
theorem ofVariables_words :
    (∀ s w, Text.trim s = w ↔ Text.IsTrimmed w ∧ Text.Pads s w) ∧
    (∀ s t, Text.Respelled s t →
      Level.wordIn? s = Level.wordIn? t ∧ Level.ofText s = Level.ofText t ∧
        Target.keywordIn? s = Target.keywordIn? t ∧
        ∀ target, (∀ p, target ≠ .file p) →
          (Target.ofText s = target ↔ Target.ofText t = target)) ∧
    (∀ s, Level.ofText s = ((Level.wordIn? s).map Prod.snd).getD .info) ∧
    (∀ s k, Target.keywordIn? s = some k → Target.ofText s = k.2 ∧ ∀ p, k.2 ≠ .file p) ∧
    (∀ s p, Target.ofText s = .file p ↔
      (∀ k ∈ Target.keywords, Text.lower (Text.trim s) ≠ k.1) ∧ p = .ofString (Text.trim s)) ∧
    (∀ s p, Target.ofText s = .file p → ∃ w, p = .ofString w ∧ Text.Pads s w ∧ w ≠ "" ∧
      Text.IsTrimmed w ∧ Target.ofText w = .file p) ∧
    ∀ (vars : Variables) (value : Bytes),
      (vars "SYSLOOKUP_LOG" = some value →
        (ofVariables vars).logTarget = Target.ofText (Utf8.lossy value)) ∧
      (vars "SYSLOOKUP_LOG_LEVEL" = some value →
        (ofVariables vars).logLevel = Level.ofText (Utf8.lossy value)) ∧
      ∀ s, Utf8.encode s = value → Utf8.lossy value = s := by
  refine ⟨fun s w => Text.trim_eq_iff, ?_, Level.ofText_eq, ?_,
    fun s p => Target.ofText_eq_file_iff, ?_, ?_⟩
  · intro s t h
    have hlevel : Level.wordIn? s = Level.wordIn? t := by
      rw [Level.wordIn?, Level.wordIn?, h.fold_eq]
    have hkeyword : Target.keywordIn? s = Target.keywordIn? t := by
      rw [Target.keywordIn?, Target.keywordIn?, h.fold_eq]
    refine ⟨hlevel, by rw [Level.ofText_eq, Level.ofText_eq, hlevel], hkeyword, ?_⟩
    intro target htarget
    rw [Target.ofText_eq, Target.ofText_eq, hkeyword]
    cases Target.keywordIn? t with
    | some k => simp only [Option.map_some, Option.getD_some]
    | none =>
        simp only [Option.map_none, Option.getD_none]
        exact iff_of_false (htarget _ ·.symm) (htarget _ ·.symm)
  · intro s k hk
    refine ⟨by rw [Target.ofText_eq, hk]; rfl, ?_⟩
    exact Target.not_file_of_mem_keywords (List.mem_of_find?_eq_some hk)
  · intro s p h
    obtain ⟨-, hp⟩ := Target.ofText_eq_file_iff.mp h
    obtain ⟨htrimmed, hpads⟩ := Text.trim_eq_iff.mp (rfl : Text.trim s = Text.trim s)
    exact ⟨Text.trim s, hp, hpads, Target.trim_ne_empty_of_file h, htrimmed,
      Target.ofText_trim_of_file h⟩
  · intro vars value
    refine ⟨fun h => ?_, fun h => ?_, ?_⟩
    · simp only [ofVariables, logTargetVariable, h, Option.map_some, Option.getD_some]
    · simp only [ofVariables, logLevelVariable, h, Option.map_some, Option.getD_some]
    · rintro s rfl
      exact Utf8.lossy_encode s

/-- A keyword in capitals between blanks of two kinds, a path with capitals, and broken octets. -/
theorem ofVariables_words_respelled :
    let target : Bytes := [0x20, 0x2F, 0x56, 0xFF, 0x0A]
    let vars : Variables := fun name => if name = "SYSLOOKUP_LOG" then some target else none
    Text.Respelled "\u00a0StdErr\n" "stderr" ∧ Target.ofText "\u00a0StdErr\n" = .stderr ∧
      Text.Respelled "\tWARNING" "Warning" ∧ Level.ofText "\tWARNING" = Level.ofText "Warning" ∧
      Target.ofText " /Var/Log " = .file (.ofString "/Var/Log") ∧
      Target.ofText "/Var/Log" = .file (.ofString "/Var/Log") ∧
      (ofVariables vars).logTarget = .file (.ofString "/V\ufffd") := by
  intro target vars
  obtain ⟨htrim, hsame, -, -, hfile, hstable, hvars⟩ := ofVariables_words
  have hnone : Text.AllBlank "" := fun c hc => absurd hc List.not_mem_nil
  have hone (c : Char) (h : Text.isBlank c = true) : Text.AllBlank (String.ofList [c]) := by
    rw [Text.AllBlank, String.toList_ofList]
    exact List.forall_mem_singleton.mpr h
  have hstderr : Text.Respelled "\u00a0StdErr\n" "stderr" :=
    ⟨"StdErr", "stderr",
      ⟨"\u00a0", "\n", by decide, hone '\u00a0' (by decide), hone '\n' (by decide)⟩,
      ⟨"", "", by decide, hnone, hnone⟩, by unfold Text.SameLetters; decide⟩
  have hwarning : Text.Respelled "\tWARNING" "Warning" :=
    ⟨"WARNING", "Warning", ⟨"\t", "", by decide, hone '\t' (by decide), hnone⟩,
      ⟨"", "", by decide, hnone, hnone⟩, by unfold Text.SameLetters; decide⟩
  have hpath : Text.IsTrimmed "/Var/Log" := by
    refine ⟨fun c hc => ?_, fun c hc => ?_⟩
    · cases hc
      decide
    · cases hc
      decide
  have hword : Text.trim " /Var/Log " = "/Var/Log" :=
    (htrim _ _).mpr ⟨hpath, " ", " ", by decide, hone ' ' (by decide), hone ' ' (by decide)⟩
  have hlog : Target.ofText " /Var/Log " = .file (.ofString "/Var/Log") :=
    (hfile _ _).mpr ⟨by rw [hword]; decide, by rw [hword]⟩
  obtain ⟨w, -, hpads, -, htrimmed, hagain⟩ := hstable _ _ hlog
  obtain rfl : "/Var/Log" = w := hword.symm.trans ((htrim _ _).mpr ⟨htrimmed, hpads⟩)
  refine ⟨hstderr, ?_, hwarning, (hsame _ _ hwarning).2.1, hlog, hagain, ?_⟩
  · obtain ⟨-, -, -, hiff⟩ := hsame _ _ hstderr
    exact (hiff .stderr (by simp)).mpr (by decide)
  · rw [(hvars vars target).1 rfl]
    decide

end Config

end Linkage
