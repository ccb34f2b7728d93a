import Linkage.SystemLookup

/-!
# A name and its key say the same

A library knows its exports by octet strings that end in a NUL, and a fallback
table knows its names by text. Both are asked for the same name, so a law that
speaks of libraries and tables together needs to pass from one to the other:

* different texts have different octets, so a key belongs to one name only;
* the octet 0 stands in an encoded text exactly where the text has a NUL, so the
  place of the first NUL can be counted in octets.

A text is checked before anything is asked for it. What the check can come to is
listed once (`Checking`), and a lookup in any state refuses what the check refuses.
-/

namespace Linkage

namespace Utf8

/-! ## Encoding keeps texts apart -/

/-- The octets of a text are those in which it is kept. -/
theorem toByteArray_encode (s : String) : (encode s).toByteArray = s.toUTF8 :=
  String.utf8Encode_toList

theorem encode_eq (s : String) : encode s = s.toUTF8.data.toList := by
  rw [← toByteArray_encode, List.data_toByteArray]

theorem length_encode (s : String) : (encode s).length = s.utf8ByteSize := by
  rw [encode_eq]
  rfl

theorem encode_injective {s t : String} (h : encode s = encode t) : s = t := by
  have hb : s.toUTF8 = t.toUTF8 := by
    rw [← toByteArray_encode, ← toByteArray_encode, h]
  exact String.toByteArray_inj.mp hb

/-- The NUL behind a text does not blur it. -/
theorem terminated_inj {s t : String} : encode s ++ [0] = encode t ++ [0] ↔ s = t := by
  constructor
  · intro h
    exact encode_injective (List.append_cancel_right h)
  · rintro rfl
    rfl

/-! ## The octet 0 and the character NUL -/

theorem zero_mem_utf8EncodeChar {c : Char} : 0 ∈ String.utf8EncodeChar c ↔ c = '\x00' := by
  constructor
  · intro h
    have hv : c.val.toNat = 0 := by
      unfold String.utf8EncodeChar at h
      dsimp only at h
      generalize c.val.toNat = v at h
      split at h
      · simp [← UInt8.toNat_inj] at h
        omega
      · -- every octet of a longer form has its high bit set
        repeat' split at h
        all_goals
          simp [← UInt8.toNat_inj] at h
          omega
    exact Char.ext (UInt32.toNat_inj.mp hv)
  · rintro rfl
    decide

theorem zero_mem_encode {s : String} : 0 ∈ encode s ↔ '\x00' ∈ s.toList := by
  simp [encode, zero_mem_utf8EncodeChar]

/-- The octets in front of the first NUL are those of the characters in front of it. -/
theorem idxOf_zero_flatMap {l : List Char} (h : '\x00' ∈ l) :
    (l.flatMap String.utf8EncodeChar).idxOf 0
      = ((l.takeWhile (· ≠ '\x00')).flatMap String.utf8EncodeChar).length := by
  induction l with
  | nil => exact absurd h (by simp)
  | cons c rest ih =>
      by_cases hc : c = '\x00'
      · subst hc
        have hnul : String.utf8EncodeChar '\x00' = [0] := by decide
        simp [hnul]
      · have hrest : '\x00' ∈ rest := (List.mem_cons.mp h).resolve_left (Ne.symm hc)
        -- another character has no octet 0, so the search goes on behind its octets
        have hout : 0 ∉ String.utf8EncodeChar c := fun hm => hc (zero_mem_utf8EncodeChar.mp hm)
        rw [List.flatMap_cons, List.idxOf_append, if_neg hout, ih hrest,
          List.takeWhile_cons_of_pos (by simpa using hc), List.flatMap_cons, List.length_append,
          Nat.add_comm]

end Utf8

namespace SymbolName

/-! ## Which texts are names -/

/-- A text with a NUL is no name, and the refusal says at which octet the first one stands. -/
theorem ofString_of_zero_mem {s : String} (h : 0 ∈ Utf8.encode s) :
    ofString s = .error (.interiorNul ((Utf8.encode s).idxOf 0)) := by
  have hmem : '\x00' ∈ s.toList := Utf8.zero_mem_encode.mp h
  have hne : s ≠ "" := by
    rintro rfl
    exact absurd hmem (by simp)
  unfold ofString
  rw [dif_neg hne, dif_pos hmem, ← Utf8.idxOf_zero_flatMap hmem]
  rfl

/-- Every other text that is not empty is one. -/
theorem exists_text_eq {s : String} (hne : s ≠ "") (h : 0 ∉ Utf8.encode s) :
    ∃ n : SymbolName, n.text = s :=
  ⟨⟨s, hne, fun hm => h (Utf8.zero_mem_encode.mpr hm)⟩, rfl⟩

@[simp] theorem ofString_text (n : SymbolName) : ofString n.text = .ok n := by
  unfold ofString
  rw [dif_neg n.ne_empty, dif_neg n.no_nul]

/-- The first NUL of a text stands behind so many octets. -/
def FirstNul (s : String) (position : Nat) : Prop :=
  ∃ before after : String, s = before ++ "\x00" ++ after ∧ '\x00' ∉ before.toList ∧
    before.utf8ByteSize = position

theorem FirstNul.mem {s : String} {position : Nat} (h : FirstNul s position) :
    '\x00' ∈ s.toList := by
  obtain ⟨before, after, rfl, -, -⟩ := h
  simp

theorem exists_firstNul {s : String} (h : '\x00' ∈ s.toList) :
    ∃ position, FirstNul s position := by
  obtain ⟨before, after, hsplit, hnew⟩ := List.eq_append_cons_of_mem h
  refine ⟨_, String.ofList before, String.ofList after, ?_, by simpa using hnew, rfl⟩
  rw [← String.toList_inj, hsplit]
  simp

/-- The first octet 0 is the first NUL. -/
theorem FirstNul.idxOf_eq {s : String} {position : Nat} (h : FirstNul s position) :
    (Utf8.encode s).idxOf 0 = position := by
  have hmem := h.mem
  obtain ⟨before, after, rfl, hnew, rfl⟩ := h
  have hfront : ∀ c ∈ before.toList, decide (c ≠ '\x00') = true := by
    intro c hc
    exact decide_eq_true fun h0 => hnew (h0 ▸ hc)
  have hnul : ("\x00" : String).toList = ['\x00'] := rfl
  have htake : (before ++ "\x00" ++ after).toList.takeWhile (· ≠ '\x00') = before.toList := by
    rw [String.toList_append, String.toList_append, hnul, List.append_assoc,
      List.takeWhile_append_of_pos hfront]
    simp
  rw [Utf8.encode, Utf8.idxOf_zero_flatMap hmem, htake, ← Utf8.length_encode]
  rfl

/-- What the check of a text can come to, and when. -/
inductive Checking (s : String) : Except NameError SymbolName → Prop where
  | empty : s = "" → Checking s (.error .empty)
  | nul {position : Nat} : FirstNul s position → Checking s (.error (.interiorNul position))
  | name {n : SymbolName} : n.text = s → Checking s (.ok n)

theorem checking (s : String) : Checking s (ofString s) := by
  by_cases hempty : s = ""
  · rw [ofString, dif_pos hempty]
    exact .empty hempty
  · by_cases hnul : 0 ∈ Utf8.encode s
    · obtain ⟨position, hfirst⟩ := exists_firstNul (Utf8.zero_mem_encode.mp hnul)
      rw [ofString_of_zero_mem hnul, hfirst.idxOf_eq]
      exact .nul hfirst
    · obtain ⟨n, rfl⟩ := exists_text_eq hempty hnul
      rw [ofString_text]
      exact .name rfl

theorem text_of_ofString {s : String} {n : SymbolName} (h : ofString s = .ok n) : n.text = s := by
  have hc := checking s
  rw [h] at hc
  cases hc with
  | name htext => exact htext

theorem ofString_eq_empty_iff {s : String} : ofString s = .error .empty ↔ s = "" := by
  constructor
  · intro h
    have hc := checking s
    rw [h] at hc
    cases hc with
    | empty hs => exact hs
  · rintro rfl
    rfl

theorem ofString_eq_interiorNul_iff {s : String} {position : Nat} :
    ofString s = .error (.interiorNul position) ↔ FirstNul s position := by
  constructor
  · intro h
    have hc := checking s
    rw [h] at hc
    cases hc with
    | nul hfirst => exact hfirst
  · intro h
    rw [ofString_of_zero_mem (Utf8.zero_mem_encode.mpr h.mem), h.idxOf_eq]

theorem exists_ofString_iff {s : String} :
    (∃ n, ofString s = .ok n) ↔ s ≠ "" ∧ '\x00' ∉ s.toList := by
  constructor
  · rintro ⟨n, hn⟩
    obtain rfl := text_of_ofString hn
    exact ⟨n.ne_empty, n.no_nul⟩
  · rintro ⟨hne, hnul⟩
    exact ⟨_, ofString_text ⟨s, hne, hnul⟩⟩

/-- Two names have one key exactly when they have one text. -/
theorem key_inj {n m : SymbolName} : n.key = m.key ↔ n.text = m.text := Utf8.terminated_inj

end SymbolName

namespace SystemLookup

/-! ## A lookup checks its names -/

theorem resolve_text (l : SystemLookup) (n : SymbolName) :
    l.resolve n.text = .ok (l.state.source.resolve n) := by
  rw [resolve, SymbolName.ofString_text]
  rfl

/-- To find a name is to resolve it and forget where it came from. -/
theorem find_eq (l : SystemLookup) (name : String) :
    l.find name = (l.resolve name).map (Option.map Resolution.symbol) := by
  unfold find resolve
  cases SymbolName.ofString name <;> rfl

/-- A refusal comes from the check, and the state has no part in it. -/
theorem resolve_eq_error_iff {l : SystemLookup} {name : String} {e : NameError} :
    l.resolve name = .error e ↔ SymbolName.ofString name = .error e := by
  unfold resolve
  cases SymbolName.ofString name <;> simp [Except.map]

theorem find_eq_error_iff {l : SystemLookup} {name : String} {e : NameError} :
    l.find name = .error e ↔ SymbolName.ofString name = .error e := by
  rw [find_eq, ← resolve_eq_error_iff]
  cases l.resolve name <;> simp [Except.map]

/--
**Names are checked exactly, and the same everywhere.**

A text is a name if it is not empty and has no NUL. The refusal of another one says that it is
empty, or how many octets stand in front of its first NUL. A name keeps the text as it is, and
its key is the octets of the text with one NUL behind them; so keys tell names apart as texts do.
A lookup in any state refuses the texts that are no names, with the same refusal, and no others.
-/
theorem checks_names (s : String) :
    ((∃ n, SymbolName.ofString s = .ok n) ↔ s ≠ "" ∧ '\x00' ∉ s.toList) ∧
    (SymbolName.ofString s = .error .empty ↔ s = "") ∧
    (∀ position, SymbolName.ofString s = .error (.interiorNul position) ↔
      SymbolName.FirstNul s position) ∧
    (∀ n, SymbolName.ofString s = .ok n →
      n.text = s ∧ n.key = s.toUTF8.data.toList ++ [0] ∧
        ∀ m : SymbolName, n.key = m.key ↔ n.text = m.text) ∧
    ∀ (l : SystemLookup) (e : NameError),
      (l.find s = .error e ↔ SymbolName.ofString s = .error e) ∧
        (l.resolve s = .error e ↔ SymbolName.ofString s = .error e) := by
  refine ⟨SymbolName.exists_ofString_iff, SymbolName.ofString_eq_empty_iff,
    fun position => SymbolName.ofString_eq_interiorNul_iff, ?_,
    fun l e => ⟨find_eq_error_iff, resolve_eq_error_iff⟩⟩
  intro n hn
  obtain rfl := SymbolName.text_of_ofString hn
  refine ⟨rfl, ?_, fun m => SymbolName.key_inj⟩
  rw [SymbolName.key, Utf8.encode_eq]

/-- An accented letter takes two octets, in a key and in front of a NUL. -/
theorem checks_names_accented :
    (∃ n, SymbolName.ofString "né" = .ok n ∧ n.key = [0x6E, 0xC3, 0xA9, 0]) ∧
    ∀ platform cause,
      (degraded platform cause).find "né\x00t\x00" = .error (.interiorNul 3) := by
  constructor
  · obtain ⟨hname, -, -, hkeeps, -⟩ := checks_names "né"
    obtain ⟨n, hn⟩ := hname.mpr ⟨by decide, by decide⟩
    obtain ⟨-, hkey, -⟩ := hkeeps n hn
    exact ⟨n, hn, hkey.trans (by decide)⟩
  · intro platform cause
    obtain ⟨-, -, hnul, -, hrefuses⟩ := checks_names "né\x00t\x00"
    exact (hrefuses _ _).1.mpr ((hnul 3).mpr ⟨"né", "t\x00", by decide, by decide, by decide⟩)

end SystemLookup

end Linkage
