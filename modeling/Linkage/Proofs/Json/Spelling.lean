import Linkage.Json.Printer
import Linkage.Json.Reader

/-!
# A compact text is one line

Whatever a value holds, its compact text has no control character: strings escape
the controls that they hold, at any depth and in keys as well, and numbers and
marks have none. So there is no line break in a compact text, and a text can be
put on a line of its own without a look at it.
-/

namespace Linkage.Json

/-- None of the characters is a control below U+0020. -/
def NoControl (cs : List Char) : Prop := ∀ c ∈ cs, 0x20 ≤ c.toNat

namespace NoControl

variable {cs ds : List Char} {c : Char}

@[simp] theorem nil : NoControl [] := by
  intro c hc
  exact absurd hc (by simp)

@[simp] theorem cons_iff : NoControl (c :: cs) ↔ 0x20 ≤ c.toNat ∧ NoControl cs := by
  simp [NoControl]

@[simp] theorem append_iff : NoControl (cs ++ ds) ↔ NoControl cs ∧ NoControl ds := by
  simp [NoControl, or_imp, forall_and]

theorem of_subset (h : NoControl ds) (hsub : cs ⊆ ds) : NoControl cs :=
  fun c hc => h c (hsub hc)

theorem newline_notMem (h : NoControl cs) : '\n' ∉ cs :=
  fun hm => absurd (h '\n' hm) (by decide)

/-! ## Numbers -/

theorem decimal (n : Nat) : NoControl (Numeral.decimal n) := by
  intro c hc
  have hdigit : c.isDigit = true := Nat.isDigit_of_mem_toDigits (by decide) (by decide) hc
  exact Nat.le_trans (by decide) (Char.isDigit_iff_toNat.mp hdigit).1

theorem zeros (n : Nat) : NoControl (List.replicate n '0') := by
  intro c hc
  rw [List.eq_of_mem_replicate hc]
  decide

theorem integerText (i : Int) : NoControl (Json.integerText i) := by
  cases i with
  | ofNat n => exact decimal n
  | negSucc n => exact cons_iff.mpr ⟨by decide, decimal (n + 1)⟩

theorem exponentText (e : Int) : NoControl (Json.exponentText e) := by
  unfold Json.exponentText
  split
  · exact cons_iff.mpr ⟨by decide, integerText e⟩
  · exact integerText e

theorem decimalText (d : Decimal.Scientific) : NoControl (Json.decimalText d) := by
  have htake : ∀ n, NoControl ((Numeral.decimal d.digits).take n) := fun n =>
    (decimal d.digits).of_subset (List.take_subset n _)
  have hdrop : ∀ n, NoControl ((Numeral.decimal d.digits).drop n) := fun n =>
    (decimal d.digits).of_subset (List.drop_subset n _)
  unfold Json.decimalText
  dsimp only
  split
  · simp [decimal, zeros]
  · split
    · simp [htake, hdrop]
    · split
      · simp [decimal, zeros]
      · split
        · simp [htake, exponentText]
        · have htail : NoControl (Numeral.decimal d.digits).tail :=
            (decimal d.digits).of_subset (List.tail_sublist _).subset
          simp [htake, htail, exponentText]

theorem floatText (x : Binary64) : NoControl (Json.floatText x) := by
  unfold Json.floatText
  split
  · simp [decimalText]
  · simp [decimalText]

theorem boolText (b : Bool) : NoControl (Json.boolText b) := by
  cases b with
  | false => simp [Json.boolText]
  | true => simp [Json.boolText]

end NoControl

/-! ## Characters in strings -/

/-- How a character can stand in a string. -/
inductive Escaped (c : Char) : List Char → Prop where
  /-- As it is. -/
  | plain : c ≠ '"' → c ≠ '\\' → 0x20 ≤ c.toNat → Escaped c [c]
  /-- As a letter behind a backslash. -/
  | letter {x : Char} : unescape? x = some c → x ≠ 'u' → 0x20 ≤ x.toNat → Escaped c ['\\', x]
  /-- As a number of four digits, of which the first two are zeros. -/
  | number {x y : Char} : c.toNat < 0x20 → unit? '0' '0' x y = some c.toNat →
      NoControl [x, y] → Escaped c ['\\', 'u', '0', '0', x, y]

theorem unit?_hexOctet {n : Nat} (h : n < 0x20) :
    unit? '0' '0' (Nat.digitChar (n / 16)) (Nat.digitChar (n % 16)) = some n ∧
      NoControl [Nat.digitChar (n / 16), Nat.digitChar (n % 16)] := by
  have hdigits : ∀ n ∈ List.range 0x20,
      unit? '0' '0' (Nat.digitChar (n / 16)) (Nat.digitChar (n % 16)) = some n ∧
        0x20 ≤ (Nat.digitChar (n / 16)).toNat ∧ 0x20 ≤ (Nat.digitChar (n % 16)).toNat := by
    decide
  obtain ⟨hunit, hhigh, hlow⟩ := hdigits n (List.mem_range.mpr h)
  exact ⟨hunit, by simp [hhigh, hlow]⟩

/-- The controls without a letter are written as numbers, and all else stands for itself. -/
theorem escaped (c : Char) : Escaped c (escape c) := by
  -- these have a letter, or stand for themselves behind a backslash
  have hletters : ∀ d ∈ ['"', '\\', '\x08', '\x0c', '\n', '\r', '\t'], Escaped d (escape d) := by
    simp only [List.forall_mem_cons]
    exact ⟨.letter rfl (by decide) (by decide), .letter rfl (by decide) (by decide),
      .letter rfl (by decide) (by decide), .letter rfl (by decide) (by decide),
      .letter rfl (by decide) (by decide), .letter rfl (by decide) (by decide),
      .letter rfl (by decide) (by decide), by simp⟩
  by_cases hc : c ∈ ['"', '\\', '\x08', '\x0c', '\n', '\r', '\t']
  · exact hletters c hc
  · simp only [List.mem_cons, not_or] at hc
    obtain ⟨hquote, hbackslash, h8, hc, hn, hr, ht, -⟩ := hc
    unfold escape
    rw [if_neg hquote, if_neg hbackslash, if_neg h8, if_neg hc, if_neg hn, if_neg hr, if_neg ht]
    -- of all others, a control is written as a number
    by_cases hcontrol : c.toNat < 0x20
    · rw [if_pos hcontrol]
      have hoctet : (UInt8.ofNat c.toNat).toNat = c.toNat := by
        rw [UInt8.toNat_ofNat']
        omega
      obtain ⟨hunit, hplain⟩ := unit?_hexOctet hcontrol
      rw [Numeral.hexOctet, hoctet]
      exact .number hcontrol hunit hplain
    · rw [if_neg hcontrol]
      exact .plain hquote hbackslash (Nat.le_of_not_lt hcontrol)

theorem noControl_escape (c : Char) : NoControl (escape c) := by
  have h := escaped c
  generalize escape c = cs at h ⊢
  cases h with
  | plain hquote hbackslash hc => simp [hc]
  | letter hx hne hle => simp [hle]
  | number hc hunit hxy => simpa using hxy

theorem noControl_quote (s : String) : NoControl (quote s) := by
  have hall : NoControl (s.toList.flatMap escape) := by
    intro c hc
    obtain ⟨d, -, hd⟩ := List.mem_flatMap.mp hc
    exact noControl_escape d c hd
  simp [quote, hall]

/-! ## Values -/

mutual

/-- **No compact text holds a control.** -/
theorem noControl_compactChars : ∀ v : Json, NoControl (compactChars v)
  | .null => by simp [compactChars]
  | .bool b => by simpa only [compactChars] using NoControl.boolText b
  | .int i => by simpa only [compactChars] using NoControl.integerText i
  | .float x => by simpa only [compactChars] using NoControl.floatText x
  | .str s => by simpa only [compactChars] using noControl_quote s
  | .arr items => by simp [compactChars, noControl_compactItems true items]
  | .obj members => by simp [compactChars, noControl_compactMembers true members]

theorem noControl_compactItems : ∀ (first : Bool) (items : List Json),
    NoControl (compactItems first items)
  | _, [] => by simp [compactItems]
  | first, v :: rest => by
      cases first <;>
        simp [compactItems, noControl_compactChars v, noControl_compactItems false rest]

theorem noControl_compactMembers : ∀ (first : Bool) (members : List (String × Json)),
    NoControl (compactMembers first members)
  | _, [] => by simp [compactMembers]
  | first, (k, v) :: rest => by
      cases first <;>
        simp [compactMembers, noControl_quote, noControl_compactChars v,
          noControl_compactMembers false rest]

end

theorem newline_notMem_compact (v : Json) : '\n' ∉ v.compact.toList := by
  rw [compact, String.toList_ofList]
  exact (noControl_compactChars v).newline_notMem

end Linkage.Json
