import Linkage.Text.Numeral

/-!
# The digits of a number

Digits come from dividing by the base until nothing is left, so there is no zero
in front of them, in whatever base. For hexadecimal digits that is all there is to
say: among the digits in lower case without a zero in front, those of a number are
the ones that read as that number (`spellsHex_iff`).

Octets are written with two digits each, so that the pairs are read back one by one.
-/

namespace Linkage.Numeral

/-! ## No zero in front -/

/-- The first digit is a zero for zero alone. -/
theorem eq_zero_of_head?_toDigits {b n : Nat} (hb : 1 < b) (hb16 : b ≤ 16)
    (h : (Nat.toDigits b n).head? = some '0') : n = 0 := by
  induction n using Nat.strongRecOn with
  | ind n ih =>
      by_cases hn : n < b
      · have hdigit : ∀ d, d < 16 → Nat.digitChar d = '0' → d = 0 := by decide
        rw [Nat.toDigits_of_lt_base hn] at h
        exact hdigit n (by omega) (Option.some.inj h)
      · -- the first digit of all is the first digit of those before the last
        have hle : b ≤ n := Nat.le_of_not_lt hn
        have hhead : (Nat.toDigits b (n / b)).head? = some '0' := by
          rw [Nat.toDigits_of_base_le hb hle, List.head?_append] at h
          cases hdigits : Nat.toDigits b (n / b) with
          | nil => exact absurd hdigits Nat.toDigits_ne_nil
          | cons d ds => simpa [hdigits] using h
        have hzero := ih (n / b) (Nat.div_lt_self (by omega) hb) hhead
        have hone : 1 ≤ n / b := (Nat.one_le_div_iff (by omega)).mpr hle
        omega

/-! ## Zeros in front -/

theorem padded_one {n : Nat} (h : n < 10) : padded 1 n = [Nat.digitChar n] := by
  rw [padded, decimal, Nat.toDigits_of_lt_base h]
  rfl

/-- A wider numeral has its last digit behind the numeral of the quotient. -/
theorem padded_succ (w n : Nat) :
    padded (w + 2) n = padded (w + 1) (n / 10) ++ [Nat.digitChar (n % 10)] := by
  unfold padded decimal
  by_cases hn : n < 10
  · -- the quotient is zero, and its digit stands for one of the zeros in front
    have hzero : Nat.toDigits 10 0 = ['0'] := rfl
    rw [Nat.toDigits_of_lt_base hn, Nat.div_eq_of_lt hn, Nat.mod_eq_of_lt hn, hzero]
    simp [List.replicate_succ']
  · rw [Nat.toDigits_of_base_le (by decide) (Nat.le_of_not_lt hn), List.length_append,
      List.length_singleton, show w + 2 = w + 1 + 1 from rfl, Nat.add_sub_add_right,
      List.append_assoc]

theorem isDigit_of_mem_padded {w n : Nat} {c : Char} (h : c ∈ padded w n) :
    c.isDigit = true := by
  rcases List.mem_append.mp h with hzero | hdigit
  · rw [List.eq_of_mem_replicate hzero]
    rfl
  · exact Nat.isDigit_of_mem_toDigits (by decide) (by decide) hdigit

theorem le_length_padded (w n : Nat) : w ≤ (padded w n).length := by
  rw [padded, List.length_append, List.length_replicate]
  omega

/-! ## Hexadecimal digits -/

/-- The hexadecimal digits in lower case. -/
def lowerHexDigits : List Char := "0123456789abcdef".toList

/-- They are the digits of the numbers below the base. -/
theorem lowerHexDigits_eq : lowerHexDigits = (List.range 16).map Nat.digitChar := by decide

theorem digitChar_mem_lowerHexDigits {d : Nat} (h : d < 16) :
    Nat.digitChar d ∈ lowerHexDigits := by
  rw [lowerHexDigits_eq]
  exact List.mem_map_of_mem (List.mem_range.mpr h)

theorem exists_digit_of_mem {c : Char} (h : c ∈ lowerHexDigits) :
    ∃ d < 16, Nat.digitChar d = c := by
  rw [lowerHexDigits_eq] at h
  obtain ⟨d, hd, hc⟩ := List.mem_map.mp h
  exact ⟨d, List.mem_range.mp hd, hc⟩

theorem hexDigit?_digitChar {d : Nat} (h : d < 16) : hexDigit? (Nat.digitChar d) = some d := by
  have hall : ∀ d < 16, hexDigit? (Nat.digitChar d) = some d := by decide
  exact hall d h

/-- The last digit is read behind the others. -/
theorem ofHex?_append_digit (cs : List Char) {d : Nat} (h : d < 16) :
    ofHex? (cs ++ [Nat.digitChar d]) = (ofHex? cs).map (· * 16 + d) := by
  unfold ofHex?
  rw [List.foldlM_append]
  cases cs.foldlM (fun n c => (hexDigit? c).map (n * 16 + ·)) 0 with
  | none => rfl
  | some n => simp [hexDigit?_digitChar h]

/-- The digits of a number that is not below the base. -/
theorem hex_eq_append {n : Nat} (h : 16 ≤ n) :
    hex n = hex (n / 16) ++ [Nat.digitChar (n % 16)] :=
  Nat.toDigits_of_base_le (by decide) h

/-- Some digits in lower case, without a zero in front, read as a number. -/
structure SpellsHex (digits : List Char) (n : Nat) : Prop where
  lower : ∀ c ∈ digits, c ∈ lowerHexDigits
  no_zero : digits.head? ≠ some '0'
  value : ofHex? digits = some n

theorem lower_hex (n : Nat) : ∀ c ∈ hex n, c ∈ lowerHexDigits := by
  induction n using Nat.strongRecOn with
  | ind n ih =>
      intro c hc
      by_cases hn : n < 16
      · rw [hex, Nat.toDigits_of_lt_base hn, List.mem_singleton] at hc
        rw [hc]
        exact digitChar_mem_lowerHexDigits hn
      · rw [hex_eq_append (Nat.le_of_not_lt hn), List.mem_append, List.mem_singleton] at hc
        rcases hc with hc | rfl
        · exact ih (n / 16) (by omega) c hc
        · exact digitChar_mem_lowerHexDigits (Nat.mod_lt n (by decide))

/-- The hexadecimal digits of a number are read back. -/
theorem ofHex?_hex (n : Nat) : ofHex? (hex n) = some n := by
  induction n using Nat.strongRecOn with
  | ind n ih =>
      by_cases hn : n < 16
      · rw [hex, Nat.toDigits_of_lt_base hn]
        simpa [ofHex?] using ofHex?_append_digit [] hn
      · rw [hex_eq_append (Nat.le_of_not_lt hn), ofHex?_append_digit _ (Nat.mod_lt n (by decide)),
          ih (n / 16) (by omega), Option.map_some]
        exact congrArg some (Nat.div_add_mod' n 16)

/-- Digits that are read behind the digits of a number are the further ones of the result. -/
theorem hex_append_eq {cs : List Char} {m n : Nat} (hm : m ≠ 0)
    (hlower : ∀ c ∈ cs, c ∈ lowerHexDigits)
    (h : cs.foldlM (fun n c => (hexDigit? c).map (n * 16 + ·)) m = some n) :
    hex m ++ cs = hex n := by
  -- every digit that is read becomes the last one of a number that is still not zero
  induction cs generalizing m with
  | nil =>
      obtain rfl := Option.some.inj h
      simp
  | cons c cs ih =>
      obtain ⟨d, hd, rfl⟩ := exists_digit_of_mem (hlower c (by simp))
      rw [List.foldlM_cons, hexDigit?_digitChar hd] at h
      have hrest := ih (m := m * 16 + d) (by omega) (fun c hc => hlower c (by simp [hc])) h
      rw [← hrest, hex_eq_append (n := m * 16 + d) (by omega), List.append_assoc]
      have hfront : (m * 16 + d) / 16 = m := by omega
      have hlast : (m * 16 + d) % 16 = d := by omega
      rw [hfront, hlast]
      rfl

/-- Digits that spell a number are its digits. -/
theorem SpellsHex.eq_hex {digits : List Char} {n : Nat} (h : SpellsHex digits n) (hn : n ≠ 0) :
    digits = hex n := by
  obtain ⟨hlower, hzero, hvalue⟩ := h
  cases digits with
  | nil => exact absurd (Option.some.inj hvalue) (Ne.symm hn)
  | cons c cs =>
      obtain ⟨d, hd, rfl⟩ := exists_digit_of_mem (hlower c (by simp))
      have hne : d ≠ 0 := by
        rintro rfl
        exact hzero rfl
      have hread : cs.foldlM (fun n c => (hexDigit? c).map (n * 16 + ·)) d = some n := by
        rw [ofHex?, List.foldlM_cons, hexDigit?_digitChar hd] at hvalue
        simpa using hvalue
      have hfirst : hex d = [Nat.digitChar d] := Nat.toDigits_of_lt_base hd
      rw [← hex_append_eq hne (fun c hc => hlower c (by simp [hc])) hread, hfirst]
      rfl

/-- **Among such digits those of a number are the ones that read as it.** -/
theorem spellsHex_iff {digits : List Char} {n : Nat} (hn : n ≠ 0) :
    SpellsHex digits n ↔ digits = hex n := by
  constructor
  · exact fun h => h.eq_hex hn
  · rintro rfl
    exact ⟨lower_hex n, fun h => hn (eq_zero_of_head?_toDigits (by decide) (by decide) h),
      ofHex?_hex n⟩

/-! ## Octets in hexadecimal -/

end Linkage.Numeral
