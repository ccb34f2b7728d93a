import Linkage.Proofs.Digits
import Linkage.Proofs.Json.Spelling

/-!
# Strings and numbers are read back

What the printer writes for a string or a whole number, the reader takes from the
front of a text again, and leaves what stands behind it:

* a string ends at its closing quote, since no other quote stands raw in it;
* a number ends where something else begins than a digit, a point or an exponent.
-/

namespace Linkage.Json

variable {ε : Type}

/-- Reading goes on with what was read. -/
@[simp] theorem ok_bind {α β : Type} (a : α) (f : α → Except (ReadError ε) β) :
    (Except.ok a >>= f) = f a := rfl

/-! ## Strings -/

theorem stringFrom_quote (read rest : List Char) :
    stringFrom (ε := ε) read ('"' :: rest) = .ok (String.ofList read.reverse, rest) := by
  rw [stringFrom.eq_def]
  exact if_pos rfl

/-- A character is read back, in whichever way it stands in the string. -/
theorem stringFrom_escape (read : List Char) (c : Char) (rest : List Char) :
    stringFrom (ε := ε) read (escape c ++ rest) = stringFrom (c :: read) rest := by
  have h := escaped c
  generalize escape c = cs at h ⊢
  cases h with
  | plain hquote hbackslash hc =>
      rw [List.singleton_append, stringFrom.eq_def]
      dsimp only
      rw [if_neg hquote, if_neg hbackslash, if_neg (Nat.not_lt.mpr hc)]
  | letter hx hne hle =>
      simp only [List.cons_append, List.nil_append]
      rw [stringFrom.eq_def]
      simp [hx, hne]
  | number hc hunit hxy =>
      have hplane : c.toNat < 0xD800 ∨ 0xDFFF < c.toNat := by omega
      simp only [List.cons_append, List.nil_append]
      rw [stringFrom.eq_def]
      simp only [hunit, if_pos hplane, Char.ofNat_toNat]
      rfl

theorem stringFrom_escapes (read s rest : List Char) :
    stringFrom (ε := ε) read (s.flatMap escape ++ '"' :: rest) =
      .ok (String.ofList (read.reverse ++ s), rest) := by
  induction s generalizing read with
  | nil => simpa using stringFrom_quote read rest
  | cons c s ih =>
      rw [List.flatMap_cons, List.append_assoc, stringFrom_escape, ih]
      simp

/-- The spelling of a string is a quote and what `readString` reads. -/
theorem quote_append (s : String) (rest : List Char) :
    quote s ++ rest = '"' :: (s.toList.flatMap escape ++ '"' :: rest) := by
  simp [quote]

/-- **A string is read back.** -/
theorem readString_escapes (s : String) (rest : List Char) :
    readString (ε := ε) (s.toList.flatMap escape ++ '"' :: rest) = .ok (s, rest) := by
  rw [readString, stringFrom_escapes]
  simp

/-! ## Digits -/

/-- A numeral does not go on with this text. -/
def EndsNumeral (rest : List Char) : Prop :=
  ∀ c ∈ rest.head?, c.isDigit = false ∧ c ≠ '.' ∧ c ≠ 'e' ∧ c ≠ 'E'

theorem endsNumeral_cons {c : Char} {rest : List Char}
    (h : c.isDigit = false ∧ c ≠ '.' ∧ c ≠ 'e' ∧ c ≠ 'E') : EndsNumeral (c :: rest) := by
  rintro d hd
  obtain rfl : c = d := by simpa using hd
  exact h

theorem isDigit_of_mem_decimal {n : Nat} {c : Char} (h : c ∈ Numeral.decimal n) :
    c.isDigit = true :=
  Nat.isDigit_of_mem_toDigits (by decide) (by decide) h

theorem takeWhile_decimal (n : Nat) {rest : List Char} (h : EndsNumeral rest) :
    (Numeral.decimal n ++ rest).takeWhile Char.isDigit = Numeral.decimal n := by
  rw [List.takeWhile_append_of_pos fun c hc => isDigit_of_mem_decimal hc]
  cases rest with
  | nil => simp
  | cons c rest => simp [(h c rfl).1]

theorem dropWhile_decimal (n : Nat) {rest : List Char} (h : EndsNumeral rest) :
    (Numeral.decimal n ++ rest).dropWhile Char.isDigit = rest := by
  rw [List.dropWhile_append_of_pos fun c hc => isDigit_of_mem_decimal hc]
  cases rest with
  | nil => rfl
  | cons c rest => simp [(h c rfl).1]

/-- A spelling of several digits does not begin with zero. -/
theorem not_padded_decimal (n : Nat) :
    ¬ (Numeral.decimal n = [] ∨
      ((Numeral.decimal n).head? = some '0' ∧ 1 < (Numeral.decimal n).length)) := by
  rintro (hnil | ⟨hhead, hlength⟩)
  · exact Nat.toDigits_ne_nil hnil
  · have hzero : n = 0 := Numeral.eq_zero_of_head?_toDigits (by decide) (by decide) hhead
    rw [hzero] at hlength
    exact absurd hlength (by decide)

/-! ## The significand -/

theorem le_ofDigitChars (ds : List Char) (n : Nat) : n ≤ Nat.ofDigitChars 10 ds n := by
  induction ds generalizing n with
  | nil => exact Nat.le_refl n
  | cons d ds ih =>
      rw [Nat.ofDigitChars_cons]
      have hrest := ih (10 * n + (d.toNat - '0'.toNat))
      omega

/-- Digits are all absorbed if their number fits in 64 bits. -/
theorem absorb_eq (ds : List Char) (n : Nat)
    (h : Nat.ofDigitChars 10 ds n < Numeral.significandBound) :
    Numeral.absorb n ds = (Nat.ofDigitChars 10 ds n, []) := by
  induction ds generalizing n with
  | nil => rfl
  | cons d ds ih =>
      rw [Nat.ofDigitChars_cons, Nat.mul_comm] at h
      have hnext := Nat.lt_of_le_of_lt (le_ofDigitChars ds _) h
      rw [Numeral.absorb, if_pos hnext, ih _ h, Nat.ofDigitChars_cons, Nat.mul_comm 10]

theorem absorb_decimal {n : Nat} (h : n < Numeral.significandBound) :
    Numeral.absorb 0 (Linkage.Numeral.decimal n) = (n, []) := by
  have hn : Nat.ofDigitChars 10 (Linkage.Numeral.decimal n) 0 = n :=
    Linkage.Numeral.ofDecimal_decimal n
  rw [absorb_eq _ _ (by rwa [hn]), hn]

/-! ## Whole numbers -/

/-- The numeral of a whole number. -/
def numeralOf : Int → Numeral
  | .ofNat n => ⟨false, Linkage.Numeral.decimal n, none, none⟩
  | .negSucc n => ⟨true, Linkage.Numeral.decimal (n + 1), none, none⟩

theorem readFraction_of_ends {rest : List Char} (h : EndsNumeral rest) :
    readFraction (ε := ε) rest = .ok (none, rest) := by
  cases rest with
  | nil => rfl
  | cons c rest => simp [readFraction, (h c rfl).2.1]

theorem readExponent_of_ends {rest : List Char} (h : EndsNumeral rest) :
    readExponent (ε := ε) rest = .ok (none, rest) := by
  cases rest with
  | nil => rfl
  | cons c rest => simp [readExponent, (h c rfl).2.2]

/-- Digits do not begin with a sign. -/
theorem decimal_append_ne (n : Nat) (rest cs : List Char) :
    Linkage.Numeral.decimal n ++ rest ≠ '-' :: cs := by
  intro h
  cases hdigits : Linkage.Numeral.decimal n with
  | nil => exact Nat.toDigits_ne_nil hdigits
  | cons d ds =>
      have hd : d = '-' := by simpa [hdigits] using congrArg List.head? h
      have hdigit : d.isDigit = true := isDigit_of_mem_decimal (n := n) (by simp [hdigits])
      rw [hd] at hdigit
      exact absurd hdigit (by decide)

/-- A whole number is read as far as its digits go, with its sign. -/
theorem readNumeral_integerText (i : Int) {rest : List Char} (h : EndsNumeral rest) :
    readNumeral (ε := ε) (integerText i ++ rest) = .ok (numeralOf i, rest) := by
  cases i with
  | ofNat n =>
      -- the first character is a digit, so no sign is taken
      show readNumeral (Linkage.Numeral.decimal n ++ rest) = _
      unfold readNumeral
      split
      rename_i negative cs hsign
      have hunsigned : (false, Linkage.Numeral.decimal n ++ rest) = (negative, cs) := by
        split at hsign
        · rename_i hminus
          exact absurd hminus (decimal_append_ne n rest _)
        · exact hsign
      obtain ⟨rfl, rfl⟩ := Prod.mk.inj hunsigned
      simp only [takeWhile_decimal n h, dropWhile_decimal n h, if_neg (not_padded_decimal n),
        readFraction_of_ends h, readExponent_of_ends h, ok_bind]
      rfl
  | negSucc n =>
      simp only [readNumeral, integerText, List.cons_append, takeWhile_decimal (n + 1) h,
        dropWhile_decimal (n + 1) h, if_neg (not_padded_decimal (n + 1)),
        readFraction_of_ends h, readExponent_of_ends h, ok_bind]
      rfl

/-- An integer of at most 64 bits, signed or unsigned. -/
def FitsInteger (i : Int) : Prop := -0x8000000000000000 ≤ i ∧ i < 0x10000000000000000

theorem value?_numeralOf {i : Int} (h : FitsInteger i) : (numeralOf i).value? = some (.int i) := by
  obtain ⟨hlow, hhigh⟩ := h
  unfold Numeral.value?
  cases i with
  | ofNat n =>
      have hn : n < Numeral.significandBound := Int.ofNat_lt.mp hhigh
      simp [numeralOf, absorb_decimal hn]
  | negSucc n =>
      have hn : n + 1 < Numeral.significandBound := by
        unfold Numeral.significandBound
        omega
      have hnegative : n + 1 ≤ Numeral.negativeBound := by
        unfold Numeral.negativeBound
        omega
      simp [numeralOf, absorb_decimal hn, hnegative, Int.negSucc_eq]

/-- **A whole number is read back.** -/
theorem readNumber_integerText {i : Int} (hi : FitsInteger i) {rest : List Char}
    (h : EndsNumeral rest) :
    readNumber (ε := ε) (integerText i ++ rest) = .ok (.int i, rest) := by
  unfold readNumber
  rw [readNumeral_integerText i h]
  simp only [ok_bind, value?_numeralOf hi]
  rfl

end Linkage.Json
