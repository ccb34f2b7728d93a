import Linkage.Proofs.Json.Grammar

/-!
# Numerals as they may be written

A numeral may have a fraction and an exponent, so the same number has many spellings;
only no zero may stand in front of other digits. A numeral without fraction and
exponent is read as an integer if it fits in 64 bits and is not minus zero, and all
other numerals as floating-point numbers (`value?_eq_int_iff`).
-/

namespace Linkage.Json

variable {ε : Type} {cs rest : List Char}

/-! ## Spellings -/

/-- One digit at least. -/
def Digits (ds : List Char) : Prop := ds ≠ [] ∧ ∀ d ∈ ds, d.isDigit = true

/-- How a fraction is written. -/
inductive FractionText : Option (List Char) → List Char → Prop where
  | none : FractionText none []
  | some {ds : List Char} : Digits ds → FractionText (some ds) ('.' :: ds)

/-- How an exponent is written. -/
inductive ExponentText : Option (Bool × List Char) → List Char → Prop where
  | none : ExponentText none []
  | bare {e : Char} {ds : List Char} : e = 'e' ∨ e = 'E' → Digits ds →
      ExponentText (some (false, ds)) (e :: ds)
  | plus {e : Char} {ds : List Char} : e = 'e' ∨ e = 'E' → Digits ds →
      ExponentText (some (false, ds)) (e :: '+' :: ds)
  | minus {e : Char} {ds : List Char} : e = 'e' ∨ e = 'E' → Digits ds →
      ExponentText (some (true, ds)) (e :: '-' :: ds)

/-- How a numeral is written: no zero stands in front of other digits. -/
inductive NumeralText : Numeral → List Char → Prop where
  | mk {negative : Bool} {whole : List Char} {fraction : Option (List Char)}
      {exponent : Option (Bool × List Char)} {cs ds : List Char} :
      Digits whole → (whole.head? = some '0' → whole.length = 1) →
      FractionText fraction cs → ExponentText exponent ds →
      NumeralText ⟨negative, whole, fraction, exponent⟩
        ((if negative then ['-'] else []) ++ (whole ++ (cs ++ ds)))

/-- Digits do not go on with this text. -/
def EndsDigits (rest : List Char) : Prop := ∀ c ∈ rest.head?, c.isDigit = false

theorem takeWhile_digits {ds : List Char} (h : Digits ds) (hrest : EndsDigits rest) :
    (ds ++ rest).takeWhile Char.isDigit = ds := by
  rw [List.takeWhile_append_of_pos h.2]
  cases rest with
  | nil => simp
  | cons c rest => simp [hrest c rfl]

theorem dropWhile_digits {ds : List Char} (h : Digits ds) (hrest : EndsDigits rest) :
    (ds ++ rest).dropWhile Char.isDigit = rest := by
  rw [List.dropWhile_append_of_pos h.2]
  cases rest with
  | nil => rfl
  | cons c rest => simp [hrest c rfl]

theorem digits_takeWhile (h : cs.takeWhile Char.isDigit ≠ []) :
    Digits (cs.takeWhile Char.isDigit) :=
  ⟨h, fun _ hd => List.mem_takeWhile_imp hd⟩

theorem EndsNumeral.endsDigits (h : EndsNumeral rest) : EndsDigits rest := fun c hc => (h c hc).1

/-- Digits do not begin with a sign. -/
theorem Digits.append_ne {ds : List Char} (h : Digits ds) {c : Char} (hc : c.isDigit = false)
    (rest left : List Char) : ds ++ rest ≠ c :: left := by
  intro heq
  cases ds with
  | nil => exact h.1 rfl
  | cons d ds =>
      obtain rfl : d = c := by simpa using congrArg List.head? heq
      have hd := h.2 d (by simp)
      rw [hc] at hd
      exact absurd hd (by decide)

theorem FractionText.readFraction {fraction : Option (List Char)} (h : FractionText fraction cs)
    (hdigits : EndsDigits rest) (hpoint : ∀ c ∈ rest.head?, c ≠ '.') :
    readFraction (ε := ε) (cs ++ rest) = .ok (fraction, rest) := by
  cases h with
  | none =>
      cases rest with
      | nil => rfl
      | cons c rest => simp [Json.readFraction, hpoint c rfl]
  | some hds =>
      rw [List.cons_append, Json.readFraction]
      simp only [takeWhile_digits hds hdigits, dropWhile_digits hds hdigits, if_neg hds.1]

/-- Behind the exponent nothing can stand that goes on with the digits in front of it. -/
theorem ExponentText.ends {exponent : Option (Bool × List Char)}
    (h : ExponentText exponent cs) (hrest : EndsNumeral rest) :
    EndsDigits (cs ++ rest) ∧ ∀ c ∈ (cs ++ rest).head?, c ≠ '.' := by
  have hletter {e : Char} (he : e = 'e' ∨ e = 'E') (left : List Char) :
      EndsDigits (e :: left) ∧ ∀ c ∈ (e :: left).head?, c ≠ '.' := by
    have hfacts : e.isDigit = false ∧ e ≠ '.' := by
      rcases he with rfl | rfl
      all_goals decide
    refine ⟨?_, ?_⟩
    all_goals
      rintro c hc
      obtain rfl : e = c := by simpa using hc
    · exact hfacts.1
    · exact hfacts.2
  cases h with
  | none => exact ⟨hrest.endsDigits, fun c hc => (hrest c hc).2.1⟩
  | bare he => exact hletter he _
  | plus he => exact hletter he _
  | minus he => exact hletter he _

theorem FractionText.ends {fraction : Option (List Char)} (h : FractionText fraction cs)
    (hrest : EndsDigits rest) : EndsDigits (cs ++ rest) := by
  cases h with
  | none => exact hrest
  | some hds =>
      rintro c hc
      obtain rfl : '.' = c := by simpa using hc
      decide

theorem exists_of_readFraction {fraction : Option (List Char)}
    (h : readFraction (ε := ε) cs = .ok (fraction, rest)) :
    ∃ text, cs = text ++ rest ∧ FractionText fraction text := by
  unfold readFraction at h
  split at h
  · rename_i left
    dsimp only at h
    split at h
    case isTrue => cases h
    case isFalse hne =>
      cases h
      refine ⟨'.' :: left.takeWhile Char.isDigit, ?_, .some (digits_takeWhile hne)⟩
      rw [List.cons_append, List.takeWhile_append_dropWhile]
  · cases h
    exact ⟨[], rfl, .none⟩

theorem ExponentText.readExponent {exponent : Option (Bool × List Char)}
    (h : ExponentText exponent cs) (hrest : EndsNumeral rest) :
    readExponent (ε := ε) (cs ++ rest) = .ok (exponent, rest) := by
  have hdigits := hrest.endsDigits
  cases h with
  | none => exact readExponent_of_ends hrest
  | @bare e ds he hds =>
      rw [List.cons_append, Json.readExponent, if_pos he]
      · simp only [takeWhile_digits hds hdigits, dropWhile_digits hds hdigits, if_neg hds.1]
      · exact fun left => hds.append_ne (by decide) rest left
      · exact fun left => hds.append_ne (by decide) rest left
  | plus he hds =>
      rw [List.cons_append, List.cons_append, Json.readExponent, if_pos he]
      simp only [takeWhile_digits hds hdigits, dropWhile_digits hds hdigits, if_neg hds.1]
  | minus he hds =>
      rw [List.cons_append, List.cons_append, Json.readExponent, if_pos he]
      simp only [takeWhile_digits hds hdigits, dropWhile_digits hds hdigits, if_neg hds.1]

theorem exists_of_readExponent {exponent : Option (Bool × List Char)}
    (h : readExponent (ε := ε) cs = .ok (exponent, rest)) :
    ∃ text, cs = text ++ rest ∧ ExponentText exponent text := by
  unfold readExponent at h
  split at h
  · rename_i c left
    split at h
    case isTrue he =>
      split at h
      rename_i negative left' hsign
      dsimp only at h
      split at h
      case isTrue => cases h
      case isFalse hne =>
        cases h
        have hds := digits_takeWhile hne
        have hleft := List.takeWhile_append_dropWhile (p := Char.isDigit) (l := left')
        split at hsign
        · cases hsign
          exact ⟨c :: '-' :: _, by rw [List.cons_append, List.cons_append, hleft], .minus he hds⟩
        · cases hsign
          exact ⟨c :: '+' :: _, by rw [List.cons_append, List.cons_append, hleft], .plus he hds⟩
        · cases hsign
          exact ⟨c :: _, by rw [List.cons_append, hleft], .bare he hds⟩
    case isFalse =>
      cases h
      exact ⟨[], rfl, .none⟩
  · cases h
    exact ⟨[], rfl, .none⟩

/-- Reads a numeral behind its sign. -/
def readUnsigned (negative : Bool) (cs : List Char) :
    Except (ReadError ε) (Numeral × List Char) := do
  let whole := cs.takeWhile Char.isDigit
  if whole = [] ∨ (whole.head? = some '0' ∧ 1 < whole.length) then .error .malformed
  let (fraction, cs) ← readFraction (cs.dropWhile Char.isDigit)
  let (exponent, cs) ← readExponent cs
  return (⟨negative, whole, fraction, exponent⟩, cs)

theorem readNumeral_minus (cs : List Char) :
    readNumeral (ε := ε) ('-' :: cs) = readUnsigned true cs := rfl

theorem readNumeral_of_ne (h : ∀ left, cs ≠ '-' :: left) :
    readNumeral (ε := ε) cs = readUnsigned false cs := by
  unfold readNumeral
  split
  rename_i negative left hsign
  split at hsign
  · exact absurd rfl (h _)
  · cases hsign
    rfl

/-- A numeral is read as far as it goes. -/
theorem NumeralText.readNumeral {n : Numeral} {text : List Char} (h : NumeralText n text)
    (hrest : EndsNumeral rest) : readNumeral (ε := ε) (text ++ rest) = .ok (n, rest) := by
  obtain @⟨negative, whole, fraction, exponent, cs, ds, hwhole, hzero, hfraction, hexponent⟩ := h
  obtain ⟨hdigits, hpoint⟩ := hexponent.ends hrest
  have hends : EndsDigits (cs ++ (ds ++ rest)) := hfraction.ends hdigits
  have hpadded : ¬ (whole = [] ∨ (whole.head? = some '0' ∧ 1 < whole.length)) := by
    rintro (hnil | ⟨hhead, hlength⟩)
    · exact hwhole.1 hnil
    · exact absurd hlength (by simp [hzero hhead])
  have hunsigned : readUnsigned (ε := ε) negative (whole ++ (cs ++ (ds ++ rest))) =
      .ok (⟨negative, whole, fraction, exponent⟩, rest) := by
    unfold readUnsigned
    simp only [takeWhile_digits hwhole hends, dropWhile_digits hwhole hends, if_neg hpadded,
      hfraction.readFraction hdigits hpoint, hexponent.readExponent hrest, ok_bind]
    rfl
  rw [List.append_assoc, List.append_assoc, List.append_assoc]
  cases negative with
  | true => exact (readNumeral_minus _).trans hunsigned
  | false =>
      have hsign := readNumeral_of_ne (ε := ε) fun left =>
        hwhole.append_ne (by decide) (cs ++ (ds ++ rest)) left
      exact hsign.trans hunsigned

theorem exists_of_readUnsigned {negative : Bool} {n : Numeral}
    (h : readUnsigned (ε := ε) negative cs = .ok (n, rest)) :
    ∃ text, (if negative then ['-'] else []) ++ cs = text ++ rest ∧ NumeralText n text := by
  unfold readUnsigned at h
  dsimp only at h
  split at h
  case isTrue => cases h
  case isFalse hpadded =>
    obtain ⟨⟨fraction, left⟩, hfraction, h⟩ := exists_of_bind h
    obtain ⟨⟨exponent, left'⟩, hexponent, h⟩ := exists_of_bind h
    cases h
    obtain ⟨text, hdrop, htext⟩ := exists_of_readFraction hfraction
    obtain ⟨text', rfl, htext'⟩ := exists_of_readExponent hexponent
    have hwhole : Digits (cs.takeWhile Char.isDigit) :=
      digits_takeWhile fun hnil => hpadded (.inl hnil)
    have hzero : (cs.takeWhile Char.isDigit).head? = some '0' →
        (cs.takeWhile Char.isDigit).length = 1 := by
      intro hhead
      have hpos := List.length_pos_iff.mpr hwhole.1
      by_contra hne
      exact hpadded (.inr ⟨hhead, by omega⟩)
    refine ⟨_, ?_, .mk hwhole hzero htext htext'⟩
    have hcs := List.takeWhile_append_dropWhile (p := Char.isDigit) (l := cs)
    rw [List.append_assoc, List.append_assoc, List.append_assoc, ← hdrop, hcs]

theorem exists_of_readNumeral {n : Numeral} (h : readNumeral (ε := ε) cs = .ok (n, rest)) :
    ∃ text, cs = text ++ rest ∧ NumeralText n text := by
  by_cases hminus : ∃ left, cs = '-' :: left
  · obtain ⟨left, rfl⟩ := hminus
    rw [readNumeral_minus] at h
    exact exists_of_readUnsigned h
  · rw [readNumeral_of_ne fun left hcs => hminus ⟨left, hcs⟩] at h
    exact exists_of_readUnsigned h

/-! ## Numbers -/

theorem absorb_lt (ds : List Char) {n : Nat} (h : n < Numeral.significandBound) :
    (Numeral.absorb n ds).1 < Numeral.significandBound := by
  fun_induction Numeral.absorb n ds with
  | case1 => exact h
  | case2 n d rest next hnext ih => exact ih hnext
  | case3 => exact h

/-- Digits that are all absorbed make the whole number. -/
theorem ofDigitChars_of_absorb {ds : List Char} {n m : Nat}
    (h : Numeral.absorb n ds = (m, [])) : Nat.ofDigitChars 10 ds n = m := by
  fun_induction Numeral.absorb n ds with
  | case1 n => exact congrArg Prod.fst h
  | case2 n d rest next hnext ih =>
      rw [Nat.ofDigitChars_cons, Nat.mul_comm]
      exact ih h
  | case3 => cases h

/-- The whole part of a numeral as a number with the sign of the numeral. -/
def Numeral.signed (n : Numeral) : Int :=
  if n.negative then -(Linkage.Numeral.ofDecimal n.whole : Int)
  else Linkage.Numeral.ofDecimal n.whole

theorem toFloat?_ne_int (n : Numeral) (significand : Nat) (exponent i : Int) :
    n.toFloat? significand exponent ≠ some (.int i) := by
  intro h
  obtain ⟨x, -, hx⟩ := Option.map_eq_some_iff.mp h
  cases hx

/--
A numeral is read as an integer if it has neither fraction nor exponent, fits in 64
bits and is not minus zero. All others are read as floating-point numbers, if at all.
-/
theorem value?_eq_int_iff (n : Numeral) (i : Int) : n.value? = some (.int i) ↔
    n.fraction = none ∧ n.exponent = none ∧ i = n.signed ∧ FitsInteger i ∧
      ¬ (n.negative = true ∧ i = 0) := by
  obtain ⟨negative, whole, fraction, exponent⟩ := n
  unfold Numeral.value? Numeral.signed
  obtain ⟨m, zeros, habsorb⟩ : ∃ m zeros, Numeral.absorb 0 whole = (m, zeros) := ⟨_, _, rfl⟩
  have hm : m < Numeral.significandBound := by
    have hlt := absorb_lt whole (n := 0) (by decide)
    rwa [habsorb] at hlt
  simp only [habsorb]
  by_cases hwhole : fraction = none ∧ exponent = none ∧ zeros = []
  · obtain ⟨rfl, rfl, rfl⟩ := hwhole
    have hvalue : Linkage.Numeral.ofDecimal whole = m := ofDigitChars_of_absorb habsorb
    unfold Numeral.significandBound at hm
    rw [if_pos ⟨rfl, rfl, rfl⟩, hvalue]
    cases negative with
    | false =>
        have hfits : FitsInteger m := by
          unfold FitsInteger
          omega
        simp only [Bool.not_false, if_true, Bool.false_eq_true, if_false, Option.some.injEq,
          Json.int.injEq, true_and, false_and, not_false_eq_true, and_true]
        exact ⟨fun h => ⟨h.symm, h ▸ hfits⟩, fun h => h.1.symm⟩
    | true =>
        simp only [Bool.not_true, Bool.false_eq_true, if_false, if_true, true_and]
        by_cases hsigned : m ≠ 0 ∧ m ≤ Numeral.negativeBound
        · rw [if_pos hsigned]
          have hbound : m ≤ 0x8000000000000000 := hsigned.2
          have hfits : FitsInteger (-m) := by
            unfold FitsInteger
            omega
          constructor
          · rintro h
            obtain rfl : -(m : Int) = i := Json.int.inj (Option.some.inj h)
            exact ⟨rfl, hfits, by omega⟩
          · rintro ⟨rfl, -, -⟩
            rfl
        · rw [if_neg hsigned]
          refine iff_of_false (toFloat?_ne_int _ _ _ _) ?_
          rintro ⟨rfl, hfits, hzero⟩
          unfold FitsInteger at hfits
          unfold Numeral.negativeBound at hsigned
          omega
  · rw [if_neg hwhole]
    refine iff_of_false (toFloat?_ne_int _ _ _ _) ?_
    rintro ⟨hfraction, hexponent, hi, hfits, -⟩
    -- the digits would all be absorbed
    have hlt : Linkage.Numeral.ofDecimal whole < Numeral.significandBound := by
      unfold FitsInteger at hfits
      unfold Numeral.significandBound
      split at hi
      all_goals omega
    have hall := (absorb_eq whole 0 hlt).symm.trans habsorb
    exact hwhole ⟨hfraction, hexponent, (Prod.mk.inj hall).2.symm⟩

/-- A numeral is read as an integer that fits, or as a floating-point number. -/
theorem fits_or_float {n : Numeral} {v : Json} (h : n.value? = some v) :
    (∃ i, v = .int i ∧ FitsInteger i) ∨ ∃ x, v = .float x := by
  have hfloat {significand : Nat} {exponent : Int} (hv : n.toFloat? significand exponent = some v) :
      ∃ x, v = .float x := by
    obtain ⟨x, -, rfl⟩ := Option.map_eq_some_iff.mp hv
    exact ⟨_, rfl⟩
  have hfits {i : Int} (hi : v = .int i) : FitsInteger i := by
    subst hi
    exact ((value?_eq_int_iff n i).mp h).2.2.2.1
  unfold Numeral.value? at h
  dsimp only at h
  split at h
  · split at h
    · exact .inl ⟨_, (Option.some.inj h).symm, hfits (Option.some.inj h).symm⟩
    · split at h
      · exact .inl ⟨_, (Option.some.inj h).symm, hfits (Option.some.inj h).symm⟩
      · exact .inr (hfloat h)
  · exact .inr (hfloat h)

theorem NumeralText.readNumber {n : Numeral} {text : List Char} (h : NumeralText n text)
    {v : Json} (hv : n.value? = some v) (hrest : EndsNumeral rest) :
    readNumber (ε := ε) (text ++ rest) = .ok (v, rest) := by
  rw [Json.readNumber, h.readNumeral hrest, ok_bind]
  simp only [hv]
  rfl

theorem exists_of_readNumber {v : Json} (h : readNumber (ε := ε) cs = .ok (v, rest)) :
    ∃ n text, cs = text ++ rest ∧ NumeralText n text ∧ n.value? = some v := by
  obtain ⟨⟨n, left⟩, hn, hvalue⟩ := exists_of_bind h
  obtain ⟨text, rfl, htext⟩ := exists_of_readNumeral hn
  dsimp only at hvalue
  split at hvalue
  · rename_i hv
    cases hvalue
    exact ⟨n, text, rfl, htext, hv⟩
  · cases hvalue

/-- A numeral starts with its sign or with a digit. -/
theorem NumeralText.begins {n : Numeral} {text : List Char} (h : NumeralText n text) :
    ∃ c cs, text = c :: cs ∧ startsNumber c = true := by
  obtain @⟨negative, whole, fraction, exponent, cs, ds, hwhole, -, -, -⟩ := h
  cases negative with
  | true => exact ⟨'-', _, rfl, rfl⟩
  | false =>
      cases whole with
      | nil => exact absurd rfl hwhole.1
      | cons d whole => exact ⟨d, _, rfl, by simp [startsNumber, hwhole.2 d (by simp)]⟩

theorem NumeralText.append_ne {n : Numeral} {text : List Char} (h : NumeralText n text) {c : Char}
    (hc : startsNumber c = false) (rest left : List Char) : text ++ rest ≠ c :: left := by
  intro heq
  obtain ⟨d, ds, rfl, hstart⟩ := h.begins
  exact ne_of_startsNumber hstart hc (List.cons.inj heq).1

end Linkage.Json
