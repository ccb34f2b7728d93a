import Linkage.Proofs.Digits

/-!
# Texts in the order of numbers

Texts are ordered by the first character in which they differ, so `10` stands in
front of `9`. Among texts of one length this cannot happen: numerals that zeros
fill up to one width have the order of their numbers.

What is put together of such texts keeps the order too, if a division tells which
number stands in each part and the quotient comes first (`KeepsOrder.split`). The
digits of a numeral are put together in this way, and so are hours, minutes and
seconds.
-/

namespace Linkage

namespace Text

/-- A text in front of another one of its length stays there, whatever follows the two. -/
theorem append_lt_append {s t : List Char} (h : s < t) (hlength : s.length = t.length)
    (x y : List Char) : s ++ x < t ++ y := by
  induction s generalizing t with
  | nil =>
      obtain rfl : t = [] := List.length_eq_zero_iff.mp hlength.symm
      exact absurd h (List.lt_irrefl [])
  | cons c s ih =>
      cases t with
      | nil => exact absurd hlength (by simp)
      | cons d t =>
          rw [List.cons_append, List.cons_append, List.cons_lt_cons_iff]
          rcases List.cons_lt_cons_iff.mp h with hlt | ⟨rfl, hlt⟩
          · exact .inl hlt
          · exact .inr ⟨rfl, ih hlt (by simpa using hlength)⟩

/-- Below a bound, numbers have texts of one length, in the order of the numbers. -/
structure KeepsOrder (bound length : Nat) (code : Nat → List Char) : Prop where
  length_eq : ∀ n < bound, (code n).length = length
  lt : ∀ m n, m < n → n < bound → code m < code n

namespace KeepsOrder

variable {bound length base width : Nat} {code code' digit : Nat → List Char}

theorem congr (h : KeepsOrder bound length code) (hcode : ∀ n < bound, code' n = code n) :
    KeepsOrder bound length code' where
  length_eq n hn := by
    rw [hcode n hn]
    exact h.length_eq n hn
  lt m n hmn hn := by
    rw [hcode m (Nat.lt_trans hmn hn), hcode n hn]
    exact h.lt m n hmn hn

theorem mono {limit : Nat} (h : KeepsOrder bound length code) (hle : limit ≤ bound) :
    KeepsOrder limit length code where
  length_eq n hn := h.length_eq n (Nat.lt_of_lt_of_le hn hle)
  lt m n hmn hn := h.lt m n hmn (Nat.lt_of_lt_of_le hn hle)

/-- A mark behind every text. -/
theorem append (h : KeepsOrder bound length code) (mark : List Char) :
    KeepsOrder bound (length + mark.length) fun n => code n ++ mark where
  length_eq n hn := by
    rw [List.length_append, h.length_eq n hn]
  lt m n hmn hn := by
    refine append_lt_append (h.lt m n hmn hn) ?_ _ _
    rw [h.length_eq m (Nat.lt_trans hmn hn), h.length_eq n hn]

/-- A mark in front of every text. -/
theorem cons (h : KeepsOrder bound length code) (mark : Char) :
    KeepsOrder bound (length + 1) fun n => mark :: code n where
  length_eq n hn := by
    rw [List.length_cons, h.length_eq n hn]
  lt m n hmn hn := List.cons_lt_cons_iff.mpr (.inr ⟨rfl, h.lt m n hmn hn⟩)

/-- The text of the quotient, and behind it the text of the remainder. -/
theorem split (h : KeepsOrder bound length code) (hdigit : KeepsOrder base width digit) :
    KeepsOrder (bound * base) (length + width) fun n => code (n / base) ++ digit (n % base) where
  length_eq n hn := by
    have hbase : 0 < base := Nat.pos_of_lt_mul_left hn
    rw [List.length_append, h.length_eq _ (Nat.div_lt_of_lt_mul (Nat.mul_comm _ _ ▸ hn)),
      hdigit.length_eq _ (Nat.mod_lt n hbase)]
  lt m n hmn hn := by
    have hbase : 0 < base := Nat.pos_of_lt_mul_left hn
    have hquot : n / base < bound := Nat.div_lt_of_lt_mul (Nat.mul_comm _ _ ▸ hn)
    rcases Nat.lt_or_eq_of_le (Nat.div_le_div_right (c := base) (Nat.le_of_lt hmn)) with
      hlt | heq
    · refine append_lt_append (h.lt _ _ hlt hquot) ?_ _ _
      rw [h.length_eq _ (Nat.lt_trans hlt hquot), h.length_eq _ hquot]
    · -- with equal quotients the remainders have the order of the numbers
      have hmod : m % base < n % base := by
        have hm := Nat.div_add_mod m base
        have hn := Nat.div_add_mod n base
        rw [heq] at hm
        omega
      rw [heq]
      exact List.append_left_lt (hdigit.lt _ _ hmod (Nat.mod_lt n hbase))

/-- Numbers that are told by others in their order. -/
theorem comp {limit : Nat} {key : Nat → Nat} (h : KeepsOrder bound length code)
    (hlt : ∀ m n, m < n → n < limit → key m < key n) (hkey : ∀ n < limit, key n < bound) :
    KeepsOrder limit length fun n => code (key n) where
  length_eq n hn := h.length_eq _ (hkey n hn)
  lt m n hmn hn := h.lt _ _ (hlt m n hmn hn) (hkey n hn)

end KeepsOrder

end Text

namespace Numeral

theorem keepsOrder_digit : Text.KeepsOrder 10 1 fun n => [Nat.digitChar n] where
  length_eq _ _ := rfl
  lt m n hmn hn := by
    have hall : ∀ n < 10, ∀ m < n, Nat.digitChar m < Nat.digitChar n := by decide
    exact List.cons_lt_cons_iff.mpr (.inl (hall n hn m hmn))

/-- **Numerals of one width have the order of their numbers.** -/
theorem keepsOrder_padded (w : Nat) :
    Text.KeepsOrder (Nat.pow 10 (w + 1)) (w + 1) (padded (w + 1)) := by
  induction w with
  | zero => exact keepsOrder_digit.congr fun n hn => padded_one hn
  | succ w ih => exact (ih.split keepsOrder_digit).congr fun n _ => padded_succ w n

end Numeral

end Linkage
