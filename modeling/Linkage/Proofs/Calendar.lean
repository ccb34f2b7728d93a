import Linkage.Proofs.DayCount
import Linkage.Symbol

/-!
# Dates from days

The conversion takes a number of days apart into eras, years of an era, days of a
year and months, by divisions alone. The year of an era is the part that is not
plain to see, since the leap days come in cycles of four, with exceptions at the
end of three centuries out of four. So a day of an era is first placed by hand,
in its century, in its four years, and in its year (`InEra`); the division of the
conversion then finds that very year.

The parts put together again are the closed count of `Date.daysFromEpoch`, so the
conversion and the count undo each other; and since the closed count is the plain
one, the date is the one that lies so many days behind the epoch.

Computed in words the conversion could go wrong in two more ways: a sum or a
product could leave the range of a word, or a difference could fall below zero.
`dateOfDay?` makes each of its steps in words and gives nothing if one of them
fails. The days that a number of seconds in a word can reach are few enough that
none does.
-/

namespace Linkage

namespace Calendar

/-! ## The year of a day -/

/--
A day of an era within its century, its four years and its year, all counted from zero. The last
of four years has a day 365, unless its century ends with it and the era does not.
-/
structure InEra (doe century cycle year doy : Nat) : Prop where
  sum : doe = 36524 * century + 1461 * cycle + 365 * year + doy
  century_le : century ≤ 3
  cycle_le : cycle ≤ 24
  year_le : year ≤ 3
  doy_le : doy ≤ 365
  last : doy = 365 → year = 3 ∧ (cycle = 24 → century = 3)

/-- Every day of an era has its place in it. -/
theorem exists_inEra {doe : Nat} (h : doe < daysPerEra) :
    ∃ century cycle year doy, InEra doe century cycle year doy := by
  unfold daysPerEra at h
  -- the last day of the era and the last day of four years are one more than the divisions allow
  obtain ⟨century, rest, hdoe, hcentury, hrest, hlast⟩ :
      ∃ century rest, doe = 36524 * century + rest ∧ century ≤ 3 ∧ rest ≤ 36524 ∧
        (rest = 36524 → century = 3) :=
    ⟨min (doe / 36524) 3, doe - 36524 * min (doe / 36524) 3, by omega, by omega, by omega,
      by omega⟩
  obtain ⟨year, doy, hyears, hyear, hdoy, hleap⟩ :
      ∃ year doy, rest % 1461 = 365 * year + doy ∧ year ≤ 3 ∧ doy ≤ 365 ∧
        (doy = 365 → year = 3) :=
    ⟨min (rest % 1461 / 365) 3, rest % 1461 - 365 * min (rest % 1461 / 365) 3, by omega,
      by omega, by omega, by omega⟩
  exact ⟨century, rest / 1461, year, doy, by omega, hcentury, by omega, hyear, hdoy,
    fun h365 => ⟨hleap h365, by omega⟩⟩

variable {doe century cycle year doy : Nat}

/-- The days of a century stay within it; its last day may be the last one of the era. -/
theorem InEra.centuries_eq (h : InEra doe century cycle year doy) :
    doe / 36524 = century + doe / 146096 := by
  obtain ⟨hsum, hcentury, hcycle, hyear, hdoy, hlast⟩ := h
  have hrest : 1461 * cycle + 365 * year + doy ≤ 36524 := by omega
  by_cases hend : 1461 * cycle + 365 * year + doy = 36524
  · have h365 : doy = 365 := by omega
    have hthree : century = 3 := (hlast h365).2 (by omega)
    omega
  · have hinside : doe / 36524 = century := by omega
    have hbefore : doe / 146096 = 0 := by omega
    omega

/-- Near the end of four years one leap day too many is counted, but not on the last day. -/
theorem InEra.leaps_eq (h : InEra doe century cycle year doy) :
    doe / 1460 = 25 * century + cycle ∧ doy ≤ 364 ∨
      doe / 1460 = 25 * century + cycle + 1 ∧ 1 ≤ doy := by
  obtain ⟨hsum, hcentury, hcycle, hyear, hdoy, hlast⟩ := h
  have hdoe : doe =
      1460 * (25 * century + cycle) + (24 * century + cycle + 365 * year + doy) := by omega
  by_cases hend : 24 * century + cycle + 365 * year + doy < 1460
  · have hne : doy ≠ 365 := by
      intro h365
      have hthree := (hlast h365).1
      omega
    exact .inl ⟨by omega, by omega⟩
  · exact .inr ⟨by omega, by omega⟩

/-- The division finds the year in which a day stands. -/
theorem InEra.yearOfEra_eq (h : InEra doe century cycle year doy) :
    yearOfEra doe = 100 * century + 4 * cycle + year := by
  have hcenturies := h.centuries_eq
  have hleaps := h.leaps_eq
  obtain ⟨hsum, -, -, -, hdoy, -⟩ := h
  unfold yearOfEra
  rw [hcenturies]
  rcases hleaps with ⟨hleaps, hdoy⟩ | ⟨hleaps, hone⟩
  · rw [hleaps]
    omega
  · rw [hleaps]
    omega

theorem InEra.dayOfYear_eq (h : InEra doe century cycle year doy) : dayOfYear doe = doy := by
  unfold dayOfYear
  dsimp only
  rw [h.yearOfEra_eq]
  obtain ⟨hsum, hcentury, hcycle, hyear, -, -⟩ := h
  omega

theorem InEra.year_lt (h : InEra doe century cycle year doy) :
    100 * century + 4 * cycle + year < 400 := by
  obtain ⟨-, hcentury, hcycle, hyear, -, -⟩ := h
  omega

theorem yearOfEra_lt (h : doe < daysPerEra) : yearOfEra doe < 400 := by
  obtain ⟨century, cycle, year, doy, hin⟩ := exists_inEra h
  rw [hin.yearOfEra_eq]
  exact hin.year_lt

theorem dayOfYear_le (h : doe < daysPerEra) : dayOfYear doe ≤ 365 := by
  obtain ⟨century, cycle, year, doy, hin⟩ := exists_inEra h
  rw [hin.dayOfYear_eq]
  exact hin.doy_le

/-- Where a year has a day 365, the January behind it belongs to a leap year. -/
theorem InEra.isLeap_of_last (h : InEra doe century cycle year doy) (h365 : doy = 365) (era : Nat) :
    isLeap (100 * century + 4 * cycle + year + era * 400 + 1) = true := by
  obtain ⟨-, hcentury, hcycle, -, -, hlast⟩ := h
  obtain ⟨hyear, hthree⟩ := hlast h365
  rw [isLeap_iff]
  by_cases hcycle : cycle = 24
  · have hcentury := hthree hcycle
    omega
  · omega

/-! ## The month of a day -/

/-- The division finds the month in which a day stands. -/
theorem monthFromMarch_spec {doy : Nat} (h : doy ≤ 365) :
    monthFromMarch doy ≤ 11 ∧ daysFromMarch (monthFromMarch doy) ≤ doy ∧
      doy < daysFromMarch (monthFromMarch doy + 1) := by
  unfold monthFromMarch daysFromMarch
  omega

/-! ## The date of a day -/

/-- The parts of a day that lies behind the epoch. -/
structure Parts (days era yoe doy mp : Nat) : Prop where
  sum : days + 719468 = 146097 * era + (365 * yoe + yoe / 4 - yoe / 100 + doy)
  yoe_lt : yoe < 400
  doy_le : doy ≤ 365
  leap : doy = 365 → isLeap (yoe + era * 400 + 1) = true
  mp_le : mp ≤ 11
  month_le : daysFromMarch mp ≤ doy
  lt_month : doy < daysFromMarch (mp + 1)
  date : dateOfDay days = if mp < 10 then ⟨yoe + era * 400, mp + 3, doy - daysFromMarch mp + 1⟩
    else ⟨yoe + era * 400 + 1, mp - 9, doy - daysFromMarch mp + 1⟩

theorem exists_parts (days : Nat) : ∃ era yoe doy mp, Parts days era yoe doy mp := by
  have hdoe : dayOfEra days < daysPerEra := Nat.mod_lt _ (by decide)
  obtain ⟨century, cycle, year, doy, h⟩ := exists_inEra hdoe
  have hmonth := monthFromMarch_spec h.doy_le
  refine ⟨era days, 100 * century + 4 * cycle + year, doy, monthFromMarch doy, ?_, h.year_lt,
    h.doy_le, fun h365 => h.isLeap_of_last h365 _, hmonth.1, hmonth.2.1, hmonth.2.2, ?_⟩
  · obtain ⟨hsum, hcentury, hcycle, hyear, -, -⟩ := h
    have hsplit : daysPerEra * era days + dayOfEra days = days + epochOffset :=
      Nat.div_add_mod ..
    rw [daysPerEra, epochOffset] at hsplit
    omega
  · -- the two halves of the year differ in the month and in the year that January begins
    unfold dateOfDay
    dsimp only
    rw [h.dayOfYear_eq, h.yearOfEra_eq, daysFromMarch]
    split
    · rw [if_neg (by omega), Nat.add_zero]
    · have hle := hmonth.1
      rw [if_pos (by omega)]

/-- The date of a day is one that the calendar has. -/
theorem dateOfDay_valid (days : Nat) : (dateOfDay days).Valid := by
  obtain ⟨era, yoe, doy, mp, h⟩ := exists_parts days
  have hmp := h.mp_le
  have hle := h.month_le
  have hlt := h.lt_month
  rw [h.date]
  split
  · have hlength := daysFromMarch_succ (yoe + era * 400) (show mp ≤ 9 by omega)
    exact ⟨by simp, by dsimp only; omega, by simp, by dsimp only; omega⟩
  · -- January has its 31 days, and February what the year leaves for it
    obtain rfl | rfl : mp = 10 ∨ mp = 11 := by omega
    · unfold daysFromMarch at hle hlt ⊢
      refine ⟨by simp, by simp, by simp, ?_⟩
      show doy - (153 * 10 + 2) / 5 + 1 ≤ 31
      omega
    · have hdoy := h.doy_le
      unfold daysFromMarch at hle hlt ⊢
      refine ⟨by simp, by simp, by simp, ?_⟩
      show doy - (153 * 11 + 2) / 5 + 1 ≤ if isLeap (yoe + era * 400 + 1) then 29 else 28
      by_cases h365 : doy = 365
      · rw [if_pos (h.leap h365)]
        omega
      · split <;> omega

/-- **The closed count undoes the conversion.** -/
theorem daysFromEpoch_dateOfDay (days : Nat) : (dateOfDay days).daysFromEpoch = days := by
  obtain ⟨era, yoe, doy, mp, h⟩ := exists_parts days
  have hsum := h.sum
  have hyoe := h.yoe_lt
  have hle := h.month_le
  rw [h.date]
  unfold daysFromMarch at hle ⊢
  split
  · unfold Date.daysFromEpoch
    dsimp only
    rw [if_neg (by omega), if_pos (by omega)]
    omega
  · have hmp := h.mp_le
    unfold Date.daysFromEpoch
    dsimp only
    rw [if_pos (by omega), if_neg (by omega)]
    omega

/-- The date of a day is in the calendar, and lies so many days behind the epoch. -/
theorem dateOfDay_spec (days : Nat) :
    (dateOfDay days).Valid ∧ (dateOfDay days).count = Date.epoch.count + days := by
  have hvalid := dateOfDay_valid days
  have hclosed := hvalid.daysFromEpoch_eq
  rw [daysFromEpoch_dateOfDay] at hclosed
  exact ⟨hvalid, by omega⟩

/-- A date of the calendar that lies some days behind the epoch is the date of that day. -/
theorem eq_dateOfDay_iff {d : Date} {days : Nat} :
    d = dateOfDay days ↔ d.Valid ∧ d.count = Date.epoch.count + days := by
  obtain ⟨hvalid, hcount⟩ := dateOfDay_spec days
  constructor
  · rintro rfl
    exact ⟨hvalid, hcount⟩
  · rintro ⟨hd, hdays⟩
    exact hd.eq_of_count hvalid (hdays.trans hcount.symm)

theorem dateOfDay_zero : dateOfDay 0 = Date.epoch := by decide

/-- The day after has the date after. -/
theorem dateOfDay_succ (days : Nat) : dateOfDay (days + 1) = (dateOfDay days).next := by
  obtain ⟨hvalid, hcount⟩ := dateOfDay_spec days
  refine (eq_dateOfDay_iff.mpr ⟨hvalid.next, ?_⟩).symm
  rw [hvalid.count_next, hcount, Nat.add_assoc]

end Calendar

/-! ## Steps in words -/

/-- A computation does not fail, and its result has a property. -/
def Yields {α : Type} (x : Option α) (p : α → Prop) : Prop := ∃ a, x = some a ∧ p a

theorem Yields.bind {α β : Type} {x : Option α} {p : α → Prop} {f : α → Option β}
    {q : β → Prop} (hx : Yields x p) (hf : ∀ a, p a → Yields (f a) q) : Yields (x >>= f) q := by
  obtain ⟨a, rfl, ha⟩ := hx
  exact hf a ha

theorem Yields.pure {α : Type} {a : α} {p : α → Prop} (h : p a) : Yields (Pure.pure a) p :=
  ⟨a, rfl, h⟩

namespace Word

/-- The sum of two words, if it is one. -/
def add? (a b : Word) : Option Word :=
  if a.toNat + b.toNat < UInt64.size then some (a + b) else none

/-- The product of two words, if it is one. -/
def mul? (a b : Word) : Option Word :=
  if a.toNat * b.toNat < UInt64.size then some (a * b) else none

/-- The difference of two words, if the second is not the greater one. -/
def sub? (a b : Word) : Option Word :=
  if b.toNat ≤ a.toNat then some (a - b) else none

variable {a b : Word}

theorem add?_yields (h : a.toNat + b.toNat < UInt64.size) :
    Yields (a.add? b) (·.toNat = a.toNat + b.toNat) :=
  ⟨a + b, if_pos h, (UInt64.toNat_add a b).trans (Nat.mod_eq_of_lt h)⟩

theorem mul?_yields (h : a.toNat * b.toNat < UInt64.size) :
    Yields (a.mul? b) (·.toNat = a.toNat * b.toNat) :=
  ⟨a * b, if_pos h, (UInt64.toNat_mul a b).trans (Nat.mod_eq_of_lt h)⟩

theorem sub?_yields (h : b.toNat ≤ a.toNat) :
    Yields (a.sub? b) (·.toNat = a.toNat - b.toNat) :=
  ⟨a - b, if_pos h, UInt64.toNat_sub_of_le _ _ (UInt64.le_iff_toNat_le.mpr h)⟩

end Word

namespace Calendar

/-- The year of a day of an era, in words. -/
def yearOfEra? (doe : Word) : Option Word := do
  let days ← (← (← doe.sub? (doe / 1460)).add? (doe / 36524)).sub? (doe / 146096)
  return days / 365

/-- The day of its year of a day of an era, in words. -/
def dayOfYear? (doe yoe : Word) : Option Word := do
  doe.sub? (← (← (← Word.mul? 365 yoe).add? (yoe / 4)).sub? (yoe / 100))

/-- The month of a day of a year, in words. -/
def monthFromMarch? (doy : Word) : Option Word := do
  return (← (← Word.mul? 5 doy).add? 2) / 153

/-- The day of a month, in words. -/
def dayOfMonth? (doy mp : Word) : Option Word := do
  (← doy.sub? ((← (← Word.mul? 153 mp).add? 2) / 5)).add? 1

/-- The month of a year that begins in January, in words. -/
def monthOfYear? (mp : Word) : Option Word := if mp < 10 then mp.add? 3 else mp.sub? 9

/-- The year that begins in January, in words. -/
def yearOfDate? (yoe era month : Word) : Option Word := do
  (← yoe.add? (← era.mul? 400)).add? (if month ≤ 2 then 1 else 0)

/-- The date of a day, in words; none if one of its steps leaves them. -/
def dateOfDay? (days : Word) : Option Date := do
  let z ← days.add? 719468
  let era := z / 146097
  let doe := z % 146097
  let yoe ← yearOfEra? doe
  let doy ← dayOfYear? doe yoe
  let mp ← monthFromMarch? doy
  let day ← dayOfMonth? doy mp
  let month ← monthOfYear? mp
  let year ← yearOfDate? yoe era month
  return ⟨year.toNat, month.toNat, day.toNat⟩

theorem yearOfEra?_yields {doe : Word} (h : doe.toNat < daysPerEra) :
    Yields (yearOfEra? doe) (·.toNat = yearOfEra doe.toNat) := by
  unfold daysPerEra at h
  unfold yearOfEra?
  refine (Word.sub?_yields ?_).bind fun x hx => (Word.add?_yields ?_).bind fun y hy =>
    (Word.sub?_yields ?_).bind fun z hz => .pure ?_
  all_goals simp only [UInt64.toNat_div, UInt64.reduceToNat, UInt64.size] at *
  · omega
  · omega
  · omega
  · rw [hz, hy, hx]
    rfl

theorem dayOfYear?_yields {doe yoe : Word} (h : doe.toNat < daysPerEra)
    (hyoe : yoe.toNat = yearOfEra doe.toNat) :
    Yields (dayOfYear? doe yoe) (·.toNat = dayOfYear doe.toNat) := by
  obtain ⟨century, cycle, year, doy, hin⟩ := exists_inEra h
  rw [hin.yearOfEra_eq] at hyoe
  rw [hin.dayOfYear_eq]
  obtain ⟨hsum, hcentury, hcycle, hyear, hdoy, -⟩ := hin
  have hfours : yoe.toNat / 4 = 25 * century + cycle := by omega
  have hcenturies : yoe.toNat / 100 = century := by omega
  unfold dayOfYear?
  refine (Word.mul?_yields ?_).bind fun x hx => (Word.add?_yields ?_).bind fun y hy =>
    (Word.sub?_yields ?_).bind fun z hz => ?_
  all_goals simp only [UInt64.toNat_div, UInt64.reduceToNat, UInt64.size] at *
  · omega
  · omega
  · omega
  · -- the days of the years in front are no more than those of the era
    obtain ⟨w, hw, hvalue⟩ := Word.sub?_yields (a := doe) (b := z) (by omega)
    exact ⟨w, hw, by omega⟩

theorem monthFromMarch?_yields {doy : Word} (h : doy.toNat ≤ 365) :
    Yields (monthFromMarch? doy) (·.toNat = monthFromMarch doy.toNat) := by
  unfold monthFromMarch?
  refine (Word.mul?_yields ?_).bind fun x hx => (Word.add?_yields ?_).bind fun y hy => .pure ?_
  all_goals simp only [UInt64.toNat_div, UInt64.reduceToNat, UInt64.size] at *
  · omega
  · omega
  · rw [hy, hx]
    rfl

theorem dayOfMonth?_yields {doy mp : Word} (h : doy.toNat ≤ 365) (hmp : mp.toNat ≤ 11)
    (hstart : daysFromMarch mp.toNat ≤ doy.toNat) :
    Yields (dayOfMonth? doy mp) (·.toNat = doy.toNat - (153 * mp.toNat + 2) / 5 + 1) := by
  unfold daysFromMarch at hstart
  unfold dayOfMonth?
  refine (Word.mul?_yields ?_).bind fun x hx => (Word.add?_yields ?_).bind fun y hy =>
    (Word.sub?_yields ?_).bind fun z hz => ?_
  all_goals simp only [UInt64.toNat_div, UInt64.reduceToNat, UInt64.size] at *
  · omega
  · omega
  · omega
  · rw [hy, hx] at hz
    rw [← hz]
    exact Word.add?_yields (by simp only [UInt64.reduceToNat, UInt64.size]; omega)

theorem monthOfYear?_yields {mp : Word} (h : mp.toNat ≤ 11) :
    Yields (monthOfYear? mp)
      (·.toNat = if mp.toNat < 10 then mp.toNat + 3 else mp.toNat - 9) := by
  unfold monthOfYear?
  simp only [UInt64.lt_iff_toNat_lt, UInt64.reduceToNat]
  split
  · exact Word.add?_yields (by simp only [UInt64.reduceToNat, UInt64.size]; omega)
  · exact Word.sub?_yields (by simp only [UInt64.reduceToNat]; omega)

theorem yearOfDate?_yields {yoe era month : Word} (hyoe : yoe.toNat < 400)
    (hera : 400 * era.toNat + 400 < UInt64.size) :
    Yields (yearOfDate? yoe era month)
      (·.toNat = yoe.toNat + era.toNat * 400 + if month.toNat ≤ 2 then 1 else 0) := by
  unfold yearOfDate?
  refine (Word.mul?_yields ?_).bind fun x hx => (Word.add?_yields ?_).bind fun y hy => ?_
  all_goals simp only [UInt64.le_iff_toNat_le, UInt64.reduceToNat, UInt64.size] at *
  -- the bound on the era is all that keeps the years within the words
  · rw [Nat.mul_comm]
    omega
  · rw [hx, Nat.mul_comm]
    omega
  · rw [← hx, ← hy]
    rw [Nat.mul_comm] at hx
    split
    · exact Word.add?_yields (by simp only [UInt64.reduceToNat, UInt64.size]; omega)
    · exact Word.add?_yields (by simp only [UInt64.reduceToNat, UInt64.size]; omega)

/-- On days that leave room for the shift to March, no step leaves the words. -/
theorem dateOfDay?_yields {days : Word} (h : days.toNat + epochOffset < UInt64.size) :
    Yields (dateOfDay? days) (· = dateOfDay days.toNat) := by
  unfold dateOfDay?
  refine (Word.add?_yields h).bind fun z hz => ?_
  have hera : (z / 146097).toNat = era days.toNat := by
    rw [UInt64.toNat_div, hz]
    rfl
  have hdoe : (z % 146097).toNat = dayOfEra days.toNat := by
    rw [UInt64.toNat_mod, hz]
    rfl
  have hlt : (z % 146097).toNat < daysPerEra := by
    rw [hdoe]
    exact Nat.mod_lt _ (by decide)
  refine (yearOfEra?_yields hlt).bind fun yoe hyoe =>
    (dayOfYear?_yields hlt hyoe).bind fun doy hdoy => ?_
  have hyoe400 : yoe.toNat < 400 := by
    rw [hyoe]
    exact yearOfEra_lt hlt
  have hdoy365 : doy.toNat ≤ 365 := by
    rw [hdoy]
    exact dayOfYear_le hlt
  rw [hdoe] at hyoe hdoy
  refine (monthFromMarch?_yields hdoy365).bind fun mp hmp => ?_
  obtain ⟨hmp11, hstart, -⟩ := monthFromMarch_spec hdoy365
  rw [← hmp] at hmp11 hstart
  refine (dayOfMonth?_yields hdoy365 hmp11 hstart).bind fun day hday =>
    (monthOfYear?_yields hmp11).bind fun month hmonth =>
      (yearOfDate?_yields hyoe400 ?_).bind fun year hyear => .pure ?_
  · rw [hera]
    simp only [era, epochOffset, daysPerEra, UInt64.size] at h ⊢
    omega
  · rw [hyear, hday, hmonth, hera, hyoe, hmp, hdoy]
    rfl

/--
**The calendar conversion is right on its whole range.**

For every number of seconds in a word, the conversion of its days makes no step that leaves the
words; it gives the one date of the calendar that lies so many days behind the epoch, the day
after has the date after, and the closed count leads back.
-/
theorem dateOfDay_exact (seconds : Word) :
    let days := seconds.toNat / 86400
    dateOfDay? (seconds / 86400) = some (dateOfDay days) ∧
      (∀ d : Date, d = dateOfDay days ↔ d.Valid ∧ d.count = Date.epoch.count + days) ∧
      dateOfDay 0 = ⟨1970, 1, 1⟩ ∧ dateOfDay (days + 1) = (dateOfDay days).next ∧
      ∀ d : Date, d = dateOfDay days ↔ d.Valid ∧ d.daysFromEpoch = days := by
  intro days
  have hdays : (seconds / 86400).toNat = days := UInt64.toNat_div ..
  -- a word of seconds has so few days that the shift to March stays a word
  have hroom : (seconds / 86400).toNat + epochOffset < UInt64.size := by
    have hlt := seconds.toNat_lt_size
    rw [hdays]
    simp only [days, epochOffset, UInt64.size] at hlt ⊢
    omega
  obtain ⟨date, hdate, rfl⟩ := dateOfDay?_yields hroom
  rw [hdays] at hdate
  refine ⟨hdate, fun d => eq_dateOfDay_iff, dateOfDay_zero, dateOfDay_succ days, fun d => ?_⟩
  rw [eq_dateOfDay_iff]
  refine and_congr_right fun hvalid => ?_
  rw [hvalid.daysFromEpoch_eq]
  omega

end Calendar

end Linkage
