import Linkage.Calendar

/-!
# Counting the days up to a date

The lengths of the months say on which day a date lies: add up the years in front
of it, the months of its year in front of it, and the days of its month in front
of it. This count (`Date.count`) knows nothing of eras or of years that begin in
March. It is what a conversion has to agree with:

* it never gives the same number for two dates of the calendar, so a date is known
  by its count;
* the day after a date counts one more.

There is also a count in closed form, which goes by eras of 400 years. For every
date of the calendar it differs from the plain count by the days before 1970.
-/

namespace Linkage.Calendar

/-! ## Adding up lengths -/

/-- The first lengths of a sequence, added up. -/
def total (length : Nat → Nat) : Nat → Nat
  | 0 => 0
  | n + 1 => total length n + length n

@[simp] theorem total_zero (length : Nat → Nat) : total length 0 = 0 := rfl

@[simp] theorem total_succ (length : Nat → Nat) (n : Nat) :
    total length (n + 1) = total length n + length n := rfl

theorem total_mono (length : Nat → Nat) {m n : Nat} (h : m ≤ n) :
    total length m ≤ total length n := by
  induction h with
  | refl => exact Nat.le_refl _
  | step _ ih => exact Nat.le_trans ih (by simp)

/-- What lies within one of the lengths lies within no other. -/
theorem total_unique (length : Nat → Nat) {m n x : Nat}
    (hm : total length m ≤ x ∧ x < total length (m + 1))
    (hn : total length n ≤ x ∧ x < total length (n + 1)) : m = n := by
  rcases Nat.lt_trichotomy m n with hlt | heq | hlt
  · have hle : total length (m + 1) ≤ total length n := total_mono length hlt
    omega
  · exact heq
  · have hle : total length (n + 1) ≤ total length m := total_mono length hlt
    omega

/-! ## Years and months -/

/-- The length of a year. -/
def daysInYear (year : Nat) : Nat := if isLeap year then 366 else 365

/-- The days of the years before a year, from year 0 on. -/
def daysBeforeYear (year : Nat) : Nat := total daysInYear year

/-- The days of a year before a month. -/
def daysBeforeMonth (year month : Nat) : Nat :=
  total (fun m => daysInMonth year (m + 1)) (month - 1)

theorem daysBeforeYear_succ (year : Nat) :
    daysBeforeYear (year + 1) = daysBeforeYear year + daysInYear year := total_succ ..

theorem daysBeforeMonth_succ (year : Nat) {month : Nat} (h : 1 ≤ month) :
    daysBeforeMonth year (month + 1) = daysBeforeMonth year month + daysInMonth year month := by
  obtain ⟨m, rfl⟩ := Nat.exists_eq_add_of_le' h
  exact total_succ ..

/-- The months make up the year. -/
theorem daysBeforeMonth_thirteen (year : Nat) : daysBeforeMonth year 13 = daysInYear year := by
  unfold daysBeforeMonth daysInYear
  cases hleap : isLeap year <;> simp [daysInMonth, hleap]

theorem isLeap_iff {year : Nat} :
    isLeap year = true ↔ year % 4 = 0 ∧ (year % 100 ≠ 0 ∨ year % 400 = 0) := by
  simp [isLeap]

/-- A day more every four years, but not every hundred, but every four hundred. -/
theorem daysInYear_eq (year : Nat) :
    daysInYear year + (if 100 ∣ year then 1 else 0) =
      365 + (if 4 ∣ year then 1 else 0) + if 400 ∣ year then 1 else 0 := by
  unfold daysInYear
  by_cases hleap : isLeap year = true
  · rw [if_pos hleap]
    rw [isLeap_iff] at hleap
    rw [if_pos (show 4 ∣ year by omega)]
    split
    · rw [if_pos (by omega)]
    · rw [if_neg (by omega)]
  · rw [if_neg hleap]
    rw [isLeap_iff] at hleap
    rw [if_neg (show ¬ 400 ∣ year by omega)]
    split
    · rw [if_pos (by omega)]
    · rw [if_neg (by omega)]

/-- The days of the years up to a year, in closed form. -/
theorem daysBeforeYear_eq (year : Nat) :
    daysBeforeYear (year + 1) + year / 100 = 365 * year + year / 4 + year / 400 + 366 := by
  induction year with
  | zero => rfl
  | succ year ih =>
      have hyear := daysInYear_eq (year + 1)
      rw [daysBeforeYear_succ, Nat.succ_div, Nat.succ_div, Nat.succ_div]
      omega

/-- The days between the first of March and the month that lies some months behind it. -/
def daysFromMarch (months : Nat) : Nat := (153 * months + 2) / 5

/-- From March to December the lengths of the months follow one rule. -/
theorem daysFromMarch_succ (year : Nat) {months : Nat} (h : months ≤ 9) :
    daysFromMarch (months + 1) = daysFromMarch months + daysInMonth year (months + 3) := by
  have hlengths : ∀ m < 10, (153 * (m + 1) + 2) / 5 =
      (153 * m + 2) / 5 +
        if m + 3 = 4 ∨ m + 3 = 6 ∨ m + 3 = 9 ∨ m + 3 = 11 then 30 else 31 := by
    decide
  unfold daysFromMarch daysInMonth
  rw [if_neg (by omega)]
  exact hlengths months (by omega)

/-- The days before a month from March on, counted from the end of the year. -/
theorem daysBeforeMonth_eq (year : Nat) {months : Nat} (h : months ≤ 9) :
    daysBeforeMonth year (months + 3) + 306 = daysInYear year + daysFromMarch months := by
  induction months with
  | zero =>
      unfold daysBeforeMonth daysInYear
      cases hleap : isLeap year <;> simp [daysInMonth, daysFromMarch, hleap]
  | succ months ih =>
      rw [daysBeforeMonth_succ _ (by omega), daysFromMarch_succ year (by omega)]
      have hbefore := ih (by omega)
      omega

/-! ## The count of a date -/

namespace Date

/-- A date that the calendar has. -/
structure Valid (d : Date) : Prop where
  one_le_month : 1 ≤ d.month
  month_le : d.month ≤ 12
  one_le_day : 1 ≤ d.day
  day_le : d.day ≤ daysInMonth d.year d.month

instance (d : Date) : Decidable d.Valid :=
  decidable_of_iff (1 ≤ d.month ∧ d.month ≤ 12 ∧ 1 ≤ d.day ∧ d.day ≤ daysInMonth d.year d.month)
    ⟨fun ⟨hone, htwelve, hday, hlast⟩ => ⟨hone, htwelve, hday, hlast⟩,
      fun h => ⟨h.one_le_month, h.month_le, h.one_le_day, h.day_le⟩⟩

/-- The days of its year in front of a date. -/
def daysInto (d : Date) : Nat := daysBeforeMonth d.year d.month + (d.day - 1)

/-- The days in front of a date, from the beginning of year 0 on. -/
def count (d : Date) : Nat := daysBeforeYear d.year + d.daysInto

variable {d e : Date}

/-- A date lies within its month. -/
theorem Valid.within_month (h : d.Valid) :
    daysBeforeMonth d.year d.month ≤ d.daysInto ∧
      d.daysInto < daysBeforeMonth d.year (d.month + 1) := by
  have hday := h.one_le_day
  have hlast := h.day_le
  rw [daysBeforeMonth_succ _ h.one_le_month]
  unfold daysInto
  omega

/-- A date lies within its year. -/
theorem Valid.within_year (h : d.Valid) :
    daysBeforeYear d.year ≤ d.count ∧ d.count < daysBeforeYear (d.year + 1) := by
  have hmonths : daysBeforeMonth d.year (d.month + 1) ≤ daysBeforeMonth d.year 13 :=
    total_mono _ (by have := h.month_le; omega)
  have hmonth := h.within_month
  rw [daysBeforeMonth_thirteen] at hmonths
  rw [daysBeforeYear_succ]
  unfold count
  omega

/-- **A date of the calendar is known by its count.** -/
theorem Valid.eq_of_count (hd : d.Valid) (he : e.Valid) (h : d.count = e.count) : d = e := by
  have hyear : d.year = e.year := by
    have hin := he.within_year
    rw [← h] at hin
    exact total_unique daysInYear hd.within_year hin
  have hinto : d.daysInto = e.daysInto := by
    unfold count at h
    rw [hyear] at h
    exact Nat.add_left_cancel h
  have hmonth : d.month = e.month := by
    have hin := he.within_month
    rw [← hinto, ← hyear] at hin
    -- months are counted from one, lengths from zero
    have hd1 := hd.one_le_month
    have he1 := he.one_le_month
    have hfrom : d.month - 1 = e.month - 1 := by
      refine total_unique (fun m => daysInMonth d.year (m + 1)) (x := d.daysInto) ?_ ?_
      · rw [Nat.sub_add_cancel hd1]
        exact hd.within_month
      · rw [Nat.sub_add_cancel he1]
        exact hin
    omega
  have hday : d.day = e.day := by
    unfold daysInto at hinto
    rw [hyear, hmonth] at hinto
    have hd1 := hd.one_le_day
    have he1 := he.one_le_day
    omega
  obtain ⟨_, _, _⟩ := d
  obtain ⟨_, _, _⟩ := e
  rw [Date.mk.injEq]
  exact ⟨hyear, hmonth, hday⟩

theorem one_le_daysInMonth (year month : Nat) : 1 ≤ daysInMonth year month := by
  unfold daysInMonth
  split
  · split <;> omega
  · split <;> omega

theorem daysInMonth_le (year month : Nat) : daysInMonth year month ≤ 31 := by
  unfold daysInMonth
  split
  · split <;> omega
  · split <;> omega

/-! ## The order of dates -/

/-- The figures of a date, with two places for the month and two for the day, as one number. -/
def number (d : Date) : Nat := (d.year * 100 + d.month) * 100 + d.day

/-- The figures tell the date. -/
theorem Valid.number_fields (h : d.Valid) :
    d.number / 100 / 100 = d.year ∧ d.number / 100 % 100 = d.month ∧ d.number % 100 = d.day := by
  have hmonth := h.month_le
  have hday := Nat.le_trans h.day_le (daysInMonth_le _ _)
  unfold number
  omega

/-- **A date that counts less has the smaller figures.** -/
theorem Valid.number_lt (hd : d.Valid) (he : e.Valid) (h : d.count < e.count) :
    d.number < e.number := by
  have hdmonth := hd.month_le
  have hdday := Nat.le_trans hd.day_le (daysInMonth_le _ _)
  have hyear : d.year ≤ e.year := by
    refine Nat.le_of_not_lt fun hlt => ?_
    have hle : daysBeforeYear (e.year + 1) ≤ daysBeforeYear d.year := total_mono _ hlt
    have hdin := hd.within_year
    have hein := he.within_year
    omega
  unfold number
  rcases Nat.lt_or_eq_of_le hyear with hlt | heq
  · omega
  · have hinto : d.daysInto < e.daysInto := by
      unfold count at h
      rw [heq] at h
      exact Nat.lt_of_add_lt_add_left h
    have hmonth : d.month ≤ e.month := by
      refine Nat.le_of_not_lt fun hlt => ?_
      have hle : daysBeforeMonth e.year (e.month + 1) ≤ daysBeforeMonth d.year d.month := by
        rw [heq]
        exact total_mono _ (by omega)
      have hdin := hd.within_month
      have hein := he.within_month
      omega
    rcases Nat.lt_or_eq_of_le hmonth with hlt | hsame
    · omega
    · have hdone := hd.one_le_day
      have heone := he.one_le_day
      unfold daysInto at hinto
      rw [heq, hsame] at hinto
      omega

/-! ## The day after -/

theorem Valid.next (h : d.Valid) : d.next.Valid := by
  unfold Date.next
  split
  · rename_i hlt
    exact ⟨h.one_le_month, h.month_le, by simp, hlt⟩
  · split
    · rename_i hlt
      exact ⟨by simp, hlt, by simp, one_le_daysInMonth ..⟩
    · exact ⟨by simp, by simp, by simp, one_le_daysInMonth ..⟩

/-- The day after counts one more. -/
theorem Valid.count_next (h : d.Valid) : d.next.count = d.count + 1 := by
  have hday := h.one_le_day
  unfold Date.next
  split
  · unfold count daysInto
    dsimp only
    omega
  · rename_i hlt
    have hlast : d.day = daysInMonth d.year d.month :=
      Nat.le_antisymm h.day_le (Nat.le_of_not_lt hlt)
    have hafter := daysBeforeMonth_succ d.year h.one_le_month
    split
    · unfold count daysInto
      dsimp only
      omega
    · -- behind the last month the next year begins
      rename_i hlt
      have htwelve : d.month = 12 := Nat.le_antisymm h.month_le (Nat.le_of_not_lt hlt)
      have hyear := daysBeforeYear_succ d.year
      have hjanuary : daysBeforeMonth (d.year + 1) 1 = 0 := rfl
      rw [htwelve] at hlast hafter
      rw [daysBeforeMonth_thirteen] at hafter
      unfold count daysInto
      dsimp only
      rw [htwelve]
      omega

/-! ## The closed count -/

/-- The beginning of the days that are counted. -/
def epoch : Date := ⟨1970, 1, 1⟩

theorem count_newYear (year : Nat) :
    (⟨year + 1, 1, 1⟩ : Date).count = 365 * year + year / 4 - year / 100 + year / 400 + 366 := by
  have hyears := daysBeforeYear_eq year
  have hinto : (⟨year + 1, 1, 1⟩ : Date).daysInto = 0 := rfl
  unfold count
  rw [hinto]
  dsimp only
  omega

theorem count_epoch : epoch.count = 719528 := count_newYear 1969

/-- From the epoch on, so many days have a year of four digits. -/
theorem count_tenThousand : (⟨10000, 1, 1⟩ : Date).count = epoch.count + 2932897 := by
  rw [count_epoch]
  exact count_newYear 9999

/-- The days from the epoch to a date, by eras of 400 years and by years that begin in March. -/
def daysFromEpoch (d : Date) : Int :=
  let year : Int := if d.month ≤ 2 then d.year - 1 else d.year
  let era := year / 400
  let yearOfEra := year - era * 400
  let month : Int := if 2 < d.month then d.month - 3 else d.month + 9
  let dayOfYear := (153 * month + 2) / 5 + d.day - 1
  let dayOfEra := yearOfEra * 365 + yearOfEra / 4 - yearOfEra / 100 + dayOfYear
  era * 146097 + dayOfEra - 719468

/-- The days of whole eras and those of the years behind them are the days of all the years. -/
theorem days_of_eras_eq (year : Int) :
    year / 400 * 146097 + ((year - year / 400 * 400) * 365 + (year - year / 400 * 400) / 4 -
        (year - year / 400 * 400) / 100) =
      365 * year + year / 4 - year / 100 + year / 400 := by
  have hera := Int.mul_ediv_add_emod year 400
  generalize year / 400 = era at hera ⊢
  omega

/-- The closed count agrees with the plain one. -/
theorem Valid.daysFromEpoch_eq (h : d.Valid) :
    d.daysFromEpoch = (d.count : Int) - epoch.count := by
  obtain ⟨year, month, day⟩ := d
  have hday : 1 ≤ day := h.one_le_day
  have hone : 1 ≤ month := h.one_le_month
  have htwelve : month ≤ 12 := h.month_le
  rw [count_epoch]
  unfold daysFromEpoch count daysInto
  dsimp only
  rw [← Int.add_assoc (_ / 400 * 146097), days_of_eras_eq]
  by_cases hmarch : 2 < month
  · obtain ⟨months, rfl⟩ : ∃ months, month = months + 3 := ⟨month - 3, by omega⟩
    have hmonths := daysBeforeMonth_eq year (show months ≤ 9 by omega)
    have hyears := daysBeforeYear_eq year
    rw [daysBeforeYear_succ] at hyears
    unfold daysFromMarch at hmonths
    rw [if_neg (by omega), if_pos (by omega)]
    omega
  · -- January and February count with the year before, which for year 0 is the year -1
    have hbefore : daysBeforeMonth year month = 31 * (month - 1) := by
      obtain rfl | rfl : month = 1 ∨ month = 2 := by omega
      · rfl
      · rfl
    rw [if_pos (by omega), if_neg (by omega), hbefore]
    cases year with
    | zero =>
        have hnone : daysBeforeYear 0 = 0 := rfl
        omega
    | succ year =>
        have hyears := daysBeforeYear_eq year
        omega

end Date

end Linkage.Calendar
