/-!
# The calendar

Days are counted from 1970-01-01 and dates follow the Gregorian leap rule at all
times. The conversion counts from 0000-03-01 instead: a year that begins in
March has its leap day at the end, and 400 years are one *era* of 146097 days.
-/

namespace Linkage.Calendar

/-- A date; months and days count from one. -/
structure Date where
  year : Nat
  month : Nat
  day : Nat
  deriving DecidableEq

/-- The number of days in an era. -/
def daysPerEra : Nat := 146097

/-- The days from 0000-03-01 to 1970-01-01. -/
def epochOffset : Nat := 719468

/-- The era of a day. -/
def era (days : Nat) : Nat := (days + epochOffset) / daysPerEra

/-- The day within its era. -/
def dayOfEra (days : Nat) : Nat := (days + epochOffset) % daysPerEra

/-- The year within its era, for a day within it; the leap days before it are taken out. -/
def yearOfEra (doe : Nat) : Nat := (doe - doe / 1460 + doe / 36524 - doe / 146096) / 365

/-- The day within its year, counted from the first of March. -/
def dayOfYear (doe : Nat) : Nat :=
  let yoe := yearOfEra doe
  doe - (365 * yoe + yoe / 4 - yoe / 100)

/-- The month within a year that begins in March, counted from zero. -/
def monthFromMarch (doy : Nat) : Nat := (5 * doy + 2) / 153

/-- The date that lies a number of days after 1970-01-01. -/
def dateOfDay (days : Nat) : Date :=
  let doe := dayOfEra days
  let doy := dayOfYear doe
  let mp := monthFromMarch doy
  let month := if mp < 10 then mp + 3 else mp - 9
  { year := yearOfEra doe + era days * 400 + (if month ≤ 2 then 1 else 0)
    month := month
    day := doy - (153 * mp + 2) / 5 + 1 }

/-- The Gregorian leap rule. -/
def isLeap (year : Nat) : Bool := year % 4 = 0 && (year % 100 ≠ 0 || year % 400 = 0)

/-- The length of a month. -/
def daysInMonth (year month : Nat) : Nat :=
  if month = 2 then (if isLeap year then 29 else 28)
  else if month = 4 ∨ month = 6 ∨ month = 9 ∨ month = 11 then 30
  else 31

/-- The day after a date. -/
def Date.next (d : Date) : Date :=
  if d.day < daysInMonth d.year d.month then { d with day := d.day + 1 }
  else if d.month < 12 then ⟨d.year, d.month + 1, 1⟩
  else ⟨d.year + 1, 1, 1⟩

end Linkage.Calendar
