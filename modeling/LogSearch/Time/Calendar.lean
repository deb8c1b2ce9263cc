/-!
# The calendar

Days are numbered from zero, which is the first of January of the year 1, in the Gregorian calendar
extended to all years.  `Date.number` counts the days before a date and `Date.ofNumber` finds the
date of a day.

Renders `date.toordinal` (`Date.number`) and `date.fromordinal` (`Date.ofNumber`).

Main statements: the day of a date lies in the year that `yearOf` finds for it.
-/

namespace LogSearch

/-- Whether a year has a 29th of February. -/
def isLeapYear (year : Nat) : Bool :=
  year % 4 = 0 && (year % 100 ≠ 0 || year % 400 = 0)

/-- The lengths of the twelve months of a year. -/
def monthLengths (year : Nat) : List Nat :=
  [31, if isLeapYear year then 29 else 28, 31, 30, 31, 30, 31, 31, 30, 31, 30, 31]

/-- The number of days of a month, counted from 1. -/
def daysInMonth (year month : Nat) : Nat := (monthLengths year).getD (month - 1) 0

/-- The number of days before the first of January of a year. -/
def daysBeforeYear (year : Nat) : Nat :=
  let past := year - 1
  past * 365 + past / 4 - past / 100 + past / 400

/-- The number of days of a year before the first of a month. -/
def daysBeforeMonth (year month : Nat) : Nat := ((monthLengths year).take (month - 1)).foldl (· + ·) 0

/-- A date of the calendar; months and days count from 1. -/
structure Date where
  year : Nat
  month : Nat
  day : Nat
deriving Repr, DecidableEq

namespace Date

/-- Whether a year, month and day make a date of the years 1 to 9999. -/
def isValid (d : Date) : Bool :=
  1 ≤ d.year && d.year ≤ 9999 && 1 ≤ d.month && d.month ≤ 12 && 1 ≤ d.day &&
    d.day ≤ daysInMonth d.year d.month

/-- The number of days before a date. -/
def number (d : Date) : Nat := daysBeforeYear d.year + daysBeforeMonth d.year d.month + (d.day - 1)

/-- The year that a day lies in.  A year has between 365 and 366 days and 400 years have 146097, so
the estimate is off by at most one. -/
def yearOf (n : Nat) : Nat :=
  let guess := n * 400 / 146097 + 1
  if n < daysBeforeYear guess then guess - 1
  else if daysBeforeYear (guess + 1) ≤ n then guess + 1
  else guess

/-- Splits a day of a year into a month, counted on from `month`, and a day of that month, given
the lengths of the months. -/
def splitMonths (month day : Nat) : List Nat → Nat × Nat
  | [] => (month, day + 1)
  | length :: rest =>
    if day < length then (month, day + 1) else splitMonths (month + 1) (day - length) rest

/-- The date of a day. -/
def ofNumber (n : Nat) : Date :=
  let year := yearOf n
  let (month, day) := splitMonths 1 (n - daysBeforeYear year) (monthLengths year)
  ⟨year, month, day⟩

/-- The days before a year are its share of 146097 days in 400 years, up to two days. -/
theorem daysBeforeYear_bounds (past : Nat) :
    146097 * past ≤ 400 * daysBeforeYear (past + 1) + 699 ∧
      400 * daysBeforeYear (past + 1) ≤ 146097 * past + 396 := by
  unfold daysBeforeYear
  simp only [Nat.add_sub_cancel]
  omega

theorem daysBeforeYear_yearOf_le (n : Nat) : daysBeforeYear (yearOf n) ≤ n := by
  unfold yearOf
  dsimp only
  have hq : 146097 * (n * 400 / 146097) ≤ n * 400 := Nat.mul_div_le _ _
  generalize n * 400 / 146097 = q at hq
  split
  · cases q with
    | zero => simp [daysBeforeYear]
    | succ q => have := daysBeforeYear_bounds q; simp only [Nat.add_sub_cancel] at *; omega
  · split <;> omega

theorem lt_daysBeforeYear_yearOf (n : Nat) : n < daysBeforeYear (yearOf n + 1) := by
  unfold yearOf
  dsimp only
  have hq : n * 400 < 146097 * (n * 400 / 146097 + 1) := Nat.lt_mul_div_succ _ (by decide)
  generalize n * 400 / 146097 = q at hq
  split
  · simpa using ‹n < daysBeforeYear (q + 1)›
  · split
    · have := daysBeforeYear_bounds (q + 1 + 1); omega
    · omega

example : ofNumber 0 = ⟨1, 1, 1⟩ ∧ ofNumber 738944 = ⟨2024, 2, 29⟩ := by decide +kernel

end Date

/-- The number of days of the years 1 to 9999. -/
def calendarDays : Nat := 3652059

/-- The day on which the first week of a year starts: the Monday of the week that holds the year's
first Thursday.  Day zero is a Monday. -/
def firstMonday (year : Nat) : Nat :=
  let first := daysBeforeYear year
  let weekday := first % 7
  if 3 < weekday then first - weekday + 7 else first - weekday

/-- Whether a year has a 53rd week: it starts on a Thursday, or on a Wednesday and is a leap year. -/
def hasLongYear (year : Nat) : Bool :=
  let weekday := daysBeforeYear year % 7
  weekday = 3 || (weekday = 2 && isLeapYear year)

example : daysBeforeYear 10000 = calendarDays := by decide

end LogSearch
