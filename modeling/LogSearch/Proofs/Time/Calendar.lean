import LogSearch.Time.DateTime
import Mathlib.Algebra.GroupWithZero.Nat

/-!
# Days and dates

The date of a day is one of the calendar, and the day of that date is the day again.  So a wall clock
reading is made of the date and the time of day that it shows.

Main statements: `Date.number_ofNumber`, `Date.isValid_ofNumber` and `DateTime.ofFields?_fields`.
-/

namespace LogSearch

theorem sum_monthLengths (year : Nat) :
    (monthLengths year).sum = if isLeapYear year then 366 else 365 := by
  unfold monthLengths
  split <;> rfl

/-- The days of a year are those of its months. -/
theorem daysBeforeYear_succ {year : Nat} (pos : 0 < year) :
    daysBeforeYear (year + 1) = daysBeforeYear year + (monthLengths year).sum := by
  cases year with
  | zero => cases pos
  | succ past =>
    have centuries : past / 100 ≤ past / 4 := Nat.div_le_div_left (by decide) (by decide)
    rw [sum_monthLengths]
    unfold daysBeforeYear isLeapYear
    -- Each of the three quotients grows by one just where the new year is divided.
    simp only [Nat.add_sub_cancel, Nat.succ_div, Nat.dvd_iff_mod_eq_zero]
    generalize past / 4 = a at *
    generalize past / 100 = b at *
    generalize past / 400 = c at *
    by_cases fourth : (past + 1) % 4 = 0
    · by_cases hundredth : (past + 1) % 100 = 0
      · by_cases last : (past + 1) % 400 = 0 <;> simp [fourth, hundredth, last] <;> omega
      · have last : (past + 1) % 400 ≠ 0 := by omega
        simp [fourth, hundredth, last]
        omega
    · have hundredth : (past + 1) % 100 ≠ 0 := by omega
      have last : (past + 1) % 400 ≠ 0 := by omega
      simp [fourth, hundredth, last]
      omega

namespace Date

/-- A day of a year lies in one of the months, and the days of the months before are passed over. -/
theorem exists_of_splitMonths {lengths : List Nat} (month : Nat) {day : Nat}
    (h : day < lengths.sum) : ∃ (before : Nat) (d : Nat),
      splitMonths month day lengths = (month + before, d + 1) ∧ before < lengths.length ∧
        d < lengths.getD before 0 ∧ (lengths.take before).sum + d = day := by
  induction lengths generalizing month day with
  | nil => simp at h
  | cons length rest ih =>
    rw [splitMonths]
    by_cases inside : day < length
    · exact ⟨0, day, by rw [if_pos inside]; rfl, by simp, by simpa using inside, by simp⟩
    · have later : day - length < rest.sum := by
        rw [List.sum_cons] at h
        omega
      obtain ⟨before, d, found, bound, small, total⟩ := ih (month + 1) later
      refine ⟨before + 1, d, ?_, by simpa using bound, by simpa using small, ?_⟩
      · rw [if_neg inside, found, Nat.add_right_comm, Nat.add_assoc]
      · rw [List.take_succ_cons, List.sum_cons]
        omega

theorem yearOf_pos (n : Nat) : 0 < yearOf n := by
  have late := lt_daysBeforeYear_yearOf n
  rcases Nat.eq_zero_or_pos (yearOf n) with zero | pos
  · rw [zero] at late
    exact absurd late (Nat.not_lt_zero n)
  · exact pos

/-- The days of the calendar lie in the years up to 9999. -/
theorem yearOf_le {n : Nat} (h : n < calendarDays) : yearOf n ≤ 9999 := by
  obtain ⟨past, year⟩ := Nat.exists_eq_add_of_lt (yearOf_pos n)
  rw [Nat.zero_add] at year
  have early := daysBeforeYear_yearOf_le n
  have bounds := (daysBeforeYear_bounds past).1
  rw [year] at early ⊢
  unfold calendarDays at h
  omega

/-- A day lies in a month of its year. -/
theorem exists_ofNumber (n : Nat) : ∃ (before : Nat) (d : Nat),
    ofNumber n = ⟨yearOf n, 1 + before, d + 1⟩ ∧ before < 12 ∧
      d < (monthLengths (yearOf n)).getD before 0 ∧
      daysBeforeYear (yearOf n) + (((monthLengths (yearOf n)).take before).sum + d) = n := by
  have early := daysBeforeYear_yearOf_le n
  have late := lt_daysBeforeYear_yearOf n
  rw [daysBeforeYear_succ (yearOf_pos n)] at late
  have inside : n - daysBeforeYear (yearOf n) < (monthLengths (yearOf n)).sum := by omega
  obtain ⟨before, d, found, bound, small, total⟩ := exists_of_splitMonths 1 inside
  refine ⟨before, d, ?_, bound, small, by omega⟩
  unfold ofNumber
  dsimp only
  rw [found]

/-- The day of the date of a day is that day. -/
theorem number_ofNumber (n : Nat) : (ofNumber n).number = n := by
  obtain ⟨before, d, date, -, -, total⟩ := exists_ofNumber n
  rw [date]
  unfold number daysBeforeMonth
  dsimp only
  rw [Nat.add_sub_cancel_left, ← List.sum_eq_foldl_nat]
  omega

/-- The date of a day in the calendar is a date. -/
theorem isValid_ofNumber {n : Nat} (h : n < calendarDays) : (ofNumber n).isValid = true := by
  obtain ⟨before, d, date, bound, small, -⟩ := exists_ofNumber n
  have first := yearOf_pos n
  have last := yearOf_le h
  have day : d + 1 ≤ daysInMonth (yearOf n) (1 + before) := by
    unfold daysInMonth
    rw [Nat.add_sub_cancel_left]
    exact small
  rw [date]
  unfold isValid
  simp only [Bool.and_eq_true, decide_eq_true_eq]
  omega

theorem daysInMonth_le (year month : Nat) : daysInMonth year month ≤ 31 := by
  have all : ∀ length ∈ monthLengths year, length ≤ 31 := by
    unfold monthLengths
    split <;> decide
  unfold daysInMonth
  rw [List.getD_eq_getElem?_getD]
  cases found : (monthLengths year)[month - 1]? with
  | none => exact Nat.zero_le 31
  | some length => exact all length (List.mem_of_getElem? found)

/-- The year of a date takes up to four digits, its month and its day up to two. -/
theorem fields_lt {d : Date} (h : d.isValid = true) :
    d.year < Nat.pow 10 4 ∧ d.month < Nat.pow 10 2 ∧ d.day < Nat.pow 10 2 := by
  have days := daysInMonth_le d.year d.month
  simp only [isValid, Bool.and_eq_true, decide_eq_true_eq] at h
  obtain ⟨⟨⟨⟨⟨-, year⟩, -⟩, month⟩, -⟩, day⟩ := h
  exact ⟨Nat.lt_succ_of_le year, by change _ < 100; omega, by change _ < 100; omega⟩

end Date

/-- The hours, minutes and seconds of a time of day take up to two digits, its fraction up to six. -/
theorem Clock.fields_lt {c : Clock} (h : c.isValid = true) :
    c.hour < Nat.pow 10 2 ∧ c.minute < Nat.pow 10 2 ∧ c.second < Nat.pow 10 2 ∧
      c.micro < Nat.pow 10 6 := by
  simp only [isValid, Bool.and_eq_true, decide_eq_true_eq] at h
  obtain ⟨⟨⟨hour, minute⟩, second⟩, micro⟩ := h
  exact ⟨Nat.lt_trans hour (by decide), Nat.lt_trans minute (by decide),
    Nat.lt_trans second (by decide), micro⟩

namespace DateTime

theorem isValid_date (t : DateTime) : t.date.isValid = true := by
  refine Date.isValid_ofNumber (Nat.div_lt_of_lt_mul ?_)
  rw [Nat.mul_comm]
  exact t.in_calendar

theorem isValid_clock (t : DateTime) : t.clock.isValid = true :=
  Clock.ofMicros_isValid (Nat.mod_lt t.wall (by decide))

/-- The wall clock counts the days before the date that it shows, and the time of day. -/
theorem number_add_micros (t : DateTime) :
    t.date.number * microsPerDay + t.clock.micros = t.wall := by
  rw [date, clock, Date.number_ofNumber, Clock.micros_ofMicros]
  exact Nat.div_add_mod' t.wall microsPerDay

theorem offset_ofFields? {d : Date} {c : Clock} {offset : Option Offset} {t : DateTime}
    (h : ofFields? d c offset = some t) : t.offset = offset := by
  unfold ofFields? at h
  split at h
  · dsimp only at h
    split at h
    · obtain rfl := Option.some.inj h
      rfl
    · cases h
  · cases h

/-- A wall clock reading is made of the date and the time of day that it shows. -/
theorem ofFields?_fields (t : DateTime) : ofFields? t.date t.clock t.offset = some t := by
  have wall := t.number_add_micros
  unfold ofFields?
  rw [t.isValid_date, t.isValid_clock, Bool.and_self, if_pos rfl]
  dsimp only
  rw [dif_pos (wall.symm ▸ t.in_calendar)]
  obtain ⟨_, _, _⟩ := t
  simp only at wall
  simp only [wall]

end DateTime

end LogSearch
