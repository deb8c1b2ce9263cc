import LogSearch.Proofs.Text.Order
import LogSearch.Proofs.Time.Milliseconds

/-!
# The order of times and that of what they show

Of two days the one with the earlier date comes first, and dates are compared by year, then by month,
then by day.  The time of day is compared by hour, minute, second and fraction in the same way.  So
times in UTC that are cut to milliseconds are ordered by the numbers that a stamp shows.

Main statements: `Date.compare_number` and `DateTime.compare_instant_cut`.
-/

namespace LogSearch

/-- The items before one of a list of numbers, and that one, add up to at most the items before a later
one. -/
theorem sum_take_add_getD_le (xs : List Nat) {i j : Nat} (less : i < j) :
    (xs.take i).sum + xs.getD i 0 ≤ (xs.take j).sum := by
  induction xs generalizing i j with
  | nil => simp
  | cons x rest ih =>
    obtain ⟨j, rfl⟩ := Nat.exists_eq_add_of_lt less
    cases i with
    | zero => simp
    | succ i =>
      have later := ih (by omega : i < i + j + 1)
      rw [show i + 1 + j + 1 = i + j + 1 + 1 by omega, List.take_succ_cons, List.take_succ_cons,
        List.sum_cons, List.sum_cons, List.getD_cons_succ]
      omega

/-- The days of a month are before those of the months after it. -/
theorem daysBeforeMonth_add_le (year : Nat) {month later : Nat} (first : 1 ≤ month)
    (less : month < later) :
    daysBeforeMonth year month + daysInMonth year month ≤ daysBeforeMonth year later := by
  unfold daysBeforeMonth daysInMonth
  rw [← List.sum_eq_foldl_nat, ← List.sum_eq_foldl_nat]
  exact sum_take_add_getD_le (monthLengths year) (by omega)

/-- The days before a thirteenth month are those of the year. -/
theorem daysBeforeMonth_end (year : Nat) : daysBeforeMonth year 13 = (monthLengths year).sum := by
  rw [daysBeforeMonth, ← List.sum_eq_foldl_nat]
  rfl

theorem daysBeforeYear_le {year later : Nat} (pos : 0 < year) (le : year ≤ later) :
    daysBeforeYear year ≤ daysBeforeYear later := by
  induction later, le using Nat.le_induction with
  | base => exact Nat.le_refl _
  | succ later le ih =>
    rw [daysBeforeYear_succ (Nat.lt_of_lt_of_le pos le)]
    omega

namespace Date

/-- Dates are compared by year, then by month, then by day. -/
def order (d e : Date) : Ordering :=
  (compare d.year e.year).then ((compare d.month e.month).then (compare d.day e.day))

theorem swap_order (d e : Date) : (d.order e).swap = e.order d := by
  simp only [order, Ordering.swap_then, ← Std.OrientedOrd.eq_swap]

/-- The days of an earlier date are fewer. -/
theorem number_lt_of_order {d e : Date} (hd : d.isValid = true) (he : e.isValid = true)
    (less : d.order e = .lt) : d.number < e.number := by
  simp only [isValid, Bool.and_eq_true, decide_eq_true_eq] at hd he
  simp only [order, Ordering.then_eq_lt, compare_lt_iff_lt, compare_eq_iff_eq] at less
  unfold number
  rcases less with years | ⟨sameYear, months | ⟨sameMonth, days⟩⟩
  · have inYear := daysBeforeMonth_add_le d.year (by omega) (by omega : d.month < 13)
    rw [daysBeforeMonth_end] at inYear
    have next := daysBeforeYear_le (Nat.succ_pos d.year) years
    rw [daysBeforeYear_succ (by omega)] at next
    omega
  · have inMonth := daysBeforeMonth_add_le d.year (by omega) months
    rw [sameYear] at hd inMonth ⊢
    omega
  · rw [sameYear, sameMonth]
    omega

/-- Days are ordered as their dates are. -/
theorem compare_number {d e : Date} (hd : d.isValid = true) (he : e.isValid = true) :
    compare d.number e.number = d.order e := by
  cases order : d.order e with
  | lt => exact compare_lt_iff_lt.2 (number_lt_of_order hd he order)
  | eq =>
    simp only [Date.order, Ordering.then_eq_eq, compare_eq_iff_eq] at order
    obtain ⟨year, month, day⟩ := order
    rw [compare_eq_iff_eq, number, number, year, month, day]
  | gt =>
    have less : e.order d = .lt := by rw [← swap_order, order]; rfl
    exact compare_gt_iff_gt.2 (number_lt_of_order he hd less)

/-- Each day has one date. -/
theorem eq_of_number {d e : Date} (hd : d.isValid = true) (he : e.isValid = true)
    (same : d.number = e.number) : d = e := by
  have order := compare_number hd he
  rw [compare_eq_iff_eq.2 same, eq_comm, Date.order] at order
  simp only [Ordering.then_eq_eq, compare_eq_iff_eq] at order
  obtain ⟨year, month, day⟩ := order
  cases d
  cases e
  simp_all

end Date

namespace Clock

/-- Times of day are compared by hour, then by minute, by second and by microsecond. -/
def order (c c' : Clock) : Ordering :=
  (compare c.hour c'.hour).then ((compare c.minute c'.minute).then
    ((compare c.second c'.second).then (compare c.micro c'.micro)))

/-- The microseconds since midnight are ordered as the times of day are. -/
theorem compare_micros {c c' : Clock} (hc : c.isValid = true) (hc' : c'.isValid = true) :
    compare c.micros c'.micros = c.order c' := by
  simp only [isValid, Bool.and_eq_true, decide_eq_true_eq] at hc hc'
  obtain ⟨⟨⟨-, minute⟩, second⟩, micro⟩ := hc
  obtain ⟨⟨⟨-, minute'⟩, second'⟩, micro'⟩ := hc'
  unfold micros order
  rw [Text.compare_mul_add micro micro', Text.compare_mul_add second second',
    Text.compare_mul_add minute minute', Ordering.then_assoc, Ordering.then_assoc]

/-- Each microsecond of a day has one time of day. -/
theorem eq_of_micros {c c' : Clock} (hc : c.isValid = true) (hc' : c'.isValid = true)
    (same : c.micros = c'.micros) : c = c' := by
  have order := compare_micros hc hc'
  rw [compare_eq_iff_eq.2 same, eq_comm, Clock.order] at order
  simp only [Ordering.then_eq_eq, compare_eq_iff_eq] at order
  obtain ⟨hour, minute, second, micro⟩ := order
  cases c
  cases c'
  simp_all

theorem micros_lt {c : Clock} (h : c.isValid = true) : c.micros < microsPerDay := by
  simp only [isValid, Bool.and_eq_true, decide_eq_true_eq] at h
  unfold micros microsPerDay
  omega

end Clock

namespace DateTime

/-- Wall clock readings are ordered as the dates and the times of day that they show. -/
theorem compare_wall (t u : DateTime) :
    compare t.wall u.wall = (t.date.order u.date).then (t.clock.order u.clock) := by
  rw [← t.number_add_micros, ← u.number_add_micros,
    Text.compare_mul_add (Clock.micros_lt t.isValid_clock) (Clock.micros_lt u.isValid_clock),
    Date.compare_number t.isValid_date u.isValid_date,
    Clock.compare_micros t.isValid_clock u.isValid_clock]

/-- Times in UTC that are cut to milliseconds are ordered by date, hour, minute, second and
millisecond. -/
theorem compare_instant_cut {t u : DateTime} (ht : t.offset = some .utc) (hu : u.offset = some .utc) :
    compare t.cut.instant u.cut.instant = (t.date.order u.date).then
      ((compare t.clock.hour u.clock.hour).then ((compare t.clock.minute u.clock.minute).then
        ((compare t.clock.second u.clock.second).then
          (compare (t.clock.micro / 1000) (u.clock.micro / 1000))))) := by
  have wall : compare t.cut.instant u.cut.instant = compare t.cut.wall u.cut.wall := by
    rw [instant_of_utc (show t.cut.offset = some .utc from ht),
      instant_of_utc (show u.cut.offset = some .utc from hu)]
    simp only [compare, compareOfLessAndEq, Int.ofNat_lt, Int.natCast_inj]
  have millis : compare (t.clock.micro / 1000 * 1000) (u.clock.micro / 1000 * 1000) =
      compare (t.clock.micro / 1000) (u.clock.micro / 1000) := by
    have none : 0 < 1000 := by decide
    have scaled : compare (t.clock.micro / 1000 * 1000 + 0) (u.clock.micro / 1000 * 1000 + 0) = _ :=
      Text.compare_mul_add none none
    simpa using scaled
  rw [wall, compare_wall, date_cut, date_cut, clock_cut, clock_cut, Clock.order, millis]

end DateTime

end LogSearch
