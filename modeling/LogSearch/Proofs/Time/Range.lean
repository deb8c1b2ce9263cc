import LogSearch.Proofs.Time.Order
import LogSearch.Time.Range

/-!
# Time ranges and instants

A time in UTC shows the one date and the one time of day that a calendar has for its instant.  The
bounds of a time range are such times, and only the instants count of the two times that it is made
of: which offsets they have, or whether they have any, makes no difference.

Main statements: `DateTime.exists_isUtcOf`, `TimeRange.ofTimes_congr` and `TimeRange.ofTimes_bounds`.
-/

namespace LogSearch

/-- The instant at which a clock that is ahead of UTC by some microseconds shows a date and a time of
day. -/
def instantOfFields (d : Date) (c : Clock) (ahead : Int) : Int :=
  (d.number * microsPerDay + c.micros : Nat) - ahead

/-- A time is that in UTC at the instant of another: it shows the one date and time of day that UTC has
when the clock of the other shows what it does. -/
structure DateTime.IsUtcOf (u t : DateTime) : Prop where
  utc : u.offset = some .utc
  instant : u.instant = t.instant
  fields : ∀ d c, d.isValid = true → c.isValid = true →
    (instantOfFields d c 0 = instantOfFields t.date t.clock t.offsetMicros ↔ u.date = d ∧ u.clock = c)

/-- The instant of a time lies in the years 1 to 9999. -/
def DateTime.InCalendar (t : DateTime) : Prop := 0 ≤ t.instant ∧ t.instant < calendarEnd

instance (t : DateTime) : Decidable t.InCalendar :=
  inferInstanceAs (Decidable (0 ≤ t.instant ∧ t.instant < calendarEnd))

namespace DateTime

variable {t : DateTime}

theorem instant_eq_instantOfFields (t : DateTime) :
    t.instant = instantOfFields t.date t.clock t.offsetMicros := by
  rw [instantOfFields, number_add_micros, instant]

/-- A wall clock shows one date and one time of day. -/
theorem wall_eq_iff {d : Date} {c : Clock} (hd : d.isValid = true) (hc : c.isValid = true) :
    d.number * microsPerDay + c.micros = t.wall ↔ t.date = d ∧ t.clock = c := by
  constructor
  · intro same
    rw [← t.number_add_micros] at same
    have inDay := Clock.micros_lt hc
    have inDay' := Clock.micros_lt t.isValid_clock
    unfold microsPerDay at same inDay inDay'
    have days : t.date.number = d.number := by omega
    have micros : t.clock.micros = c.micros := by omega
    exact ⟨Date.eq_of_number t.isValid_date hd days, Clock.eq_of_micros t.isValid_clock hc micros⟩
  · rintro ⟨rfl, rfl⟩
    exact t.number_add_micros

/-- There is one time in UTC at each instant of the calendar, and it shows the date and the time of day
there. -/
theorem exists_isUtcOf (inside : t.InCalendar) : ∃ u, t.toUtc? = some u ∧ u.IsUtcOf t := by
  obtain ⟨u, toUtc⟩ := Option.isSome_iff_exists.1 ((toUtc?_isSome t).2 inside)
  have utc : u.offset = some .utc := offset_ofInstant? toUtc
  have instant : u.instant = t.instant := instant_toUtc? toUtc
  refine ⟨u, toUtc, utc, instant, fun d c hd hc => ?_⟩
  rw [← wall_eq_iff hd hc, ← instant_eq_instantOfFields, ← instant, instant_of_utc utc,
    instantOfFields, Int.sub_zero, Int.natCast_inj]

end DateTime

namespace TimeRange

variable {first last u v : DateTime}

theorem inUtc_of_toUtc? {t : DateTime} (toUtc : t.toUtc? = some u) :
    inUtc t = .ok ⟨u, DateTime.offset_ofInstant? toUtc⟩ := by
  unfold inUtc
  split
  · rename_i w found
    obtain rfl := Option.some.inj (found.symm.trans toUtc)
    rfl
  · rename_i missing
    rw [missing] at toUtc
    cases toUtc

theorem inUtc_of_outside {t : DateTime} (outside : t.toUtc? = none) :
    inUtc t = .error .outsideCalendar := by
  unfold inUtc
  split
  · rename_i found
    rw [outside] at found
    cases found
  · rfl

theorem inUtc_congr {t t' : DateTime} (same : t'.instant = t.instant) : inUtc t' = inUtc t := by
  have utc : t'.toUtc? = t.toUtc? := congrArg DateTime.ofInstant? same
  cases toUtc : t.toUtc? with
  | some u => rw [inUtc_of_toUtc? toUtc, inUtc_of_toUtc? (utc.trans toUtc)]
  | none => rw [inUtc_of_outside toUtc, inUtc_of_outside (utc.trans toUtc)]

theorem ofTimes_of_outside_first (outside : first.toUtc? = none) :
    ofTimes first last = .error .outsideCalendar := by
  unfold ofTimes
  rw [inUtc_of_outside outside]
  rfl

theorem ofTimes_of_outside_last (hu : first.toUtc? = some u) (outside : last.toUtc? = none) :
    ofTimes first last = .error .outsideCalendar := by
  unfold ofTimes
  rw [inUtc_of_toUtc? hu, inUtc_of_outside outside]
  rfl

/-- The range between two times goes between the times in UTC at their instants. -/
theorem ofTimes_of_toUtc? (hu : first.toUtc? = some u) (hv : last.toUtc? = some v) :
    ofTimes first last =
      if h : u.instant ≤ v.instant then
        .ok ⟨u, v, DateTime.offset_ofInstant? hu, DateTime.offset_ofInstant? hv, h⟩
      else .error (.emptyRange u v) := by
  unfold ofTimes
  rw [inUtc_of_toUtc? hu, inUtc_of_toUtc? hv]
  rfl

/-- A range is made of its bounds. -/
theorem ofTimes_bounds (r : TimeRange) : ofTimes r.first r.last = .ok r := by
  rw [ofTimes_of_toUtc? (DateTime.toUtc?_of_utc r.first_utc) (DateTime.toUtc?_of_utc r.last_utc),
    dif_pos r.ordered]

theorem exists_ofTimes_of_le (hf : first.InCalendar) (hl : last.InCalendar)
    (ordered : first.instant ≤ last.instant) :
    ∃ r, ofTimes first last = .ok r ∧ r.first.IsUtcOf first ∧ r.last.IsUtcOf last := by
  obtain ⟨u, toUtc, isUtc⟩ := DateTime.exists_isUtcOf hf
  obtain ⟨v, toUtc', isUtc'⟩ := DateTime.exists_isUtcOf hl
  have outcome := ofTimes_of_toUtc? toUtc toUtc'
  rw [dif_pos (by rwa [isUtc.instant, isUtc'.instant])] at outcome
  exact ⟨_, outcome, isUtc, isUtc'⟩

theorem exists_ofTimes_of_lt (hf : first.InCalendar) (hl : last.InCalendar)
    (later : last.instant < first.instant) :
    ∃ u v, ofTimes first last = .error (.emptyRange u v) ∧ u.IsUtcOf first ∧ v.IsUtcOf last := by
  obtain ⟨u, toUtc, isUtc⟩ := DateTime.exists_isUtcOf hf
  obtain ⟨v, toUtc', isUtc'⟩ := DateTime.exists_isUtcOf hl
  have outcome := ofTimes_of_toUtc? toUtc toUtc'
  rw [dif_neg (by rw [isUtc.instant, isUtc'.instant]; exact Int.not_le.2 later)] at outcome
  exact ⟨u, v, outcome, isUtc, isUtc'⟩

/-- Times at the same instants give the same range, or the same fault. -/
theorem ofTimes_congr {first' last' : DateTime} (hf : first'.instant = first.instant)
    (hl : last'.instant = last.instant) : ofTimes first' last' = ofTimes first last := by
  unfold ofTimes
  rw [inUtc_congr hf, inUtc_congr hl]

end TimeRange

end LogSearch
