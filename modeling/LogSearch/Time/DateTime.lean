import LogSearch.Text.Digit
import LogSearch.Time.Calendar

/-!
# Dates with a time of day

A `DateTime` is a wall clock reading in the years 1 to 9999, counted in microseconds from the start
of the year 1, with or without an offset from UTC.  One without an offset is *naive*; where an
instant is needed it is read as UTC.

Renders `datetime`, with `astimezone` (`toUtc?`) and the difference of a `timedelta` (`earlier?`).

Main statements: `toUtc?` keeps the instant, and fails exactly when the instant lies outside the
calendar.
-/

namespace LogSearch

/-- Microseconds in a second. -/
def microsPerSecond : Nat := 1000000

/-- Microseconds in a day. -/
def microsPerDay : Nat := 86400000000

/-- The end of the calendar: the microseconds of the years 1 to 9999. -/
def calendarEnd : Nat := calendarDays * microsPerDay

/-- An offset from UTC, in microseconds, less than a day either way. -/
structure Offset where
  micros : Int
  within_day : micros.natAbs < microsPerDay
deriving Repr, DecidableEq

/-- The offset of UTC itself. -/
def Offset.utc : Offset := ⟨0, by decide⟩

/-- A wall clock reading with or without an offset from UTC. -/
structure DateTime where
  /-- Microseconds since the start of the year 1. -/
  wall : Nat
  offset : Option Offset
  in_calendar : wall < calendarEnd
deriving Repr, DecidableEq

instance : Inhabited DateTime := ⟨⟨0, none, by decide⟩⟩

/-- The time of day, in fields. -/
structure Clock where
  hour : Nat
  minute : Nat
  second : Nat
  micro : Nat
deriving Repr, DecidableEq

namespace Clock

/-- Whether the fields are those of a time of day. -/
def isValid (c : Clock) : Bool := c.hour < 24 && c.minute < 60 && c.second < 60 && c.micro < 1000000

/-- The microseconds since midnight. -/
def micros (c : Clock) : Nat := ((c.hour * 60 + c.minute) * 60 + c.second) * 1000000 + c.micro

/-- The time of day of a number of microseconds since midnight. -/
def ofMicros (n : Nat) : Clock :=
  let seconds := n / 1000000
  ⟨seconds / 3600, seconds / 60 % 60, seconds % 60, n % 1000000⟩

theorem micros_ofMicros (n : Nat) : (ofMicros n).micros = n := by
  simp only [ofMicros, micros]
  omega

theorem ofMicros_isValid {n : Nat} (h : n < microsPerDay) : (ofMicros n).isValid = true := by
  simp only [microsPerDay] at h
  have h1 : n / 1000000 / 3600 < 24 := by omega
  have h2 : n / 1000000 / 60 % 60 < 60 := by omega
  have h3 : n / 1000000 % 60 < 60 := by omega
  have h4 : n % 1000000 < 1000000 := by omega
  simp [ofMicros, isValid, h1, h2, h3, h4]

end Clock

namespace DateTime

/-- The date that the wall clock shows. -/
def date (t : DateTime) : Date := .ofNumber (t.wall / microsPerDay)

/-- The time of day that the wall clock shows. -/
def clock (t : DateTime) : Clock := .ofMicros (t.wall % microsPerDay)

/-- The wall clock reading of a date and a time of day, if both are valid. -/
def ofFields? (d : Date) (c : Clock) (offset : Option Offset) : Option DateTime :=
  if d.isValid && c.isValid then
    let wall := d.number * microsPerDay + c.micros
    if h : wall < calendarEnd then some ⟨wall, offset, h⟩ else none
  else none

/-- The offset in microseconds, that of UTC for a naive time. -/
def offsetMicros (t : DateTime) : Int :=
  match t.offset with
  | none => 0
  | some o => o.micros

/-- The instant, in microseconds since the start of the year 1 in UTC. -/
def instant (t : DateTime) : Int := t.wall - t.offsetMicros

/-- The time in UTC at an instant that lies in the calendar. -/
def ofInstant? (z : Int) : Option DateTime :=
  if h : 0 ≤ z ∧ z < calendarEnd then some ⟨z.toNat, some .utc, by omega⟩ else none

/-- The time in UTC at the same instant, if that lies in the calendar. -/
def toUtc? (t : DateTime) : Option DateTime := ofInstant? t.instant

/-- The wall clock reading some microseconds earlier, if that lies in the calendar. -/
def earlier? (t : DateTime) (micros : Nat) : Option DateTime :=
  if micros ≤ t.wall then
    some ⟨t.wall - micros, t.offset, Nat.lt_of_le_of_lt (Nat.sub_le _ _) t.in_calendar⟩
  else none

/-- Whether two times are the same: both naive with the same reading, or both with an offset and at
the same instant. -/
def same (a b : DateTime) : Bool :=
  a.offset.isSome == b.offset.isSome && a.instant == b.instant

theorem instant_ofInstant? {z : Int} {t : DateTime} (h : ofInstant? z = some t) : t.instant = z := by
  unfold ofInstant? at h
  split at h
  · obtain rfl := Option.some.inj h
    simp only [instant, offsetMicros, Offset.utc]
    omega
  · cases h

theorem offset_ofInstant? {z : Int} {t : DateTime} (h : ofInstant? z = some t) :
    t.offset = some .utc := by
  unfold ofInstant? at h
  split at h
  · obtain rfl := Option.some.inj h; rfl
  · cases h

/-- Going to UTC keeps the instant. -/
theorem instant_toUtc? {t u : DateTime} (h : t.toUtc? = some u) : u.instant = t.instant :=
  instant_ofInstant? h

/-- Going to UTC fails exactly when the instant lies outside the calendar. -/
theorem toUtc?_isSome (t : DateTime) :
    t.toUtc?.isSome = true ↔ 0 ≤ t.instant ∧ t.instant < calendarEnd := by
  unfold toUtc? ofInstant?
  split <;> simp_all

/-- A time in UTC is left as it is. -/
theorem toUtc?_of_utc {t : DateTime} (h : t.offset = some .utc) : t.toUtc? = some t := by
  obtain ⟨wall, offset, hw⟩ := t
  simp only at h
  subst h
  have hw' : (wall : Int) < calendarEnd := by exact_mod_cast hw
  simp [toUtc?, ofInstant?, instant, offsetMicros, Offset.utc, hw']

end DateTime

end LogSearch
