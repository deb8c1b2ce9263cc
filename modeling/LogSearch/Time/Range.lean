import LogSearch.Fault

/-!
# Time ranges

A time range goes from a first to a last instant, both included.  Its bounds are kept in UTC,
whatever they were given in.

Renders `TimeRange`: `__post_init__` (`ofTimes`) and `to_dict` (`record`); `_as_utc` (`inUtc`).
-/

namespace LogSearch

/-- A range of instants. -/
structure TimeRange where
  first : DateTime
  last : DateTime
  first_utc : first.offset = some .utc
  last_utc : last.offset = some .utc
  ordered : first.instant ≤ last.instant

namespace TimeRange

/-- A time in UTC, or the fault that it lies outside the calendar there. -/
def inUtc (t : DateTime) : Except Fault { u : DateTime // u.offset = some .utc } :=
  match h : t.toUtc? with
  | some u => .ok ⟨u, DateTime.offset_ofInstant? h⟩
  | none => .error .outsideCalendar

/-- The range between two times, which may be in any offset or in none. -/
def ofTimes (first last : DateTime) : Except Fault TimeRange := do
  let ⟨first, hf⟩ ← inUtc first
  let ⟨last, hl⟩ ← inUtc last
  if h : first.instant ≤ last.instant then return ⟨first, last, hf, hl, h⟩
  else throw (.emptyRange first last)

/-- The record that shows a range. -/
def record (r : TimeRange) : Value :=
  .record [("type", .str "absolute"), ("from", .str r.first.iso), ("to", .str r.last.iso)]

end TimeRange

end LogSearch
