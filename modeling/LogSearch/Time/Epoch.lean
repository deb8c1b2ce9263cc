import LogSearch.Decimal.Binary64
import LogSearch.Time.Iso

/-!
# Times as numbers

A number is read as the milliseconds since the start of 1970 in UTC.  It is divided by a thousand as
a floating point number, its fraction is rounded to microseconds, ties to even, and its whole
seconds are turned into a date.  The clock that does that counts seconds in 64 bits and years in 32,
and so there are four ways to be too far away.

Renders `datetime.fromtimestamp`, as `_parse_timestamp` calls it.
-/

namespace LogSearch

/-- Why a number is not the time of anything. -/
inductive EpochError
  /-- It is not a number. -/
  | notANumber
  /-- An integer whose thousandth is no floating point number. -/
  | quotientTooLarge
  /-- More seconds than the clock counts. -/
  | tooManySeconds
  /-- More years than the clock counts. -/
  | tooManyYears
  /-- The year is outside the calendar; given as the clock shows it. -/
  | year (shown : Int)
deriving Repr, DecidableEq

namespace Epoch

/-- The microseconds from the start of the year 1 to the start of 1970. -/
def start : Nat := 719162 * microsPerDay

/-- The clock counts seconds in 64 bits: fewer than this, and no fewer than its negative. -/
def secondLimit : Int := 9223372036854775808

/-- The first and the last second that the clock has a year for. -/
def clockSeconds : Int × Int := (-67768040609740800, 67768036191676799)

/-- The whole seconds, and the microseconds from 0 to 999999, nearest to a finite number. -/
def secondsAndMicros (negative : Bool) (m : Nat) (e : Int) : Int × Nat :=
  let (whole, part, den) := Binary64.split m e
  let scaled := Binary64.ofRatio false (part * 1000000) den
  let micros := match scaled with
    | .finite _ m e _ =>
      let (num, den) := Binary64.magnitude m e
      Decimal.roundHalfEven num den
    | _ => 0
  let total : Int := whole * 1000000 + micros
  let total := if negative then -total else total
  (total.fdiv 1000000, (total.fmod 1000000).toNat)

/-- The year of a day that is counted from the start of the year 1 in either direction. -/
def yearOf (day : Int) : Int :=
  400 * day.fdiv 146097 + Date.yearOf (day.fmod 146097).toNat

/-- The time at a number of seconds since the start of 1970. -/
def ofSeconds (x : Binary64) : Except EpochError DateTime :=
  match x with
  | .nan _ => .error .notANumber
  | .infinite _ => .error .tooManySeconds
  | .finite negative m e _ =>
    let (seconds, micros) := secondsAndMicros negative m e
    if seconds < -secondLimit || secondLimit ≤ seconds then .error .tooManySeconds
    else if seconds < clockSeconds.1 || clockSeconds.2 < seconds then .error .tooManyYears
    else
      match DateTime.ofInstant? (start + seconds * 1000000 + micros) with
      | some t => .ok t
      | none =>
        .error (.year ((yearOf (719162 + seconds.fdiv 86400)).bmod 4294967296))

/-- The time at an integral number of milliseconds. -/
def ofMillis (n : Int) : Except EpochError DateTime :=
  match Binary64.ofRatio (n < 0) n.natAbs 1000 with
  | .infinite _ => .error .quotientTooLarge
  | x => ofSeconds x

/-- The time at a number of milliseconds. -/
def ofMillisFloat (x : Binary64) : Except EpochError DateTime := ofSeconds (x.divNat 1000)

end Epoch

end LogSearch
