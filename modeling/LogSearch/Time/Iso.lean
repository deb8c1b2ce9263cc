import LogSearch.Text.Quoted
import LogSearch.Time.DateTime

/-!
# ISO 8601 text

A time is written as `2024-03-01T12:00:00.000500+02:00`: the fraction only when it is not zero, the
offset only when there is one, its seconds only when they are not zero.

The reader takes more than the writer writes: calendar and week dates with or without hyphens, any
one character between date and time, a time of day with or without colons that may end after the
hour, and fractions of any length, of which six digits count.  Positions are counted in the octets
of the text's UTF-8 form, which matters because the date and the separator are found by position,
and reading past the end sees a NUL.

Renders `datetime.isoformat` (`DateTime.iso`) and `datetime.fromisoformat` (`Iso.read`).
-/

namespace LogSearch

namespace DateTime

/-- The seconds and the fraction of a time of day: the fraction only if it is not zero. -/
def secondText (second micro : Nat) : List Char :=
  Text.padded 2 second ++ if micro = 0 then [] else '.' :: Text.padded 6 micro

/-- An offset as `+HH:MM`, with seconds and fraction as far as they are not zero. -/
def offsetText (o : Offset) : List Char :=
  let clock := Clock.ofMicros o.micros.natAbs
  let tail :=
    if clock.second = 0 && clock.micro = 0 then [] else ':' :: secondText clock.second clock.micro
  (if o.micros < 0 then '-' else '+') :: Text.padded 2 clock.hour ++
    ':' :: Text.padded 2 clock.minute ++ tail

/-- The text of a time, with `separator` between date and time of day. -/
def isoChars (separator : Char) (t : DateTime) : List Char :=
  let date := t.date
  let clock := t.clock
  Text.padded 4 date.year ++ '-' :: Text.padded 2 date.month ++ '-' :: Text.padded 2 date.day ++
    separator :: Text.padded 2 clock.hour ++ ':' :: Text.padded 2 clock.minute ++
    ':' :: secondText clock.second clock.micro ++ (t.offset.map offsetText).getD []

/-- The text of a time with a `T` between date and time of day. -/
def iso (t : DateTime) : String := String.ofList (t.isoChars 'T')

/-- The text of a time with a space between date and time of day. -/
def spaced (t : DateTime) : String := String.ofList (t.isoChars ' ')

/-- A span of time as the expression that makes it. -/
def spanLiteral (micros : Int) : String :=
  let day : Int := microsPerDay
  let days := micros.fdiv day
  let rest := (micros.fmod day).toNat
  let part (name : String) (n : Int) : List String :=
    if n = 0 then [] else [name ++ "=" ++ String.ofList (Text.integer n)]
  let parts := part "days" days ++ part "seconds" (rest / 1000000) ++
    part "microseconds" (rest % 1000000)
  "datetime.timedelta(" ++ (if parts.isEmpty then "0" else ", ".intercalate parts) ++ ")"

/-- A time as the expression that makes it: seconds and microseconds as far as they are not zero. -/
def literal (t : DateTime) : String :=
  let date := t.date
  let clock := t.clock
  let tail :=
    if clock.micro ≠ 0 then [clock.second, clock.micro]
    else if clock.second ≠ 0 then [clock.second] else []
  let fields := [date.year, date.month, date.day, clock.hour, clock.minute] ++ tail
  let zone := match t.offset with
    | none => []
    | some o =>
      if o.micros = 0 then ["tzinfo=datetime.timezone.utc"]
      else ["tzinfo=datetime.timezone(" ++ spanLiteral o.micros ++ ")"]
  "datetime.datetime(" ++
    ", ".intercalate (fields.map (fun n => String.ofList (Text.decimal n)) ++ zone) ++ ")"

end DateTime

/-- A field of a time that is out of its range. -/
inductive FieldError
  | year (given : Int)
  | month
  | day
  | hour
  | minute
  | second
deriving Repr, DecidableEq

/-- The text that tells of a field out of range. -/
def FieldError.message : FieldError → String
  | .year given => "year " ++ String.ofList (Text.integer given) ++ " is out of range"
  | .month => "month must be in 1..12"
  | .day => "day is out of range for month"
  | .hour => "hour must be in 0..23"
  | .minute => "minute must be in 0..59"
  | .second => "second must be in 0..59"

/-- The first field of a date and a time of day that is out of range. -/
def FieldError.first? (d : Date) (c : Clock) : Option FieldError :=
  if d.year < 1 || 9999 < d.year then some (.year d.year)
  else if d.month < 1 || 12 < d.month then some .month
  else if d.day < 1 || daysInMonth d.year d.month < d.day then some .day
  else if 24 ≤ c.hour then some .hour
  else if 60 ≤ c.minute then some .minute
  else if 60 ≤ c.second then some .second
  else none

/-- Why a text is not read as a time. -/
inductive IsoError
  /-- The text has none of the forms. -/
  | malformed (text : String)
  /-- The offset, in microseconds, is a day or more. -/
  | offset (micros : Int)
  | field (error : FieldError)
deriving Repr, DecidableEq

/-- The text that tells why a text is not read as a time. -/
def IsoError.message : IsoError → String
  | .malformed text => "Invalid isoformat string: " ++ Text.quoted text
  | .offset micros =>
    "offset must be a timedelta strictly between -timedelta(hours=24) and timedelta(hours=24), not "
      ++ DateTime.spanLiteral micros ++ "."
  | .field error => error.message

namespace Iso

/-- A text laid out so that a character takes as many places as its UTF-8 form has octets: it stands
in the first of them. -/
def places (cs : List Char) : List Char :=
  cs.flatMap fun c => c :: List.replicate (c.utf8Size - 1) '\ufffd'

/-- The character at the front, or a NUL when nothing is left. -/
def front (cs : List Char) : Char := cs.headD '\x00'

/-- The character at a place, or a NUL past the end. -/
def placeAt (cs : List Char) (i : Nat) : Char := front (cs.drop i)

/-- Reads exactly `count` of the digits `0` to `9`. -/
def digits : Nat → List Char → Option (List Nat × List Char)
  | 0, cs => some ([], cs)
  | _ + 1, [] => none
  | count + 1, c :: r =>
    match Text.asciiDigit? c with
    | none => none
    | some d => (digits count r).map fun (ds, rest) => (d :: ds, rest)

/-- Reads a number of exactly `count` digits. -/
def number (count : Nat) (cs : List Char) : Option (Nat × List Char) :=
  (digits count cs).map fun (ds, rest) => (Text.ofDigits ds, rest)

/-- The place of the separator between date and time of day, from the shape of the date.  With a
week date and no hyphens an odd number of places after the week tells that the day is given. -/
def separatorPlace (ps : List Char) : Nat :=
  if ps.length = 7 then 7
  else if placeAt ps 4 = '-' then
    if placeAt ps 5 = 'W' then
      if 8 < ps.length && placeAt ps 8 = '-' then
        if 10 < ps.length && Text.isAsciiDigit (placeAt ps 10) then 8 else 10
      else 8
    else 10
  else if placeAt ps 4 = 'W' then
    let stop := 7 + ((ps.drop 7).takeWhile Text.isAsciiDigit).length
    if stop < 9 then stop else if stop % 2 = 0 then 7 else 8
  else 8

/-- A date as it is written. -/
inductive WrittenDate
  | calendar (date : Date)
  | week (year week day : Nat)
deriving Repr, DecidableEq

/-- Drops a hyphen if one is due. -/
def hyphen (due : Bool) (cs : List Char) : Option (List Char) :=
  match due, cs with
  | false, _ => some cs
  | true, '-' :: r => some r
  | true, _ => none

/-- Reads the date in the places before the separator. -/
def writtenDate (ps : List Char) (separator : Nat) : Option WrittenDate := do
  let (year, rest) ← number 4 ps
  let hyphens := front rest == '-'
  let rest := if hyphens then rest.tail else rest
  match rest with
  | 'W' :: rest =>
    let (week, rest) ← number 2 rest
    if (if hyphens then 8 else 7) < separator then
      let rest ← hyphen hyphens rest
      let (day, _) ← number 1 rest
      some (.week year week day)
    else some (.week year week 1)
  | rest =>
    let (month, rest) ← number 2 rest
    let rest ← hyphen hyphens rest
    let (day, _) ← number 2 rest
    some (.calendar ⟨year, month, day⟩)

/-- The date meant by a written one.  Year 0 has weeks, but their days have no month. -/
def WrittenDate.resolve : WrittenDate → Option Date
  | .calendar date => some date
  | .week year w day =>
    if w = 0 || 53 < w || (w = 53 && !hasLongYear year) || day = 0 || 7 < day then none
    else if year = 0 then some ⟨1, 0, 0⟩
    else some (.ofNumber (firstMonday year + (w - 1) * 7 + (day - 1)))

/-- What follows the hours, minutes and seconds of a time of day. -/
inductive ClockTail
  /-- The time of day ends; `clean` says that nothing stands after its last digit. -/
  | ended (clean : Bool)
  /-- A fraction, at the front of this text, before the end that is so many places away. -/
  | fraction (text : List Char) (places : Nat)

/-- Reads up to `count` numbers of two digits, with colons between them or without, before the end
that is `left` places away.  The first number decides about the colons. -/
def clockNumbers : Nat → Option Bool → List Char → Nat → Option (List Nat × ClockTail)
  | 0, _, cs, left => some ([], .fraction cs left)
  | count + 1, colons, cs, left => do
    let (n, rest) ← number 2 cs
    let c := front rest
    let colons := colons.getD (c == ':')
    if left ≤ 3 then some ([n], .ended (c == '\x00'))
    else if colons && c == ':' then
      let (ns, tail) ← clockNumbers count (some colons) rest.tail (left - 3)
      some (n :: ns, tail)
    else if c == '.' || c == ',' then some ([n], .fraction rest.tail (left - 3))
    else if colons then none
    else
      let (ns, tail) ← clockNumbers count (some colons) rest (left - 2)
      some (n :: ns, tail)

/-- Reads a fraction: six digits or as many as there are places, and the digits after those are
passed over.  The second part says that nothing stands after them. -/
def fraction (cs : List Char) (left : Nat) : Option (Nat × Bool) := do
  let count := min left 6
  let (n, rest) ← number count cs
  some (n * Nat.pow 10 (6 - count), front (rest.dropWhile Text.isAsciiDigit) == '\x00')

/-- Reads a time of day before the end that is `left` places away, and whether nothing stands after
it. -/
def clockText (cs : List Char) (left : Nat) : Option (Clock × Bool) := do
  let (ns, tail) ← clockNumbers 3 none cs left
  let (micro, clean) ← match tail with
    | .ended clean => some (0, clean)
    | .fraction text places => fraction text places
  some (⟨ns.headD 0, ns.getD 1 0, ns.getD 2 0, micro⟩, clean)

/-- Whether a character starts an offset. -/
def isZoneMark (c : Char) : Bool := c == '+' || c == '-' || c == 'Z'

/-- The seconds of a time of day, without its fraction. -/
def wholeSeconds (c : Clock) : Nat := (c.hour * 60 + c.minute) * 60 + c.second

/-- Reads a time of day with an optional offset, which is in microseconds.  One character is passed
over before an offset.  An offset of zero seconds is that of UTC whatever its fraction. -/
def timeText (cs : List Char) : Option (Clock × Option Int) := do
  let mark := (cs.takeWhile (!isZoneMark ·)).length
  let (clock, clean) ← clockText cs mark
  match cs.drop mark with
  | [] => if clean then some (clock, none) else none
  | 'Z' :: rest => if front rest == '\x00' then some (clock, some 0) else none
  | sign :: rest =>
    let (zone, clean) ← clockText rest rest.length
    let micros : Int := if wholeSeconds zone = 0 then 0 else zone.micros
    if clean then some (clock, some (if sign == '-' then -micros else micros)) else none

/-- The parts of a text: its date, and after a separator its time of day with an optional offset. -/
def parts (ps : List Char) : Option (Date × Clock × Option Int) := do
  let separator := separatorPlace ps
  let written ← writtenDate ps separator
  let date ← written.resolve
  if ps.length ≤ separator then some (date, ⟨0, 0, 0, 0⟩, none)
  else
    let rest := ps.drop separator
    let (clock, zone) ← timeText (rest.drop (front rest).utf8Size)
    some (date, clock, zone)

/-- An offset of a number of microseconds. -/
def offset? (micros : Int) : Except IsoError Offset :=
  if h : micros.natAbs < microsPerDay then .ok ⟨micros, h⟩ else .error (.offset micros)

/-- Reads a time. -/
def read (text : String) : Except IsoError DateTime :=
  match parts (places text.toList) with
  | none => .error (.malformed text)
  | some (date, clock, zone) => do
    let offset ← match zone with
      | none => .ok none
      | some micros => (offset? micros).map some
    match FieldError.first? date clock with
    | some e => .error (.field e)
    | none =>
      match DateTime.ofFields? date clock offset with
      | some t => .ok t
      | none => .error (.malformed text)

end Iso

end LogSearch
