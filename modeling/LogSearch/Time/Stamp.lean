import LogSearch.Text.Blank
import LogSearch.Time.DateTime

/-!
# Stamps in log messages and in queries

A log message shows its time as `2024-03-01 12:00:00.250`, or without the fraction.  The reader
takes one or two digits in each field but the year, digits of any script where a field leaves a
choice, and any run of blanks between date and time of day.  A query shows a time with milliseconds,
cut and not rounded.

Renders `datetime.strptime` as `_parse_timestamp_string` calls it (`read?`), and `_format_timestamp`
(`write`).
-/

namespace LogSearch.Stamp

/-- A digit of any script. -/
def anyDigit : Char → Option Nat := Text.digitValue?

/-- One of the digits from `low` to `high`, in ASCII. -/
def between (low high : Nat) (c : Char) : Option Nat :=
  (Text.asciiDigit? c).filter fun d => low ≤ d && d ≤ high

/-- A space, read as a leading zero. -/
def leadingSpace (c : Char) : Option Nat := if c = ' ' then some 0 else none

/-- The ways of writing a field, each a list of digit classes. -/
abbrev Forms := List (List (Char → Option Nat))

/-- The ways of writing a month. -/
def month : Forms := [[between 1 1, between 0 2], [between 0 0, between 1 9], [between 1 9]]

/-- The ways of writing a day. -/
def day : Forms :=
  [[between 3 3, between 0 1], [between 1 2, anyDigit], [between 0 0, between 1 9], [between 1 9],
    [leadingSpace, between 1 9]]

/-- The ways of writing an hour. -/
def hour : Forms := [[between 2 2, between 0 3], [between 0 1, anyDigit], [anyDigit]]

/-- The ways of writing a minute. -/
def minute : Forms := [[between 0 5, anyDigit], [anyDigit]]

/-- The ways of writing a second; two of them are past the end of any minute. -/
def second : Forms := [[between 6 6, between 0 1], [between 0 5, anyDigit], [anyDigit]]

/-- The way of writing a year. -/
def year : Forms := [[anyDigit, anyDigit, anyDigit, anyDigit]]

/-- Reads one way of writing a field. -/
def readForm : List (Char → Option Nat) → List Char → Option (List Nat × List Char)
  | [], cs => some ([], cs)
  | _ :: _, [] => none
  | cls :: more, c :: r =>
    match cls c with
    | none => none
    | some d => (readForm more r).map fun (ds, rest) => (d :: ds, rest)

/-- Reads a field in the first way that `follows` accepts the rest after; gives the field's number
and what `follows` made of the rest. -/
def readField {α : Type} (forms : Forms) (cs : List Char) (follows : List Char → Option α) :
    Option (Nat × α) :=
  forms.findSome? fun form => do
    let (ds, rest) ← readForm form cs
    let after ← follows rest
    some (Text.ofDigits ds, after)

/-- Drops the given character. -/
def mark (c : Char) : List Char → Option (List Char)
  | [] => none
  | d :: r => if d = c then some r else none

/-- Drops one or more blanks. -/
def blanks (cs : List Char) : Option (List Char) :=
  match cs with
  | [] => none
  | c :: r => if Text.isBlank c then some (r.dropWhile Text.isBlank) else none

/-- Reads a fraction of one to six digits; the second part is what follows it. -/
def fraction (cs : List Char) : Option (Nat × List Char) :=
  let ds := (cs.take 6).takeWhile Text.isAsciiDigit
  if ds.isEmpty then none
  else
    some (Text.ofDigits (ds.map fun c => c.toNat - 48) * Nat.pow 10 (6 - ds.length), cs.drop ds.length)

/-- Reads a stamp, with a fraction or without one. -/
def readWith (fractional : Bool) (cs : List Char) : Option DateTime := do
  let (year, rest) ← readField year cs (mark '-')
  let (month, rest) ← readField month rest (mark '-')
  let (day, rest) ← readField day rest blanks
  let (hour, rest) ← readField hour rest (mark ':')
  let (minute, rest) ← readField minute rest (mark ':')
  let (second, rest) ← readField second rest (if fractional then mark '.' else some)
  let (micro, rest) ← if fractional then fraction rest else some (0, rest)
  if rest.isEmpty then DateTime.ofFields? ⟨year, month, day⟩ ⟨hour, minute, second, micro⟩ none
  else none

/-- Reads a stamp. -/
def read? (s : String) : Option DateTime :=
  (readWith true s.toList).or (readWith false s.toList)

/-- The text of a time with its fraction in six digits.  The year has as many digits as it needs. -/
def microChars (t : DateTime) : List Char :=
  let date := t.date
  let clock := t.clock
  Text.decimal date.year ++ '-' :: Text.padded 2 date.month ++ '-' :: Text.padded 2 date.day ++
    ' ' :: Text.padded 2 clock.hour ++ ':' :: Text.padded 2 clock.minute ++
    ':' :: Text.padded 2 clock.second ++ '.' :: Text.padded 6 clock.micro

/-- The text of a time with its fraction cut to milliseconds. -/
def milliChars (t : DateTime) : List Char :=
  let cs := microChars t
  cs.take (cs.length - 3)

/-- The stamp of a time in a query. -/
def write (t : DateTime) : String := String.ofList (milliChars t)

end LogSearch.Stamp
