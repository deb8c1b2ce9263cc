import LogSearch.Text.Blank
import LogSearch.Text.Digit

/-!
# Integers written as text

An integer may be written with spaces around it, one sign, decimal digits of any script, and single
underscores between digits.  A text that passes the digits and has more than 4300 of them is refused
for its length, whatever follows them.

Renders `int` of a text.
-/

namespace LogSearch.Text

/-- Why a text is not read as an integer. -/
inductive IntegerError
  /-- The text is not an integer's. -/
  | malformed
  /-- The text has this many digits, more than are read. -/
  | tooLong (digits : Nat)
deriving Repr, DecidableEq

/-- The most digits that a number may have to be read from text, or written to it. -/
def digitLimit : Nat := 4300

/-- Splits off a sign: whether it is a minus, and what follows. -/
def splitSign : List Char → Bool × List Char
  | '-' :: r => (true, r)
  | '+' :: r => (false, r)
  | r => (false, r)

/-- Reads digits with single underscores between them, as far as they reach.  `separable` says that
a digit stands right before, so that an underscore may follow.  The result is absent when an
underscore is misplaced. -/
def digitRun (digit? : Char → Option Nat) : Bool → List Char → Option (List Nat × List Char)
  | separable, [] => if separable then some ([], []) else none
  | separable, c :: r =>
    match digit? c with
    | some d => (digitRun digit? true r).map fun (ds, rest) => (d :: ds, rest)
    | none =>
      if c = '_' then if separable then digitRun digit? false r else none
      else if separable then some ([], c :: r) else none

/-- Reads an integer whose digits `digit?` knows. -/
def readInteger (digit? : Char → Option Nat) (cs : List Char) : Except IntegerError Int :=
  let (negative, body) := splitSign (cs.dropWhile isSpace)
  match digitRun digit? false body with
  | none => .error .malformed
  | some (ds, rest) =>
    if digitLimit < ds.length then .error (.tooLong ds.length)
    else if rest.all isSpace then
      .ok (if negative then -(ofDigits ds : Int) else ofDigits ds)
    else .error .malformed

/-- Reads an integer with digits of any script. -/
def integer? (s : String) : Except IntegerError Int := readInteger digitValue? s.toList

/-- Reads an integer from bytes, of which only ASCII ones can be digits or spaces. -/
def integerOfBytes? (bs : List UInt8) : Except IntegerError Int :=
  readInteger asciiDigit? (bs.map fun b => if b.toNat < 128 then Char.ofNat b.toNat else '?')

example : (integer? " 1_000 ").toOption = some 1000 ∧ (integer? "٣_3").toOption = some 33 := by
  decide +kernel

example : (integer? "1__0").toOption = none ∧ (integer? "3.").toOption = none := by
  decide +kernel

end LogSearch.Text
