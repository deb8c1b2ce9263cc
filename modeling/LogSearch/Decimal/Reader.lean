import LogSearch.Decimal.Binary64
import LogSearch.Text.Digit
import LogSearch.Text.Blank

/-!
# Reading decimal numbers as floating point numbers

A decimal text denotes a ratio, and is read as the number nearest to it.  An exponent far outside
the range of the format decides the result alone, so that no huge power is ever formed.

Renders `float` of a text.
-/

namespace LogSearch.Decimal

/-- The number nearest to `digits * 10 ^ exponent`. -/
def toBinary64 (negative : Bool) (digits : Nat) (exponent : Int) : Binary64 :=
  if digits = 0 then .zero negative
  else
    let size : Int := (Nat.toDigits 10 digits).length
    if 400 < exponent + size then .infinite negative
    else if exponent + size < -400 then .zero negative
    else if 0 ≤ exponent then .ofRatio negative (digits * Nat.pow 10 exponent.toNat) 1
    else .ofRatio negative digits (Nat.pow 10 (-exponent).toNat)

/-- Reads the digits `0` to `9` at the front. -/
def digitsFront (cs : List Char) : List Nat × List Char :=
  ((cs.takeWhile Text.isAsciiDigit).map fun c => c.toNat - 48, cs.dropWhile Text.isAsciiDigit)

/-- Reads an exponent, its mark included, at the front; zero when there is none. -/
def exponentFront (cs : List Char) : Int × List Char :=
  match cs with
  | c :: r =>
    if c = 'e' || c = 'E' then
      let (negative, body) := match r with
        | '-' :: t => (true, t)
        | '+' :: t => (false, t)
        | t => (false, t)
      match digitsFront body with
      | ([], _) => (0, cs)
      | (ds, rest) =>
        let n : Int := Text.ofDigits ds
        (if negative then -n else n, rest)
    else (0, cs)
  | [] => (0, [])

/-- Reads an unsigned decimal number: digits with an optional point among them, and an optional
exponent. -/
def readUnsigned (negative : Bool) (cs : List Char) : Option Binary64 :=
  let (whole, rest) := digitsFront cs
  let (fraction, rest) := match rest with
    | '.' :: r => digitsFront r
    | r => ([], r)
  if whole.isEmpty && fraction.isEmpty then none
  else
    let (power, rest) := exponentFront rest
    if rest.isEmpty then
      some (toBinary64 negative (Text.ofDigits (whole ++ fraction)) (power - fraction.length))
    else none

/-- Reads a floating point number: a decimal one, an infinity, or what is not a number, with an
optional sign. -/
def readSigned (cs : List Char) : Option Binary64 :=
  let (negative, body) := match cs with
    | '-' :: r => (true, r)
    | '+' :: r => (false, r)
    | r => (false, r)
  let lower := String.ofList (body.map Char.toLower)
  if lower = "nan" then some (.nan 0)
  else if lower = "inf" || lower = "infinity" then some (.infinite negative)
  else readUnsigned negative body

/-- Reads a floating point number with spaces around it. -/
def binary64? (s : String) : Option Binary64 := readSigned (Text.trimBy Text.isSpace s.toList)

end LogSearch.Decimal
