import LogSearch.Decimal.Nearest

/-!
# Binary floating point numbers of 64 bits

A number is a signed mantissa of at most 53 bits times a power of two, an infinity, or one of those
that are not a number.  All arithmetic here is exact arithmetic on naturals followed by one rounding to
the nearest representable number, ties to the even mantissa, so that every operation is fixed by
`ofRatio`.  A finite number carries that it is in lowest exponent form, and so two finite numbers are the
same exactly when sign, mantissa and exponent are.

Renders `float` and its arithmetic.
-/

namespace LogSearch

/-- A binary floating point number of 64 bits.  The value of `finite s m e _` is `m * 2 ^ e` with the
sign `s`, where `true` is the minus. -/
inductive Binary64
  /-- What is not a number.  There are many of these, told apart by a tag. -/
  | nan (tag : Nat)
  | infinite (negative : Bool)
  | finite (negative : Bool) (mantissa : Nat) (exponent : Int)
      (isFinite : Binary64.IsFinite mantissa exponent)
deriving Repr, DecidableEq, Inhabited

namespace Binary64

/-- Zero with the given sign. -/
def zero (negative : Bool) : Binary64 := finite negative 0 leastExponent isFinite_zero

/-- The number nearest to `num / den` with the given sign, ties to the even mantissa; an infinity
when that would be too large.  A ratio with nothing below the line counts as zero. -/
def ofRatio (negative : Bool) (num den : Nat) : Binary64 :=
  if positive : num ≠ 0 ∧ den ≠ 0 then
    let n := nearest num den
    if inRange : n.2 ≤ greatestExponent then
      finite negative n.1 n.2 ⟨isLowest_nearest positive.1 positive.2, inRange⟩
    else infinite negative
  else zero negative

/-- The number nearest to an integer. -/
def ofInt (z : Int) : Binary64 := ofRatio (z < 0) z.natAbs 1

/-- The absolute value of a finite number as a ratio. -/
def magnitude (m : Nat) (e : Int) : Nat × Nat :=
  let (p, q) := twoPow e
  (m * p, q)

/-- The quotient of a number and a positive natural. -/
def divNat (x : Binary64) (n : Nat) : Binary64 :=
  match x with
  | finite s m e _ =>
    let (num, den) := magnitude m e
    ofRatio s num (den * n)
  | other => other

/-- The integer part, without the sign, and the fraction as a ratio, of the absolute value of a
finite number. -/
def split (m : Nat) (e : Int) : Nat × Nat × Nat :=
  let (num, den) := magnitude m e
  (num / den, num % den, den)

/-- The integer part of a finite number, with its sign. -/
def truncate (negative : Bool) (m : Nat) (e : Int) : Int :=
  let n : Int := (split m e).1
  if negative then -n else n

/-- A finite number as a ratio whose numerator carries the sign. -/
def signedRatio (negative : Bool) (m : Nat) (e : Int) : Int × Nat :=
  let (num, den) := magnitude m e
  (if negative then -(num : Int) else num, den)

/-- Whether two numbers have the same value: the two zeros do, and what is not a number has no
value. -/
def same : Binary64 → Binary64 → Bool
  | nan _, _ | _, nan _ => false
  | infinite s, infinite t => s == t
  | finite s m e _, finite t n f _ => (s == t || m == 0 && n == 0) && m == n && (e == f || m == 0)
  | _, _ => false

/-- Whether a number has the value zero. -/
def isZero : Binary64 → Bool
  | finite _ m _ _ => m == 0
  | _ => false

theorem ofRatio_zero (s : Bool) (den : Nat) : ofRatio s 0 den = zero s := by
  simp [ofRatio]

example : ofInt 1 = finite false (2 ^ 52) (-52) ⟨⟨by decide, by decide, by decide⟩, by decide⟩ := by
  decide +kernel

end Binary64

end LogSearch
