import LogSearch.Decimal.Binary64
import LogSearch.Text.Digit

/-!
# The shortest decimal text of a floating point number

A finite number is written with the fewest decimal digits that read back as the same number, and of
two texts of that length with the one nearer to it.  The reals that round to the number form an
interval, closed exactly when the mantissa is even.  For one, two, … seventeen digits the two
neighbours of the number on that decimal grid are tested, all in exact arithmetic.

How the digits are laid out is a record, `Layout`.

Renders `repr` of a `float`.
-/

namespace LogSearch.Decimal

/-- A positive decimal number, `digits * 10 ^ exponent`. -/
structure Scientific where
  digits : Nat
  exponent : Int
deriving Repr, DecidableEq, Inhabited

/-- `b ^ e` as a ratio. -/
def powRatio (b : Nat) (e : Int) : Nat × Nat :=
  if 0 ≤ e then (Nat.pow b e.toNat, 1) else (1, Nat.pow b (-e).toNat)

/-- The reals that round to the positive number `m * 2 ^ e`, in units of `2 ^ (e - 2)`: the lower
end, the number, the upper end, and whether the ends belong to it. -/
def interval (m : Nat) (e : Int) : Nat × Nat × Nat × Bool :=
  let below := if m = Nat.pow 2 52 && Binary64.leastExponent < e then 1 else 2
  (4 * m - below, 4 * m, 4 * m + 2, m % 2 = 0)

/-- The least `p` with `num / den < 10 ^ p` among an estimate and the two numbers after it. -/
def decimalPoint (num den : Nat) : Int :=
  let guess := Binary64.binade num den * 30103 / 100000
  let below (p : Int) : Bool :=
    let (a, b) := powRatio 10 p
    num * b < den * a
  if below guess then guess else if below (guess + 1) then guess + 1 else guess + 2

/-- The decimal of `count` digits that reads back as the positive number `m * 2 ^ e`, whose decimal
point stands at `point`, if there is one; of two the nearer. -/
def withDigits (m : Nat) (e point : Int) (count : Nat) : Option Scientific :=
  let exponent := point - count
  let (low, mid, high, closed) := interval m e
  let (a, b) := powRatio 2 (e - 2)
  let (c, d) := powRatio 10 exponent
  -- Everything is compared after multiplication by `b * d`.
  let unit := c * b
  let value := mid * a * d
  let floor := value / unit
  let inside (n : Nat) : Bool :=
    if closed then low * a * d ≤ n * unit && n * unit ≤ high * a * d
    else low * a * d < n * unit && n * unit < high * a * d
  match inside floor && 0 < floor, inside (floor + 1) with
  | true, true =>
    let down := value - floor * unit
    let up := (floor + 1) * unit - value
    if down < up || down = up && floor % 2 = 0 then some ⟨floor, exponent⟩
    else some ⟨floor + 1, exponent⟩
  | true, false => some ⟨floor, exponent⟩
  | false, true => some ⟨floor + 1, exponent⟩
  | false, false => none

/-- Moves the zeros at the end of the digits into the exponent. -/
def Scientific.reduced (x : Scientific) : Scientific :=
  if h : x.digits ≠ 0 ∧ x.digits % 10 = 0 then
    Scientific.reduced ⟨x.digits / 10, x.exponent + 1⟩
  else x
termination_by x.digits
decreasing_by omega

/-- The shortest decimal that reads back as the positive number `m * 2 ^ e`. -/
def shortest (m : Nat) (e : Int) : Scientific :=
  let (num, den) := Binary64.magnitude m e
  let point := decimalPoint num den
  let found := (List.range 17).findSome? fun n => withDigits m e point (n + 1)
  (found.getD ⟨m, e⟩).reduced

/-- How the digits of a decimal number are laid out. -/
structure Layout where
  /-- The number is written positionally when its decimal point stands at least here, counted from
  the front of the digits. -/
  leastPoint : Int
  /-- The number is written positionally when its decimal point stands at most here. -/
  greatestPoint : Int
  /-- What a positional number without a fraction ends in. -/
  wholeSuffix : String
  /-- What stands before the exponent. -/
  exponentMark : Char
  /-- The least number of digits in the exponent. -/
  exponentWidth : Nat
  /-- The text of what is not a number. -/
  nanText : String
  /-- The text of the positive infinity. -/
  infinityText : String
deriving Repr

/-- Writes a positive decimal number. -/
def Layout.write (l : Layout) (x : Scientific) : List Char :=
  let ds := Text.decimal x.digits
  let point := x.exponent + ds.length
  if l.leastPoint ≤ point && point ≤ l.greatestPoint then
    if point ≤ 0 then '0' :: '.' :: List.replicate (-point).toNat '0' ++ ds
    else if ds.length ≤ point.toNat then
      ds ++ List.replicate (point.toNat - ds.length) '0' ++ l.wholeSuffix.toList
    else ds.take point.toNat ++ '.' :: ds.drop point.toNat
  else
    let fraction := match ds.tail with
      | [] => []
      | r => '.' :: r
    let power := point - 1
    let sign := if power < 0 then '-' else '+'
    ds.take 1 ++ fraction ++ l.exponentMark :: sign :: Text.padded l.exponentWidth power.natAbs

/-- Writes a floating point number. -/
def Layout.render (l : Layout) : Binary64 → String
  | .nan _ => l.nanText
  | .infinite false => l.infinityText
  | .infinite true => "-" ++ l.infinityText
  | .finite s m e _ =>
    let body := if m = 0 then '0' :: l.wholeSuffix.toList else l.write (shortest m e)
    String.ofList (if s then '-' :: body else body)

/-- Numbers from a ten-thousandth up to `10 ^ 16` are written positionally, with `.0` after a whole
number; an exponent has a sign and at least two digits. -/
def plainLayout : Layout :=
  ⟨-3, 16, ".0", 'e', 2, "nan", "inf"⟩

/-- The layout of numbers in JSON text: the plain one, with names of its own for what has no
digits. -/
def jsonLayout : Layout :=
  { plainLayout with nanText := "NaN", infinityText := "Infinity" }

end LogSearch.Decimal
