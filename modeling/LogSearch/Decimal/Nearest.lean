import LogSearch.Decimal.Rounding

/-!
# The mantissa and the exponent nearest to a ratio

A finite number is a mantissa of at most 53 bits times a power of two.  It is in lowest exponent form when
the mantissa has all 53 bits, unless the exponent is the least one.  A positive ratio is brought to that
form by one rounding: the exponent is the ratio's binade less 52, or the least one, and the mantissa is
the ratio in units of that power of two, rounded half to even.

Renders the rounding of `float`.

Main statement: `isLowest_nearest`.
-/

namespace LogSearch.Binary64

open Decimal (roundHalfEven)

/-- The exponent of the smallest positive number. -/
def leastExponent : Int := -1074

/-- The exponent of the largest finite numbers. -/
def greatestExponent : Int := 971

/-- A mantissa and an exponent are in lowest exponent form: the mantissa has at most 53 bits, and all of
them unless the exponent is the least one. -/
structure IsLowest (mantissa : Nat) (exponent : Int) : Prop where
  small : mantissa < Nat.pow 2 53
  least : leastExponent ≤ exponent
  full : Nat.pow 2 52 ≤ mantissa ∨ exponent = leastExponent

/-- They are those of a finite number: the exponent is not too large, either. -/
structure IsFinite (mantissa : Nat) (exponent : Int) : Prop extends IsLowest mantissa exponent where
  greatest : exponent ≤ greatestExponent

theorem isFinite_zero : IsFinite 0 leastExponent := ⟨⟨by decide, by decide, by decide⟩, by decide⟩

/-- `2 ^ e` as a ratio. -/
def twoPow (e : Int) : Nat × Nat :=
  if 0 ≤ e then (Nat.pow 2 e.toNat, 1) else (1, Nat.pow 2 (-e).toNat)

/-- The greatest `k` with `2 ^ k ≤ num / den`, for a positive ratio. -/
def binade (num den : Nat) : Int :=
  let k : Int := (num.log2 : Int) - (den.log2 : Int)
  let (p, q) := twoPow k
  if den * p ≤ num * q then k else k - 1

/-- The mantissa and exponent of the representable number nearest to a positive ratio, before the
check that the exponent is not too large. -/
def nearest (num den : Nat) : Nat × Int :=
  let e := max (binade num den - 52) leastExponent
  let (p, q) := twoPow e
  let m := roundHalfEven (num * q) (den * p)
  if m = Nat.pow 2 53 then (Nat.pow 2 52, e + 1) else (m, e)

variable {num den : Nat} {e : Int}

theorem twoPow_pos (e : Int) : 0 < (twoPow e).1 ∧ 0 < (twoPow e).2 := by
  have pos (k : Nat) : 0 < Nat.pow 2 k := Nat.pow_pos (by decide)
  unfold twoPow
  split
  · exact ⟨pos _, Nat.one_pos⟩
  · exact ⟨Nat.one_pos, pos _⟩

/-- A power of two times another, as ratios. -/
theorem twoPow_add (e : Int) (d : Nat) :
    (twoPow (e + d)).1 * (twoPow e).2 = Nat.pow 2 d * ((twoPow e).1 * (twoPow (e + d)).2) := by
  have split (a b : Nat) : Nat.pow 2 (a + b) = Nat.pow 2 a * Nat.pow 2 b := Nat.pow_add 2 a b
  unfold twoPow
  by_cases low : 0 ≤ e
  · have exponent : (e + d).toNat = e.toNat + d := by omega
    rw [if_pos low, if_pos (by omega), exponent, split, Nat.mul_one, Nat.mul_one, Nat.mul_comm]
  · by_cases high : 0 ≤ e + d
    · have exponent : (e + d).toNat + (-e).toNat = d := by omega
      rw [if_neg low, if_pos high, ← split, exponent, Nat.mul_one, Nat.mul_one]
    · have exponent : (-e).toNat = d + (-(e + d)).toNat := by omega
      rw [if_neg low, if_neg high, exponent, split, Nat.one_mul, Nat.one_mul]

/-- A power of two is at most a ratio. -/
def Reaches (e : Int) (num den : Nat) : Prop := den * (twoPow e).1 ≤ num * (twoPow e).2

theorem reaches_add (e : Int) (d : Nat) :
    Reaches (e + d) num den ↔ Nat.pow 2 d * (den * (twoPow e).1) ≤ num * (twoPow e).2 := by
  have lower := (twoPow_pos e).2
  have upper := (twoPow_pos (e + d)).2
  have left : den * (twoPow (e + d)).1 * (twoPow e).2 =
      Nat.pow 2 d * (den * (twoPow e).1) * (twoPow (e + d)).2 := by
    rw [Nat.mul_assoc, twoPow_add]
    ac_rfl
  have right : num * (twoPow (e + d)).2 * (twoPow e).2 =
      num * (twoPow e).2 * (twoPow (e + d)).2 := Nat.mul_right_comm _ _ _
  unfold Reaches
  rw [← Nat.mul_le_mul_right_iff lower, left, right, Nat.mul_le_mul_right_iff upper]

theorem Reaches.of_add {d : Nat} (h : Reaches (e + d) num den) : Reaches e num den := by
  rw [reaches_add] at h
  exact Nat.le_trans (Nat.le_mul_of_pos_left _ (Nat.pow_pos (by decide))) h

/-- A power of two with a power of two below it: `2 ^ a / 2 ^ b`. -/
theorem reaches_sub (a b : Nat) :
    Reaches ((a : Int) - b) num den ↔ Nat.pow 2 a * den ≤ num * Nat.pow 2 b := by
  have base : twoPow (-(b : Int)) = (1, Nat.pow 2 b) := by
    unfold twoPow
    split
    · obtain rfl : b = 0 := by omega
      rfl
    · rw [Int.neg_neg, Int.toNat_natCast]
  have sum : (a : Int) - b = -(b : Int) + a := by omega
  rw [sum, reaches_add, base, Nat.mul_one]

/-- The binade of a ratio is the greatest exponent that the ratio reaches. -/
theorem reaches_binade (hn : num ≠ 0) (hd : den ≠ 0) :
    Reaches (binade num den) num den ∧ ¬ Reaches (binade num den + 1) num den := by
  have numLow : Nat.pow 2 num.log2 ≤ num := Nat.log2_self_le hn
  have numHigh : num < Nat.pow 2 (num.log2 + 1) := Nat.lt_log2_self
  have denLow : Nat.pow 2 den.log2 ≤ den := Nat.log2_self_le hd
  have denHigh : den < Nat.pow 2 (den.log2 + 1) := Nat.lt_log2_self
  have above : ¬ Reaches ((num.log2 : Int) - den.log2 + 1) num den := by
    have sum : (num.log2 : Int) - den.log2 + 1 = ((num.log2 + 1 : Nat) : Int) - den.log2 := by omega
    rw [sum, reaches_sub, Nat.not_le]
    calc num * Nat.pow 2 den.log2 < Nat.pow 2 (num.log2 + 1) * Nat.pow 2 den.log2 :=
          Nat.mul_lt_mul_of_pos_right numHigh (Nat.pow_pos (by decide))
      _ ≤ Nat.pow 2 (num.log2 + 1) * den := Nat.mul_le_mul_left _ denLow
  have below : Reaches ((num.log2 : Int) - den.log2 - 1) num den := by
    have difference : (num.log2 : Int) - den.log2 - 1 = num.log2 - ((den.log2 + 1 : Nat) : Int) := by
      omega
    rw [difference, reaches_sub]
    exact Nat.mul_le_mul numLow (Nat.le_of_lt denHigh)
  unfold binade
  dsimp only
  by_cases reached : Reaches ((num.log2 : Int) - den.log2) num den
  · have test := reached
    unfold Reaches at test
    rw [if_pos test]
    exact ⟨reached, above⟩
  · have test := reached
    unfold Reaches at test
    rw [if_neg test, Int.sub_add_cancel]
    exact ⟨below, reached⟩

theorem roundHalfEven_le_of_le {k : Nat} (h : num ≤ k * den) (hd : 0 < den) :
    roundHalfEven num den ≤ k := by
  have upper := Decimal.roundHalfEven_le num den
  refine Nat.le_of_not_lt fun large => ?_
  have step : 2 * (k + 1) * den ≤ 2 * roundHalfEven num den * den :=
    Nat.mul_le_mul_right den (Nat.mul_le_mul_left 2 large)
  rw [Nat.mul_assoc, Nat.add_mul, Nat.one_mul] at step
  omega

theorem le_roundHalfEven_of_le {k : Nat} (h : k * den ≤ num) (hd : 0 < den) :
    k ≤ roundHalfEven num den := by
  have lower := Decimal.le_roundHalfEven num den hd
  refine Nat.le_of_not_lt fun small => ?_
  have step : (2 * roundHalfEven num den + 1 + 1) * den ≤ 2 * k * den :=
    Nat.mul_le_mul_right den (by omega)
  rw [Nat.add_mul _ 1, Nat.one_mul, Nat.mul_assoc 2 k] at step
  omega

/-- The number nearest to a positive ratio is in lowest exponent form. -/
theorem isLowest_nearest (hn : num ≠ 0) (hd : den ≠ 0) :
    IsLowest (nearest num den).1 (nearest num den).2 := by
  obtain ⟨reached, unreached⟩ := reaches_binade hn hd
  unfold nearest
  generalize binade num den = k at reached unreached ⊢
  dsimp only
  generalize he : max (k - 52) leastExponent = e
  have pos : 0 < den * (twoPow e).1 := Nat.mul_pos (Nat.pos_of_ne_zero hd) (twoPow_pos e).1
  have upper : roundHalfEven (num * (twoPow e).2) (den * (twoPow e).1) ≤ Nat.pow 2 53 := by
    refine roundHalfEven_le_of_le (Nat.le_of_not_lt fun beyond => unreached ?_) pos
    have high : Reaches (e + (53 : Nat)) num den := (reaches_add e 53).2 (Nat.le_of_lt beyond)
    have exponent : e + (53 : Nat) = k + 1 + (e + 52 - k).toNat := by omega
    rw [exponent] at high
    exact high.of_add
  have lower : e = k - 52 → Nat.pow 2 52 ≤ roundHalfEven (num * (twoPow e).2) (den * (twoPow e).1) := by
    intro low
    refine le_roundHalfEven_of_le ?_ pos
    rw [← reaches_add]
    have exponent : e + (52 : Nat) = k := by omega
    rwa [exponent]
  split
  · -- All 53 bits and one more: the mantissa is carried over to the next exponent.
    exact ⟨(by decide : Nat.pow 2 52 < Nat.pow 2 53), by dsimp only; omega, .inl (Nat.le_refl _)⟩
  · rename_i notCarried
    refine ⟨by omega, by omega, ?_⟩
    by_cases low : e = k - 52
    · exact .inl (lower low)
    · exact .inr (by omega)

end LogSearch.Binary64
