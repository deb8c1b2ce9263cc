import LogSearch.Decimal.Binary64
import Mathlib.Algebra.Order.Field.Power
import Mathlib.Data.Rat.Cast.Order
import Mathlib.Tactic.FieldSimp
import Mathlib.Tactic.Linarith
import Mathlib.Tactic.NormNum
import Mathlib.Tactic.Ring

/-!
# How near the nearest number is

The number nearest to a ratio is off by at most half of the last of its 53 bits, and no more than that of
a power of two above the ratio.  So a ratio of at most `2 ^ b` is rounded to a number that is off by at
most `2 ^ (b - 54)`, as long as the numbers there have all their bits.

Main statement: `Binary64.exists_ofRatio`.
-/

namespace LogSearch

open Decimal (roundHalfEven)

/-- A rounded ratio is off by at most a half. -/
theorem Decimal.abs_roundHalfEven_sub_le (num : Nat) {den : Nat} (hd : 0 < den) :
    |(roundHalfEven num den : ℚ) - num / den| ≤ 1 / 2 := by
  have pos : (0 : ℚ) < den := Nat.cast_pos.2 hd
  have below : (2 * num : ℚ) ≤ (2 * roundHalfEven num den + 1) * den := by
    exact_mod_cast le_roundHalfEven num den hd
  have above : (2 * roundHalfEven num den * den : ℚ) ≤ 2 * num + den := by
    exact_mod_cast roundHalfEven_le num den
  have ratio : (num : ℚ) / den * den = num := div_mul_cancel₀ _ pos.ne'
  rw [abs_le]
  constructor <;> nlinarith

namespace Binary64

variable {num den m : Nat} {b e : Int}

theorem ratio_twoPow (e : Int) : ((twoPow e).1 : ℚ) / (twoPow e).2 = 2 ^ e := by
  have power (k : Nat) : ((Nat.pow 2 k : Nat) : ℚ) = 2 ^ k := Nat.cast_pow 2 k
  unfold twoPow
  split
  · rename_i up
    rw [power, Nat.cast_one, div_one, ← zpow_natCast, Int.toNat_of_nonneg up]
  · rename_i down
    rw [power, Nat.cast_one, one_div, ← zpow_natCast, Int.toNat_of_nonneg (by omega), zpow_neg, inv_inv]

/-- The absolute value of a finite number. -/
theorem ratio_magnitude (m : Nat) (e : Int) :
    ((magnitude m e).1 : ℚ) / (magnitude m e).2 = m * 2 ^ e := by
  unfold magnitude
  dsimp only
  rw [Nat.cast_mul, mul_div_assoc, ratio_twoPow]

/-- A ratio in units of a power of two. -/
theorem ratio_div_twoPow (num den : Nat) (e : Int) :
    ((num * (twoPow e).2 : Nat) : ℚ) / (den * (twoPow e).1 : Nat) = num / den / 2 ^ e := by
  rw [← ratio_twoPow]
  push_cast
  field_simp

theorem reaches_iff (hd : den ≠ 0) : Reaches e num den ↔ (2 : ℚ) ^ e ≤ num / den := by
  have pos : (0 : ℚ) < den := Nat.cast_pos.2 (Nat.pos_of_ne_zero hd)
  have powPos : (0 : ℚ) < (twoPow e).2 := Nat.cast_pos.2 (twoPow_pos e).2
  rw [← ratio_twoPow, div_le_div_iff₀ powPos pos, Reaches, mul_comm den]
  exact_mod_cast Iff.rfl

/-- What the mantissa of the nearest number says, in units of the power of two before a carry. -/
theorem nearest_value (num den : Nat) :
    ((nearest num den).1 : ℚ) * 2 ^ (nearest num den).2 =
      let e := max (binade num den - 52) leastExponent
      (roundHalfEven (num * (twoPow e).2) (den * (twoPow e).1) : ℚ) * 2 ^ e := by
  unfold nearest
  dsimp only
  split
  · rename_i carried
    rw [carried, zpow_add₀ two_ne_zero]
    norm_num
    ring
  · rfl

/-- The number nearest to a ratio below a power of two. -/
theorem abs_nearest_sub_le (hn : num ≠ 0) (hd : den ≠ 0) (small : (num : ℚ) / den ≤ 2 ^ b)
    (normal : leastExponent + 53 ≤ b) :
    |((nearest num den).1 : ℚ) * 2 ^ (nearest num den).2 - num / den| ≤ 2 ^ (b - 54) := by
  obtain ⟨reached, unreached⟩ := reaches_binade hn hd
  rw [reaches_iff hd] at reached unreached
  rw [nearest_value]
  generalize binade num den = k at reached unreached ⊢
  dsimp only
  generalize he : max (k - 52) leastExponent = e
  have unit : (0 : ℚ) < 2 ^ e := zpow_pos two_pos e
  have below : 0 < den * (twoPow e).1 := Nat.mul_pos (Nat.pos_of_ne_zero hd) (twoPow_pos e).1
  have near := Decimal.abs_roundHalfEven_sub_le (num * (twoPow e).2) below
  rw [ratio_div_twoPow] at near
  have off : |(roundHalfEven (num * (twoPow e).2) (den * (twoPow e).1) : ℚ) * 2 ^ e - num / den| =
      |(roundHalfEven (num * (twoPow e).2) (den * (twoPow e).1) : ℚ) - num / den / 2 ^ e| * 2 ^ e := by
    rw [← abs_of_pos unit, ← abs_mul, abs_of_pos unit, sub_mul, div_mul_cancel₀ _ unit.ne']
  rw [off]
  have low : k ≤ b := (zpow_le_zpow_iff_right₀ one_lt_two).1 (reached.trans small)
  rcases low.lt_or_eq with less | rfl
  · calc _ ≤ 1 / 2 * (2 : ℚ) ^ e := mul_le_mul_of_nonneg_right near unit.le
      _ = 2 ^ (e - 1) := by
        rw [zpow_sub_one₀ two_ne_zero]
        ring
      _ ≤ 2 ^ (b - 54) := zpow_le_zpow_right₀ one_le_two (by omega)
  · -- The ratio is the power of two, which is a number itself.
    have mantissa : (num : ℚ) / den / 2 ^ e = (2 ^ 52 : ℕ) := by
      rw [le_antisymm small reached, ← zpow_sub₀ two_ne_zero, show k - e = 52 by omega]
      norm_num
    have exact : num * (twoPow e).2 = 2 ^ 52 * (den * (twoPow e).1) := by
      have ratio := (ratio_div_twoPow num den e).trans mantissa
      rw [div_eq_iff (Nat.cast_pos.2 below).ne'] at ratio
      exact_mod_cast ratio
    rw [exact, Decimal.roundHalfEven_mul _ _ below, mantissa, sub_self, abs_zero, zero_mul]
    exact (zpow_pos two_pos _).le

theorem exponent_nearest_le (num den : Nat) :
    (nearest num den).2 ≤ max (binade num den - 52) leastExponent + 1 := by
  unfold nearest
  dsimp only
  split <;> dsimp only <;> omega

/-- A ratio of at most a power of two is rounded to a finite number, which is off by at most half of the
last bit of the numbers below that power. -/
theorem exists_ofRatio (s : Bool) (num : Nat) (hd : den ≠ 0) (small : (num : ℚ) / den ≤ 2 ^ b)
    (normal : leastExponent + 53 ≤ b) (inRange : b ≤ greatestExponent) :
    ∃ m e h, ofRatio s num den = .finite s m e h ∧ |(m : ℚ) * 2 ^ e - num / den| ≤ 2 ^ (b - 54) := by
  by_cases hn : num = 0
  · refine ⟨0, leastExponent, isFinite_zero, ?_, ?_⟩
    · rw [hn, ofRatio_zero]
      rfl
    · rw [hn, Nat.cast_zero, zero_mul, zero_div, sub_self, abs_zero]
      exact (zpow_pos two_pos _).le
  · have reached := (reaches_iff hd).1 (reaches_binade hn hd).1
    have low : binade num den ≤ b := (zpow_le_zpow_iff_right₀ one_lt_two).1 (reached.trans small)
    have exponent := exponent_nearest_le num den
    have inRange : (nearest num den).2 ≤ greatestExponent := by
      unfold leastExponent greatestExponent at *
      omega
    refine ⟨(nearest num den).1, (nearest num den).2, ⟨isLowest_nearest hn hd, inRange⟩, ?_,
      abs_nearest_sub_le hn hd small normal⟩
    unfold ofRatio
    rw [dif_pos ⟨hn, hd⟩]
    dsimp only
    rw [dif_pos inRange]

end Binary64

end LogSearch
