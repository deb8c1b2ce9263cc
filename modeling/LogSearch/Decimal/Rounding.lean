/-!
# Rounding a ratio to an integer

A ratio of two naturals is rounded to the nearest integer, and a tie goes to the even one.

Renders `round` of a ratio.

Main statements: the result is within half a unit of the ratio, and an exact ratio is kept.
-/

namespace LogSearch.Decimal

/-- The integer nearest to `num / den`; of two equally near ones the even one. -/
def roundHalfEven (num den : Nat) : Nat :=
  let q := num / den
  let r := num % den
  if 2 * r < den then q
  else if den < 2 * r then q + 1
  else if q % 2 = 0 then q
  else q + 1

/-- The rounded value is at most half a unit below the ratio. -/
theorem le_roundHalfEven (num den : Nat) (hd : 0 < den) :
    2 * num ≤ (2 * roundHalfEven num den + 1) * den := by
  have h := Nat.div_add_mod num den
  unfold roundHalfEven
  dsimp only
  split
  · rename_i hr
    calc 2 * num = 2 * (den * (num / den)) + 2 * (num % den) := by omega
      _ ≤ 2 * (den * (num / den)) + den := by omega
      _ = (2 * (num / den) + 1) * den := by
        rw [Nat.add_mul, Nat.one_mul, Nat.mul_assoc, Nat.mul_comm (num / den)]
  · have key : 2 * num ≤ (2 * (num / den + 1) + 1) * den ∧
        (2 * (num % den) = den → 2 * num ≤ (2 * (num / den) + 1) * den) := by
      have hm := Nat.mod_lt num hd
      constructor
      · calc 2 * num = 2 * (den * (num / den)) + 2 * (num % den) := by omega
          _ ≤ 2 * (den * (num / den)) + 3 * den := by omega
          _ = (2 * (num / den + 1) + 1) * den := by
            rw [Nat.add_mul, Nat.mul_add, Nat.add_mul, Nat.mul_assoc, Nat.mul_comm (num / den)]
            omega
      · intro he
        have same : 2 * (den * (num / den)) + den = (2 * (num / den) + 1) * den := by
          rw [Nat.add_mul, Nat.one_mul, Nat.mul_assoc, Nat.mul_comm (num / den)]
        omega
    split
    · exact key.1
    · split
      · exact key.2 (by omega)
      · exact key.1

/-- The rounded value is at most half a unit above the ratio. -/
theorem roundHalfEven_le (num den : Nat) : 2 * roundHalfEven num den * den ≤ 2 * num + den := by
  have h := Nat.div_add_mod num den
  have hq : 2 * (num / den) * den = 2 * (den * (num / den)) := by
    rw [Nat.mul_assoc, Nat.mul_comm (num / den)]
  have hs : 2 * (num / den + 1) * den = 2 * (den * (num / den)) + 2 * den := by
    rw [Nat.mul_add, Nat.add_mul, hq]
  unfold roundHalfEven
  dsimp only
  split
  · omega
  · split
    · omega
    · split <;> omega

/-- A ratio that is an integer is kept. -/
theorem roundHalfEven_mul (n den : Nat) (hd : 0 < den) : roundHalfEven (n * den) den = n := by
  simp [roundHalfEven, Nat.mul_div_cancel n hd, hd]

end LogSearch.Decimal
