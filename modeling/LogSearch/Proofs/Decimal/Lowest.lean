import LogSearch.Decimal.Binary64
import Mathlib.Tactic.Ring

/-!
# Numbers in lowest exponent form

A number may be written with several mantissas and exponents, but with only one in lowest exponent form.
So two finite numbers have the same value only if they are the same, up to the sign of zero.

Main statement: `Binary64.same_of_ratio`.
-/

namespace LogSearch.Binary64

variable {s t : Bool} {m n : Nat} {e f : Int}

/-- Of two numbers with the same value the one with the lower exponent has the greater mantissa. -/
theorem mantissa_eq {d : Nat}
    (same : (magnitude m e).1 * (magnitude n (e + d)).2 = (magnitude n (e + d)).1 * (magnitude m e).2) :
    m = n * Nat.pow 2 d := by
  have power := twoPow_add e d
  have pos : 0 < (twoPow e).1 * (twoPow (e + d)).2 :=
    Nat.mul_pos (twoPow_pos e).1 (twoPow_pos (e + d)).2
  refine Nat.eq_of_mul_eq_mul_right pos ?_
  calc m * ((twoPow e).1 * (twoPow (e + d)).2) = m * (twoPow e).1 * (twoPow (e + d)).2 :=
        (Nat.mul_assoc _ _ _).symm
    _ = n * (twoPow (e + d)).1 * (twoPow e).2 := same
    _ = n * (Nat.pow 2 d * ((twoPow e).1 * (twoPow (e + d)).2)) := by rw [Nat.mul_assoc, power]
    _ = n * Nat.pow 2 d * ((twoPow e).1 * (twoPow (e + d)).2) := (Nat.mul_assoc _ _ _).symm

/-- In lowest exponent form a number has one mantissa and one exponent. -/
theorem eq_of_magnitude (hm : IsLowest m e) (hn : IsLowest n f)
    (same : (magnitude m e).1 * (magnitude n f).2 = (magnitude n f).1 * (magnitude m e).2) :
    m = n ∧ e = f := by
  -- It is enough that the first exponent is not the greater one.
  wlog le : e ≤ f generalizing m n e f
  · obtain ⟨mantissa, exponent⟩ := this hn hm same.symm (by omega)
    exact ⟨mantissa.symm, exponent.symm⟩
  obtain ⟨d, rfl⟩ : ∃ d : Nat, f = e + d := ⟨(f - e).toNat, by omega⟩
  have mantissa := mantissa_eq same
  cases d with
  | zero => exact ⟨by simpa using mantissa, by simp⟩
  | succ d =>
    -- The greater exponent is not the least, so its mantissa has all bits, and the other one more.
    have least := hm.least
    have small := hm.small
    have large : Nat.pow 2 52 ≤ n := hn.full.resolve_right (by omega)
    have power : Nat.pow 2 (d + 1) = Nat.pow 2 d * 2 := rfl
    have pos : 1 ≤ Nat.pow 2 d := Nat.pow_pos (by decide)
    have more : n * 2 ≤ n * Nat.pow 2 (d + 1) := Nat.mul_le_mul_left n (by omega)
    have bits : Nat.pow 2 53 = Nat.pow 2 52 * 2 := rfl
    omega

theorem natAbs_signedRatio (s : Bool) (m : Nat) (e : Int) :
    (signedRatio s m e).1.natAbs = (magnitude m e).1 := by
  cases s
  · exact Int.natAbs_natCast _
  · exact (Int.natAbs_neg _).trans (Int.natAbs_natCast _)

theorem snd_signedRatio_pos (s : Bool) (m : Nat) (e : Int) : 0 < (signedRatio s m e).2 :=
  (twoPow_pos e).2

/-- Numbers that are the same have the same value. -/
theorem ratio_of_same (hm : IsFinite m e) (hn : IsFinite n f)
    (h : (finite s m e hm).same (finite t n f hn) = true) :
    (signedRatio s m e).1 * (signedRatio t n f).2 = (signedRatio t n f).1 * (signedRatio s m e).2 := by
  simp only [same, Bool.and_eq_true, Bool.or_eq_true, beq_iff_eq] at h
  obtain ⟨⟨signs, rfl⟩, exponents⟩ := h
  by_cases zero : m = 0
  · subst zero
    cases s <;> cases t <;> simp [signedRatio, magnitude]
  · obtain rfl := signs.resolve_right fun zeros => zero zeros.1
    obtain rfl := exponents.resolve_right zero
    rfl

/-- Two finite numbers with the same value are the same. -/
theorem same_of_ratio (hm : IsFinite m e) (hn : IsFinite n f)
    (ratio : (signedRatio s m e).1 * (signedRatio t n f).2 =
      (signedRatio t n f).1 * (signedRatio s m e).2) :
    (finite s m e hm).same (finite t n f hn) = true := by
  have magnitudes : (magnitude m e).1 * (magnitude n f).2 = (magnitude n f).1 * (magnitude m e).2 := by
    have absolute := congrArg Int.natAbs ratio
    rw [Int.natAbs_mul, Int.natAbs_mul, natAbs_signedRatio, natAbs_signedRatio] at absolute
    exact absolute
  obtain ⟨rfl, rfl⟩ := eq_of_magnitude hm.toIsLowest hn.toIsLowest magnitudes
  have signs : s = t ∨ m = 0 := by
    have pos := snd_signedRatio_pos s m e
    have powPos := (twoPow_pos e).1
    have values : (signedRatio s m e).1 = (signedRatio t m e).1 :=
      Int.eq_of_mul_eq_mul_right (by exact_mod_cast pos.ne') ratio
    simp only [signedRatio, magnitude] at values
    rcases Nat.eq_zero_or_pos m with zero | positive
    · exact .inr zero
    · have product : 0 < m * (twoPow e).1 := Nat.mul_pos positive powPos
      left
      cases s <;> cases t <;> simp at values ⊢ <;> omega
  simp only [same, BEq.rfl, Bool.true_or, Bool.and_true, Bool.or_eq_true, Bool.and_self,
    beq_iff_eq]
  exact signs

end LogSearch.Binary64
