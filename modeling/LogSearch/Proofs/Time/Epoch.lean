import LogSearch.Text.Integer
import LogSearch.Time.Epoch

/-!
# Numbers that are times

A number that is read as a time is read in UTC.  Numbers that are far too large are no times: their
thousandth is more than the greatest floating point number.
-/

namespace LogSearch

theorem pos_of_pow_le {n k : Nat} (h : Nat.pow 10 k ≤ n) : 0 < n :=
  Nat.lt_of_lt_of_le (Nat.pow_pos (by decide)) h

/-- A number of `k` decimal digits has more than three times as many binary ones. -/
theorem three_mul_le_log2 {n k : Nat} (h : Nat.pow 10 k ≤ n) : 3 * k ≤ n.log2 := by
  have power : Nat.pow 2 (3 * k) ≤ Nat.pow 10 k := by
    calc Nat.pow 2 (3 * k) = Nat.pow (Nat.pow 2 3) k := Nat.pow_mul 2 3 k
      _ ≤ Nat.pow 10 k := Nat.pow_le_pow_left (by decide) k
  exact (Nat.le_log2 (Nat.ne_of_gt (pos_of_pow_le h))).2 (Nat.le_trans power h)

/-- The binade of a ratio is at least the difference of the binades of its parts, less one. -/
theorem Binary64.le_binade (num den : Nat) :
    (num.log2 : Int) - den.log2 - 1 ≤ binade num den := by
  unfold binade
  dsimp only
  split <;> omega

/-- A ratio with too large a binade is infinite. -/
theorem Binary64.ofRatio_eq_infinite {negative : Bool} {num den : Nat} (hn : num ≠ 0) (hd : den ≠ 0)
    (h : greatestExponent + 53 ≤ binade num den) : ofRatio negative num den = infinite negative := by
  have large : greatestExponent < (nearest num den).2 := by
    unfold nearest
    dsimp only
    split <;> dsimp only <;> omega
  unfold ofRatio
  rw [dif_pos ⟨hn, hd⟩]
  dsimp only
  rw [dif_neg (by omega)]

namespace Epoch

/-- An integer with more digits than are written has no floating point number for its thousandth. -/
theorem ofMillis_of_unwritable {n : Int} (h : Nat.pow 10 Text.digitLimit ≤ n.natAbs) :
    ofMillis n = .error .quotientTooLarge := by
  have bits := three_mul_le_log2 h
  have pos := pos_of_pow_le h
  have wide := Binary64.le_binade n.natAbs 1000
  have small : Nat.log2 1000 = 9 := by decide
  rw [small] at wide
  unfold Text.digitLimit at bits
  have infinite : Binary64.ofRatio (n < 0) n.natAbs 1000 = .infinite (n < 0) := by
    apply Binary64.ofRatio_eq_infinite
    · exact Nat.ne_of_gt pos
    · decide
    · unfold Binary64.greatestExponent
      omega
  unfold ofMillis
  rw [infinite]

/-- A number of seconds is read as a time in UTC. -/
theorem offset_ofSeconds {x : Binary64} {t : DateTime} (h : ofSeconds x = .ok t) :
    t.offset = some .utc := by
  unfold ofSeconds at h
  split at h
  · cases h
  · cases h
  · dsimp only at h
    split at h
    · cases h
    · split at h
      · cases h
      · split at h
        · rename_i u hu
          obtain rfl := Except.ok.inj h
          exact DateTime.offset_ofInstant? hu
        · cases h

theorem offset_ofMillis {n : Int} {t : DateTime} (h : ofMillis n = .ok t) :
    t.offset = some .utc := by
  unfold ofMillis at h
  split at h
  · cases h
  · exact offset_ofSeconds h

theorem offset_ofMillisFloat {x : Binary64} {t : DateTime} (h : ofMillisFloat x = .ok t) :
    t.offset = some .utc := offset_ofSeconds h

end Epoch

end LogSearch
