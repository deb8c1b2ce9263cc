/-!
# Halves of pairs

The codes from `U+D800` to `U+DFFF` are halves: two of them together are written for one character.
A half that stands alone is no character, but text from outside may hold one.  It is kept as one of
the last 2048 code points, which stand for nothing else here.

Renders the surrogates of a text.

Main statement: every code up to the last half is told from the character that it is kept as, and
every text from its codes.
-/

namespace LogSearch.Text

/-- How far the last 2048 code points are from the halves of pairs. -/
def unpairedShift : Nat := 0x102000

/-- Whether a code is that of a half. -/
def isHalf (n : Nat) : Bool := 0xd800 ≤ n && n ≤ 0xdfff

/-- The character that a code is kept as. -/
def charOfCode (n : Nat) : Char := Char.ofNat (if isHalf n then n + unpairedShift else n)

/-- Whether a character is a half that stands alone. -/
def isUnpaired (c : Char) : Bool := 0x10f800 ≤ c.toNat

/-- The code that a character is kept for. -/
def codeOf (c : Char) : Nat := if isUnpaired c then c.toNat - unpairedShift else c.toNat

/-- The codes of a text. -/
def codes (s : String) : List Nat := s.toList.map codeOf

/-- A text stands before another where their first codes do that differ. -/
def Before (s t : String) : Prop := codes s < codes t

instance (s t : String) : Decidable (Before s t) := inferInstanceAs (Decidable (codes s < codes t))

theorem toNat_ofNat {n : Nat} (h : n.isValidChar) : (Char.ofNat n).toNat = n := by
  rw [Char.ofNat, dif_pos h]
  rfl

/-- Every code up to the last half is told from the character that it is kept as. -/
theorem codeOf_charOfCode {n : Nat} (h : n ≤ 0xdfff) : codeOf (charOfCode n) = n := by
  unfold charOfCode codeOf isUnpaired
  by_cases hn : isHalf n = true
  · have hb : 0xd800 ≤ n := by
      simp only [isHalf, Bool.and_eq_true, decide_eq_true_eq] at hn; exact hn.1
    rw [if_pos hn, toNat_ofNat (by unfold Nat.isValidChar unpairedShift; omega)]
    rw [if_pos (decide_eq_true (by unfold unpairedShift; omega))]
    unfold unpairedShift
    omega
  · have hb : n < 0xd800 := by
      simp only [isHalf, Bool.and_eq_true, decide_eq_true_eq] at hn; omega
    rw [if_neg hn, toNat_ofNat (by unfold Nat.isValidChar; omega)]
    rw [if_neg (by simp only [decide_eq_true_eq]; omega)]

/-- A character is told from the code that it is kept for. -/
theorem eq_of_codeOf {c d : Char} (h : codeOf c = codeOf d) : c = d := by
  have valid (c : Char) : c.toNat < 0xd800 ∨ 0xdfff < c.toNat ∧ c.toNat < 0x110000 := c.valid
  have first := valid c
  have second := valid d
  have same : c.toNat = d.toNat := by
    unfold codeOf isUnpaired unpairedShift at h
    simp only [decide_eq_true_eq] at h
    split at h <;> split at h <;> omega
  exact Char.ext (UInt32.toNat_inj.1 same)

/-- A text is told from its codes. -/
theorem eq_of_codes {s t : String} (h : codes s = codes t) : s = t :=
  String.ext (List.map_inj_right (fun _ _ => eq_of_codeOf) |>.1 h)

theorem Before.trans {s t u : String} (h : Before s t) (h' : Before t u) : Before s u :=
  List.lt_trans h h'

theorem Before.asymm {s t : String} (h : Before s t) : ¬ Before t s := List.lt_asymm h

theorem Before.ne {s t : String} (h : Before s t) : s ≠ t := by
  rintro rfl
  exact h.asymm h

theorem before_of_not_before {s t : String} (different : s ≠ t) (h : ¬ Before s t) : Before t s := by
  refine Decidable.byContradiction fun h' => different (eq_of_codes ?_)
  exact List.le_antisymm (List.not_lt.1 h') (List.not_lt.1 h)

end LogSearch.Text
