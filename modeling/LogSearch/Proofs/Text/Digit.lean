import LogSearch.Text.Blank
import LogSearch.Text.Digit

/-!
# Numbers of a fixed width

A number below a power of ten, padded to that width, is written in as many decimal digits, and these
are the digits of the number.  Digits that are cut off at its end divide it by a power of ten.

Main statements: `exists_digits_padded` and `exists_padded_cut`.
-/

namespace LogSearch.Text

theorem asciiDigit?_digitChar {d : Nat} (h : d < 10) : asciiDigit? (digitChar d) = some d := by
  decide +revert

theorem isAsciiDigit_digitChar {d : Nat} (h : d < 10) : isAsciiDigit (digitChar d) = true := by
  decide +revert

theorem digitValue?_digitChar {d : Nat} (h : d < 10) : digitValue? (digitChar d) = some d := by
  decide +revert

theorem toNat_digitChar {d : Nat} (h : d < 10) : (digitChar d).toNat - 48 = d := by
  decide +revert

theorem isBlank_digitChar {d : Nat} (h : d < 10) : isBlank (digitChar d) = false := by
  decide +revert

theorem isBlank_of_isAsciiDigit {c : Char} (h : isAsciiDigit c = true) : isBlank c = false := by
  simp only [isAsciiDigit, Bool.and_eq_true, decide_eq_true_eq] at h
  simp only [isBlank, isSpace, Bool.or_eq_false_iff, Bool.and_eq_false_iff, decide_eq_false_iff_not,
    beq_eq_false_iff_ne]
  omega

/-- Digits are written to the front of whatever stands there. -/
theorem digitsOnto_append (n : Nat) (front rest : List Char) :
    digitsOnto n (front ++ rest) = digitsOnto n front ++ rest := by
  induction n, front using digitsOnto.induct with
  | case1 n front small =>
    rw [digitsOnto, if_pos small, digitsOnto, if_pos small]
    rfl
  | case2 n front large ih =>
    rw [digitsOnto.eq_1 n (front ++ rest), digitsOnto.eq_1 n front, if_neg large, if_neg large]
    exact ih

theorem decimal_of_lt {n : Nat} (h : n < 10) : decimal n = [digitChar n] := by
  rw [decimal, digitsOnto, if_pos h]

theorem decimal_of_le {n : Nat} (h : 10 ≤ n) :
    decimal n = decimal (n / 10) ++ [digitChar (n % 10)] := by
  rw [decimal, digitsOnto, if_neg (Nat.not_lt.2 h)]
  exact digitsOnto_append (n / 10) [] [digitChar (n % 10)]

/-- Of a padded number the last digit is that of the number, and the others are its tenth, padded. -/
theorem padded_succ {width : Nat} (h : 0 < width) (n : Nat) :
    padded (width + 1) n = padded width (n / 10) ++ [digitChar (n % 10)] := by
  unfold padded
  rcases Nat.lt_or_ge n 10 with small | large
  · -- The tenth is zero, whose one digit stands for one of the zeros in front.
    obtain ⟨width, rfl⟩ := Nat.exists_eq_add_of_lt h
    rw [Nat.div_eq_of_lt small, Nat.mod_eq_of_lt small, decimal_of_lt small,
      decimal_of_lt (by decide : 0 < 10)]
    simp [List.replicate_succ', digitChar]
  · have length : (decimal n).length = (decimal (n / 10)).length + 1 := by
      rw [decimal_of_le large, List.length_append, List.length_singleton]
    dsimp only
    rw [length, Nat.add_sub_add_right, decimal_of_le large, List.append_assoc]

/-- A number below a power of ten is written in that many digits, and they are its digits. -/
theorem exists_digits_padded {width n : Nat} (pos : 0 < width) (h : n < Nat.pow 10 width) :
    ∃ ds : List Nat, padded width n = ds.map digitChar ∧ ds.length = width ∧ (∀ d ∈ ds, d < 10) ∧
      ofDigits ds = n := by
  induction width generalizing n with
  | zero => cases pos
  | succ width ih =>
    cases width with
    | zero =>
      have small : n < 10 := h
      refine ⟨[n], ?_, rfl, by simpa using small, by simp [ofDigits]⟩
      simp [padded, decimal_of_lt small]
    | succ width =>
      have tenth : n / 10 < Nat.pow 10 (width + 1) := by
        rw [Nat.div_lt_iff_lt_mul (by decide)]
        exact h
      obtain ⟨ds, shown, length, digits, value⟩ := ih (Nat.succ_pos width) tenth
      refine ⟨ds ++ [n % 10], ?_, ?_, ?_, ?_⟩
      · rw [padded_succ (Nat.succ_pos width), shown, List.map_append, List.map_singleton]
      · rw [List.length_append, length, List.length_singleton]
      · intro d hd
        rcases List.mem_append.1 hd with hd | hd
        · exact digits d hd
        · obtain rfl := List.mem_singleton.1 hd
          exact Nat.mod_lt n (by decide)
      · rw [ofDigits_append, value]
        omega

/-- A padded number is as wide as it is to be. -/
theorem length_padded {width n : Nat} (pos : 0 < width) (h : n < Nat.pow 10 width) :
    (padded width n).length = width := by
  obtain ⟨ds, shown, length, -, -⟩ := exists_digits_padded pos h
  rw [shown, List.length_map, length]

/-- A padded number consists of digits. -/
theorem isAsciiDigit_of_mem_padded {width n : Nat} (pos : 0 < width) (h : n < Nat.pow 10 width)
    {c : Char} (member : c ∈ padded width n) : isAsciiDigit c = true := by
  obtain ⟨ds, shown, -, digits, -⟩ := exists_digits_padded pos h
  rw [shown] at member
  obtain ⟨d, hd, rfl⟩ := List.mem_map.1 member
  exact isAsciiDigit_digitChar (digits d hd)

/-- A number that is not below a power of ten takes more digits than that. -/
theorem lt_length_decimal {width n : Nat} (h : Nat.pow 10 width ≤ n) : width < (decimal n).length := by
  induction width generalizing n with
  | zero =>
    by_cases small : n < 10
    · simp [decimal_of_lt small]
    · simp [decimal_of_le (Nat.not_lt.1 small)]
  | succ width ih =>
    have power : Nat.pow 10 (width + 1) = Nat.pow 10 width * 10 := rfl
    have pos : 0 < Nat.pow 10 width := Nat.pow_pos (by decide)
    have large : 10 ≤ n := by omega
    have tenth : Nat.pow 10 width ≤ n / 10 := by omega
    have length := ih tenth
    rw [decimal_of_le large, List.length_append, List.length_singleton]
    omega

/-- A number that fills its width is not padded. -/
theorem padded_of_le {width n : Nat} (h : Nat.pow 10 width ≤ n) : padded (width + 1) n = decimal n := by
  have length := lt_length_decimal h
  have none : width + 1 - (decimal n).length = 0 := by omega
  simp [padded, none]

/-- Without its last digits a padded number is the number divided by a power of ten. -/
theorem exists_padded_cut {width : Nat} (pos : 0 < width) (places n : Nat) :
    ∃ tail, tail.length = places ∧
      padded (width + places) n = padded width (n / Nat.pow 10 places) ++ tail := by
  induction places generalizing n with
  | zero => exact ⟨[], rfl, by simp⟩
  | succ places ih =>
    obtain ⟨tail, length, shown⟩ := ih (n / 10)
    refine ⟨tail ++ [digitChar (n % 10)], by simp [length], ?_⟩
    have power : n / 10 / Nat.pow 10 places = n / Nat.pow 10 (places + 1) := by
      rw [Nat.div_div_eq_div_mul, Nat.mul_comm]
      rfl
    rw [← Nat.add_assoc, padded_succ (by omega), shown, power, List.append_assoc]

end LogSearch.Text
