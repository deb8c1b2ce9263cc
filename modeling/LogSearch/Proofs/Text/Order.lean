import LogSearch.Proofs.Text.Digit
import Mathlib.Data.String.Basic
import Mathlib.Order.Compare

/-!
# The order of texts and that of the numbers in them

Texts are compared character by character.  Numbers that are padded to one width compare as texts in
the way they compare as numbers, and what follows them decides between equal ones.  A number with fewer
digits in front of a hyphen is compared with as many digits of the longer one, and comes before it
where these are equal.

Main statements: `compare_padded` and `compare_decimal_shorter`.
-/

namespace LogSearch.Text

theorem compare_cons (c d : Char) (cs ds : List Char) :
    compare (c :: cs) (d :: ds) = (compare c d).then (compare cs ds) := by
  simp [List.compare_eq_compareLex]

theorem compare_eq_lt_iff (cs ds : List Char) : compare cs ds = .lt ↔ cs < ds := by
  induction cs generalizing ds with
  | nil => cases ds <;> simp
  | cons c cs ih =>
    cases ds with
    | nil => simp
    | cons d ds =>
      rw [compare_cons, Ordering.then_eq_lt, ih, List.cons_lt_cons_iff, compare_lt_iff_lt,
        compare_eq_iff_eq]

/-- Strings are compared as their characters are. -/
theorem compare_ofList (cs ds : List Char) :
    compare (String.ofList cs) (String.ofList ds) = compare cs ds := by
  cases order : compare cs ds with
  | lt =>
    rw [compare_lt_iff_lt, String.lt_iff, String.toList_ofList, String.toList_ofList]
    exact (compare_eq_lt_iff cs ds).1 order
  | eq =>
    obtain rfl := Std.LawfulEqOrd.eq_of_compare order
    exact compare_eq_iff_eq.2 rfl
  | gt =>
    rw [compare_gt_iff_gt, String.lt_iff, String.toList_ofList, String.toList_ofList]
    exact (compare_eq_lt_iff ds cs).1 (Std.OrientedCmp.gt_iff_lt.1 order)

theorem compare_digitChar {d e : Nat} (hd : d < 10) (he : e < 10) :
    compare (digitChar d) (digitChar e) = compare d e := by
  have all : ∀ d < 10, ∀ e < 10, compare (digitChar d) (digitChar e) = compare d e := by decide
  exact all d hd e he

/-- Two numbers compare as their quotients by some base, and where these are equal as their
remainders. -/
theorem compare_mul_add {base q r q' r' : Nat} (hr : r < base) (hr' : r' < base) :
    compare (q * base + r) (q' * base + r') = (compare q q').then (compare r r') := by
  rcases Nat.lt_trichotomy q q' with less | rfl | more
  · have next : (q + 1) * base ≤ q' * base := Nat.mul_le_mul_right base less
    rw [Nat.add_mul] at next
    rw [compare_lt_iff_lt.2 less, Ordering.lt_then, compare_lt_iff_lt]
    omega
  · simp [Nat.compare_eq_ite_lt]
  · have next : (q' + 1) * base ≤ q * base := Nat.mul_le_mul_right base more
    rw [Nat.add_mul] at next
    rw [compare_gt_iff_gt.2 more, Ordering.gt_then, compare_gt_iff_gt]
    omega

/-- Padded numbers of one width compare as the numbers do, and after equal ones what follows decides. -/
theorem compare_padded {width a b : Nat} (pos : 0 < width) (ha : a < Nat.pow 10 width)
    (hb : b < Nat.pow 10 width) (cs ds : List Char) :
    compare (padded width a ++ cs) (padded width b ++ ds) = (compare a b).then (compare cs ds) := by
  induction width, pos using Nat.le_induction generalizing a b cs ds with
  | base =>
    have one {n : Nat} (small : n < 10) : padded 1 n = [digitChar n] := by
      simp [padded, decimal_of_lt small]
    rw [one ha, one hb, List.singleton_append, List.singleton_append, compare_cons,
      compare_digitChar ha hb]
  | succ width pos ih =>
    have tenth {n : Nat} (small : n < Nat.pow 10 (width + 1)) : n / 10 < Nat.pow 10 width := by
      rw [Nat.div_lt_iff_lt_mul (by decide)]
      exact small
    have last (n : Nat) : n % 10 < 10 := Nat.mod_lt n (by decide)
    have numbers : compare a b = (compare (a / 10) (b / 10)).then (compare (a % 10) (b % 10)) := by
      rw [← compare_mul_add (last a) (last b), Nat.div_add_mod', Nat.div_add_mod']
    rw [padded_succ pos, padded_succ pos, List.append_assoc, List.append_assoc, ih (tenth ha) (tenth hb),
      List.singleton_append, List.singleton_append, compare_cons, compare_digitChar (last a) (last b),
      numbers, Ordering.then_assoc]

/-- A number is below the power of ten of as many digits as it has. -/
theorem lt_pow_length_decimal (n : Nat) : n < Nat.pow 10 (decimal n).length := by
  induction n using Nat.strongRecOn with
  | ind n ih =>
    by_cases small : n < 10
    · rw [decimal_of_lt small]
      exact small
    · have large : 10 ≤ n := Nat.not_lt.1 small
      have tenth := ih (n / 10) (Nat.div_lt_self (by omega) (by decide))
      rw [decimal_of_le large, List.length_append, List.length_singleton]
      rwa [Nat.div_lt_iff_lt_mul (by decide)] at tenth

theorem length_decimal_pos (n : Nat) : 0 < (decimal n).length := by
  by_cases small : n < 10
  · simp [decimal_of_lt small]
  · simp [decimal_of_le (Nat.not_lt.1 small)]

theorem length_decimal_le {width n : Nat} (pos : 0 < width) (h : n < Nat.pow 10 width) :
    (decimal n).length ≤ width := by
  have length := length_padded pos h
  unfold padded at length
  rw [List.length_append, List.length_replicate] at length
  omega

/-- A larger number has no fewer digits. -/
theorem length_decimal_mono {a b : Nat} (h : a ≤ b) : (decimal a).length ≤ (decimal b).length :=
  length_decimal_le (length_decimal_pos b) (Nat.lt_of_le_of_lt h (lt_pow_length_decimal b))

/-- A number is the same when it is padded to the digits it has. -/
theorem padded_length_decimal (n : Nat) : padded (decimal n).length n = decimal n := by
  simp [padded]

/-- Numbers of equally many digits compare as texts in the way they do as numbers. -/
theorem compare_decimal {a b : Nat} (same : (decimal a).length = (decimal b).length)
    (cs ds : List Char) :
    compare (decimal a ++ cs) (decimal b ++ ds) = (compare a b).then (compare cs ds) := by
  have small := lt_pow_length_decimal a
  have pos := length_decimal_pos b
  rw [same] at small
  have compared := compare_padded pos small (lt_pow_length_decimal b) cs ds
  rwa [padded_length_decimal, ← same, padded_length_decimal] at compared

/-- A number in front of a hyphen is compared with as many digits of a number that has more, and where
these are equal it comes first. -/
theorem compare_decimal_shorter {a b places : Nat} (pos : 0 < places)
    (longer : (decimal a).length + places = (decimal b).length) (cs ds : List Char) :
    compare (decimal a ++ '-' :: cs) (decimal b ++ ds) =
      (compare a (b / Nat.pow 10 places)).then .lt := by
  obtain ⟨tail, length, cut⟩ := exists_padded_cut (length_decimal_pos a) places b
  have small := lt_pow_length_decimal b
  rw [longer, padded_length_decimal] at cut
  have power : 0 < Nat.pow 10 places := Nat.pow_pos (by decide)
  have front : b / Nat.pow 10 places < Nat.pow 10 (decimal a).length := by
    rw [Nat.div_lt_iff_lt_mul power]
    rw [← longer] at small
    exact Nat.lt_of_lt_of_eq small (Nat.pow_add 10 _ _)
  cases tail with
  | nil => simp at length; omega
  | cons c tail =>
    have digit : isAsciiDigit c = true := by
      refine isAsciiDigit_of_mem_padded (length_decimal_pos b) small ?_
      rw [padded_length_decimal, cut]
      simp
    have hyphen : compare '-' c = .lt := by
      rw [compare_lt_iff_lt, Char.lt_def, UInt32.lt_iff_toNat_lt]
      simp only [isAsciiDigit, Bool.and_eq_true, decide_eq_true_eq] at digit
      exact Nat.lt_of_lt_of_le (by decide) digit.1
    have compared := compare_padded (length_decimal_pos a) (lt_pow_length_decimal a) front
      ('-' :: cs) (c :: tail ++ ds)
    rw [padded_length_decimal, ← List.append_assoc, ← cut] at compared
    rw [compared, List.cons_append, compare_cons, hyphen]
    rfl

end LogSearch.Text
