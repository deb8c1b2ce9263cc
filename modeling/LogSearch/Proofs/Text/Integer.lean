import LogSearch.Text.Integer

/-!
# The texts that are read as integers

An integer is written with spaces around it, at most one sign, and a numeral: digits, of which any two
neighbours may have one underscore between them.  The reader takes exactly these texts, up to the most
digits that a number may have, and takes them for the number that the digits and the sign make.

Main statement: `readInteger_eq_ok_iff`.
-/

namespace LogSearch.Text

/-- A numeral, with the digits that it has. -/
inductive IsNumeral (digit? : Char → Option Nat) : List Char → List Nat → Prop
  | digit {c : Char} {d : Nat} (known : digit? c = some d) : IsNumeral digit? [c] [d]
  | next {c : Char} {d : Nat} {cs : List Char} {ds : List Nat} (known : digit? c = some d)
      (rest : IsNumeral digit? cs ds) : IsNumeral digit? (c :: cs) (d :: ds)
  | apart {c : Char} {d : Nat} {cs : List Char} {ds : List Nat} (known : digit? c = some d)
      (rest : IsNumeral digit? cs ds) : IsNumeral digit? (c :: '_' :: cs) (d :: ds)

/-- A sign, which may be left out, with what it multiplies a number by. -/
inductive IsSign : List Char → Int → Prop
  | absent : IsSign [] 1
  | plus : IsSign ['+'] 1
  | minus : IsSign ['-'] (-1)

/-- The text of an integer. -/
def IsInteger (digit? : Char → Option Nat) (cs : List Char) (n : Int) : Prop :=
  ∃ front sign body back unit ds, cs = front ++ (sign ++ (body ++ back)) ∧
    front.all isSpace = true ∧ IsSign sign unit ∧ IsNumeral digit? body ds ∧
    ds.length ≤ digitLimit ∧ back.all isSpace = true ∧ n = unit * ofDigits ds

/-- No space, sign or underscore is a digit. -/
structure AreDigits (digit? : Char → Option Nat) : Prop where
  space : ∀ c, isSpace c = true → digit? c = none
  minus : digit? '-' = none
  plus : digit? '+' = none
  underscore : digit? '_' = none

theorem areDigits_digitValue? : AreDigits digitValue? where
  space := by
    -- The digits of the scripts lie in four of the gaps that the spaces leave.
    have gaps : ∀ z ∈ zeroCodes, (0x20 < z ∧ z + 10 ≤ 0x85) ∨ (0xa0 < z ∧ z + 10 ≤ 0x1680) ∨
        (0x1680 < z ∧ z + 10 ≤ 0x2000) ∨ 0x3000 < z := by decide
    intro c space
    rw [digitValue?, Option.map_eq_none_iff, List.find?_eq_none]
    intro z hz inside
    have gap := gaps z hz
    simp only [isSpace, Bool.or_eq_true, Bool.and_eq_true, decide_eq_true_eq, beq_iff_eq] at space inside
    omega
  minus := by decide
  plus := by decide
  underscore := by decide

theorem areDigits_asciiDigit? : AreDigits asciiDigit? where
  space := by
    intro c space
    simp only [isSpace, Bool.or_eq_true, Bool.and_eq_true, decide_eq_true_eq, beq_iff_eq] at space
    rw [asciiDigit?, if_neg]
    simp only [Bool.and_eq_true, decide_eq_true_eq]
    omega
  minus := by decide
  plus := by decide
  underscore := by decide

/-- Neither a digit nor an underscore stands in front, so that a numeral ends here. -/
def Stops (digit? : Char → Option Nat) (rest : List Char) : Prop :=
  ∀ c r, rest = c :: r → digit? c = none ∧ c ≠ '_'

variable {digit? : Char → Option Nat} {cs front sign body rest back : List Char} {ds : List Nat}
  {n unit : Int}

theorem stops_of_spaces (digits : AreDigits digit?) (spaces : back.all isSpace = true) :
    Stops digit? back := by
  rintro c r rfl
  have space := (Bool.and_eq_true_iff.1 spaces).1
  refine ⟨digits.space c space, ?_⟩
  rintro rfl
  revert space
  decide

theorem IsNumeral.exists_cons (h : IsNumeral digit? body ds) :
    ∃ c r d, body = c :: r ∧ digit? c = some d := by
  cases h with
  | digit known => exact ⟨_, _, _, rfl, known⟩
  | next known rest => exact ⟨_, _, _, rfl, known⟩
  | apart known rest => exact ⟨_, _, _, rfl, known⟩

/-- A space, a sign or a digit stands in front. -/
theorem IsInteger.starts {c : Char} {r : List Char} (h : IsInteger digit? (c :: r) n) :
    isSpace c = true ∨ c = '+' ∨ c = '-' ∨ (digit? c).isSome = true := by
  obtain ⟨front, sign, body, back, unit, ds, same, spaces, signed, numeral, -⟩ := h
  cases front with
  | cons space front =>
    obtain ⟨rfl, -⟩ := List.cons.inj same
    exact .inl (Bool.and_eq_true_iff.1 spaces).1
  | nil =>
    cases signed with
    | absent =>
      obtain ⟨digit, others, d, rfl, known⟩ := numeral.exists_cons
      obtain ⟨rfl, -⟩ := List.cons.inj same
      exact .inr (.inr (.inr (known ▸ rfl)))
    | plus => exact .inr (.inl (List.cons.inj same).1)
    | minus => exact .inr (.inr (.inl (List.cons.inj same).1))

/-- What begins with a capital letter of ASCII is no integer's text. -/
theorem not_isInteger_of_capital {c : Char} {r : List Char} (low : 65 ≤ c.toNat)
    (high : c.toNat ≤ 90) : ¬ IsInteger digitValue? (c :: r) n := by
  have zeros : ∀ z ∈ zeroCodes, z + 10 ≤ 65 ∨ 90 < z := by decide
  have noDigit : digitValue? c = none := by
    rw [digitValue?, Option.map_eq_none_iff, List.find?_eq_none]
    intro z hz inside
    have apart := zeros z hz
    simp only [Bool.and_eq_true, decide_eq_true_eq] at inside
    omega
  intro written
  rcases written.starts with space | rfl | rfl | digit
  · simp only [isSpace, Bool.or_eq_true, Bool.and_eq_true, decide_eq_true_eq, beq_iff_eq] at space
    omega
  · revert low
    decide
  · revert low
    decide
  · rw [noDigit] at digit
    cases digit

theorem digitRun_of_stops (h : Stops digit? rest) : digitRun digit? true rest = some ([], rest) := by
  cases rest with
  | nil => rfl
  | cons c r =>
    obtain ⟨none, noUnderscore⟩ := h c r rfl
    rw [digitRun, none]
    simp only [if_neg noUnderscore, if_true]

/-- A numeral is read, whether an underscore might stand in front of it or not. -/
theorem digitRun_of_isNumeral (digits : AreDigits digit?) (h : IsNumeral digit? body ds)
    (stops : Stops digit? rest) (separable : Bool) :
    digitRun digit? separable (body ++ rest) = some (ds, rest) := by
  induction h generalizing separable with
  | digit known =>
    rw [List.singleton_append, digitRun, known]
    simp only [digitRun_of_stops stops, Option.map_some]
  | next known _ ih =>
    rw [List.cons_append, digitRun, known]
    simp only [ih, Option.map_some]
  | apart known _ ih =>
    rw [List.cons_append, List.cons_append, digitRun, known, digitRun, digits.underscore]
    simp only [if_true, ih, Option.map_some]

/-- What is read is a numeral, unless nothing is read behind a digit; there an underscore may stand in
front of it. -/
theorem exists_of_digitRun {separable : Bool} (h : digitRun digit? separable cs = some (ds, rest)) :
    (separable = true ∧ ds = [] ∧ cs = rest) ∨
      ∃ body, IsNumeral digit? body ds ∧
        (cs = body ++ rest ∨ separable = true ∧ cs = '_' :: (body ++ rest)) := by
  induction cs generalizing separable ds with
  | nil =>
    cases separable with
    | false => cases h
    | true =>
      obtain ⟨rfl, rfl⟩ := Prod.mk.inj (Option.some.inj h)
      exact .inl ⟨rfl, rfl, rfl⟩
  | cons c r ih =>
    rw [digitRun] at h
    cases known : digit? c with
    | some d =>
      rw [known] at h
      obtain ⟨⟨ds', rest'⟩, run, same⟩ := Option.map_eq_some_iff.1 h
      obtain ⟨rfl, rfl⟩ := Prod.mk.inj same
      refine .inr ?_
      rcases ih run with ⟨-, rfl, rfl⟩ | ⟨body, numeral, rfl | ⟨-, rfl⟩⟩
      · exact ⟨[c], .digit known, .inl rfl⟩
      · exact ⟨c :: body, .next known numeral, .inl rfl⟩
      · exact ⟨c :: '_' :: body, .apart known numeral, .inl rfl⟩
    | none =>
      rw [known] at h
      dsimp only at h
      cases separable with
      | false =>
        split at h <;> cases h
      | true =>
        by_cases underscore : c = '_'
        · rw [if_pos underscore, if_pos rfl] at h
          obtain ⟨impossible, -⟩ | ⟨body, numeral, rfl | ⟨impossible, -⟩⟩ := ih h
          · cases impossible
          · exact .inr ⟨body, numeral, .inr ⟨rfl, by rw [underscore]⟩⟩
          · cases impossible
        · rw [if_neg underscore, if_pos rfl] at h
          obtain ⟨rfl, rfl⟩ := Prod.mk.inj (Option.some.inj h)
          exact .inl ⟨rfl, rfl, rfl⟩

/-- What a sign is split off from, put together again. -/
theorem exists_sign (cs : List Char) :
    ∃ sign, cs = sign ++ (splitSign cs).2 ∧ IsSign sign (if (splitSign cs).1 then -1 else 1) := by
  unfold splitSign
  split
  · exact ⟨['-'], rfl, .minus⟩
  · exact ⟨['+'], rfl, .plus⟩
  · exact ⟨[], rfl, .absent⟩

theorem splitSign_of_isNumeral (digits : AreDigits digit?) (h : IsNumeral digit? body ds)
    (signed : IsSign sign unit) (back : List Char) :
    ∃ negative, splitSign (sign ++ (body ++ back)) = (negative, body ++ back) ∧
      unit = if negative then -1 else 1 := by
  obtain ⟨c, r, d, rfl, known⟩ := h.exists_cons
  cases signed with
  | absent =>
    refine ⟨false, ?_, rfl⟩
    unfold splitSign
    split
    · rename_i same
      obtain ⟨rfl, -⟩ := List.cons.inj same
      rw [digits.minus] at known
      cases known
    · rename_i same
      obtain ⟨rfl, -⟩ := List.cons.inj same
      rw [digits.plus] at known
      cases known
    · rfl
  | plus => exact ⟨false, rfl, rfl⟩
  | minus => exact ⟨true, rfl, rfl⟩

/-- No space stands in front of a numeral with its sign. -/
theorem dropWhile_of_isNumeral (digits : AreDigits digit?) (h : IsNumeral digit? body ds)
    (spaces : front.all isSpace = true) (signed : IsSign sign unit) (back : List Char) :
    (front ++ (sign ++ (body ++ back))).dropWhile isSpace = sign ++ (body ++ back) := by
  obtain ⟨c, r, d, rfl, known⟩ := h.exists_cons
  have noSpace : isSpace c = false := by
    rw [← Bool.not_eq_true]
    intro space
    rw [digits.space c space] at known
    cases known
  rw [List.dropWhile_append_of_pos (List.all_eq_true.1 spaces)]
  cases signed with
  | absent => simp [noSpace]
  | plus => rfl
  | minus => rfl

theorem readInteger_of_isInteger (digits : AreDigits digit?) (h : IsInteger digit? cs n) :
    readInteger digit? cs = .ok n := by
  obtain ⟨front, sign, body, back, unit, ds, rfl, spaces, signed, numeral, short, spaces', rfl⟩ := h
  obtain ⟨negative, split, rfl⟩ := splitSign_of_isNumeral digits numeral signed back
  have run := digitRun_of_isNumeral digits numeral (stops_of_spaces digits spaces') false
  unfold readInteger
  rw [dropWhile_of_isNumeral digits numeral spaces signed, split]
  dsimp only
  rw [run]
  simp only [if_neg (Nat.not_lt.2 short), if_pos spaces']
  cases negative <;> simp

theorem isInteger_of_readInteger (h : readInteger digit? cs = .ok n) : IsInteger digit? cs n := by
  unfold readInteger at h
  obtain ⟨sign, behind, signed⟩ := exists_sign (cs.dropWhile isSpace)
  generalize splitSign (cs.dropWhile isSpace) = parts at h behind signed
  obtain ⟨negative, body⟩ := parts
  dsimp only at h behind signed
  split at h
  · cases h
  · rename_i ds back run
    obtain ⟨impossible, -⟩ | ⟨body, numeral, rfl | ⟨impossible, -⟩⟩ := exists_of_digitRun run
    · cases impossible
    · split at h
      · cases h
      · rename_i short
        split at h
        · rename_i spaces
          obtain rfl := Except.ok.inj h
          refine ⟨cs.takeWhile isSpace, sign, body, back, _, ds, ?_, ?_, signed, numeral,
            Nat.not_lt.1 short, spaces, ?_⟩
          · rw [← behind, List.takeWhile_append_dropWhile]
          · exact List.all_takeWhile
          · cases negative <;> simp
        · cases h
    · cases impossible

/-- The texts of integers are read, and no others. -/
theorem readInteger_eq_ok_iff (digits : AreDigits digit?) :
    readInteger digit? cs = .ok n ↔ IsInteger digit? cs n :=
  ⟨isInteger_of_readInteger, readInteger_of_isInteger digits⟩

end LogSearch.Text
