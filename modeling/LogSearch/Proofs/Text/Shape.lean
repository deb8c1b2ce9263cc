import LogSearch.Proofs.Text.Digit
import Mathlib.Data.List.Forall2

/-!
# Texts of a shape

A pattern leaves places for digits, which are those of its characters that have some property, and shows
every other character as it is.  A text has the shape of the pattern when it is as long, has a digit in
each of the places, and else the characters of the pattern.

Main statements: `HasShape.append`, `HasShape.of_digits` and `HasShape.isAsciiDigit_or_mem`.
-/

namespace LogSearch.Text

/-- Whether a character may stand where a pattern has another: a digit in a place for one, and else the
same character. -/
def standsFor (place : Char → Bool) (p c : Char) : Bool := if place p then isAsciiDigit c else c == p

/-- A text has the shape of a pattern when it is as long and each of its characters may stand there. -/
def HasShape (place : Char → Bool) (pattern cs : List Char) : Prop :=
  List.Forall₂ (fun p c => standsFor place p c = true) pattern cs

instance (place : Char → Bool) (pattern cs : List Char) : Decidable (HasShape place pattern cs) :=
  inferInstanceAs (Decidable (List.Forall₂ _ pattern cs))

namespace HasShape

variable {place : Char → Bool} {pattern more cs ds : List Char} {letter mark : Char} {count : Nat}

theorem append (front : HasShape place pattern cs) (back : HasShape place more ds) :
    HasShape place (pattern ++ more) (cs ++ ds) :=
  List.rel_append front back

/-- A character that is no place stands for itself. -/
theorem cons (noPlace : place mark = false) (behind : HasShape place more cs) :
    HasShape place (mark :: more) (mark :: cs) := by
  have stands : standsFor place mark mark = true := by simp [standsFor, noPlace]
  exact List.Forall₂.cons stands behind

/-- Digits stand in as many places. -/
theorem of_digits (isPlace : place letter = true) (length : cs.length = count)
    (digits : ∀ c ∈ cs, isAsciiDigit c = true) :
    HasShape place (List.replicate count letter) cs := by
  subst length
  induction cs with
  | nil => exact List.Forall₂.nil
  | cons c cs ih =>
    obtain ⟨digit, digits⟩ := List.forall_mem_cons.1 digits
    have stands : standsFor place letter c = true := by simp [standsFor, isPlace, digit]
    exact List.Forall₂.cons stands (ih digits)

/-- A padded number stands in as many places as it is wide. -/
theorem of_padded (isPlace : place letter = true) {n : Nat} (pos : 0 < count)
    (h : n < Nat.pow 10 count) : HasShape place (List.replicate count letter) (padded count n) :=
  of_digits isPlace (length_padded pos h) fun _ member => isAsciiDigit_of_mem_padded pos h member

/-- A text of a shape has digits and characters of the pattern. -/
theorem isAsciiDigit_or_mem (h : HasShape place pattern cs) :
    ∀ c ∈ cs, isAsciiDigit c = true ∨ c ∈ pattern := by
  induction h with
  | nil => simp
  | @cons p c pattern cs stands _ ih =>
    refine List.forall_mem_cons.2 ⟨?_, fun d hd => (ih d hd).imp_right (List.mem_cons_of_mem p)⟩
    by_cases isPlace : place p = true
    · exact .inl (by simpa [standsFor, isPlace] using stands)
    · have same : c = p := by simpa [standsFor, isPlace] using stands
      exact .inr (same ▸ List.mem_cons_self)

end HasShape

end LogSearch.Text
