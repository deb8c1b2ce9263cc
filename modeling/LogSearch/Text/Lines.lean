/-!
# Lines

A line ends with a line feed, a carriage return, or both in this order; and with one of some rarer
characters where a text is cut into lines.

Renders the line ends of `open` (`unifyLines`) and `str.splitlines` (`lines`).
-/

namespace LogSearch.Text

/-- Writes a carriage return, with or without a line feed behind it, as a line feed. -/
def unifyLines : List Char → List Char
  | '\r' :: '\n' :: r => '\n' :: unifyLines r
  | '\r' :: r => '\n' :: unifyLines r
  | c :: r => c :: unifyLines r
  | [] => []

/-- Whether a character ends a line where a text is cut into lines. -/
def isLineEnd (c : Char) : Bool :=
  let n := c.toNat
  (10 ≤ n && n ≤ 13) || (28 ≤ n && n ≤ 30) || n = 0x85 || n = 0x2028 || n = 0x2029

/-- The lines of a text, of which `line` is the part of the first that was read, in reverse. -/
def linesFrom (line : List Char) : List Char → List String
  | [] => if line.isEmpty then [] else [String.ofList line.reverse]
  | '\r' :: '\n' :: r => String.ofList line.reverse :: linesFrom [] r
  | c :: r =>
    if isLineEnd c then String.ofList line.reverse :: linesFrom [] r else linesFrom (c :: line) r

/-- The lines of a text; behind the last line end there is none when nothing stands there. -/
def lines (s : String) : List String := linesFrom [] s.toList

end LogSearch.Text
