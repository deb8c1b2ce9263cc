import LogSearch.Text.Digit
import LogSearch.Text.Printable
import LogSearch.Text.Unpaired

/-!
# Quoted literals

A text or a byte string shown inside an error message stands between quotes.  The quote is single,
unless the text holds a single quote and no double one.  The quote in use and the backslash are
escaped by a backslash, line ends and tabs by a letter, and what is not printable by its code in
base sixteen.

Renders `repr` of a text and of bytes.
-/

namespace LogSearch.Text

/-- The quote that a literal of this text is written in. -/
def quoteFor (cs : List Char) : Char :=
  if cs.contains '\'' && !cs.contains '"' then '"' else '\''

/-- An escape by code: two, four or eight digits, the fewest that hold it. -/
def codeEscape (n : Nat) : List Char :=
  if n < 0x100 then '\\' :: 'x' :: hexadecimal 2 n
  else if n < 0x10000 then '\\' :: 'u' :: hexadecimal 4 n
  else '\\' :: 'U' :: hexadecimal 8 n

/-- One character of a text literal that is written in `quote`. -/
def literalChar (quote c : Char) : List Char :=
  if c = quote || c = '\\' then ['\\', c]
  else if c = '\n' then ['\\', 'n']
  else if c = '\r' then ['\\', 'r']
  else if c = '\t' then ['\\', 't']
  else if isPrintable c then [c]
  else codeEscape (codeOf c)

/-- A text as a quoted literal. -/
def literal (cs : List Char) : List Char :=
  let quote := quoteFor cs
  quote :: cs.flatMap (literalChar quote) ++ [quote]

/-- A string as a quoted literal. -/
def quoted (s : String) : String := String.ofList (literal s.toList)

/-- One byte of a byte literal: as a character where that is a printable ASCII one. -/
def literalByte (quote : Char) (b : UInt8) : List Char :=
  let c := Char.ofNat b.toNat
  if b.toNat < 127 then literalChar quote c else codeEscape b.toNat

/-- A byte string as a quoted literal, marked by a `b` in front. -/
def byteLiteral (bs : List UInt8) : List Char :=
  let quote := quoteFor (bs.map fun b => Char.ofNat b.toNat)
  'b' :: quote :: bs.flatMap (literalByte quote) ++ [quote]

end LogSearch.Text
