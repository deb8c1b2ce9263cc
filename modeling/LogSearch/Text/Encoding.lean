import LogSearch.Text.Digit
import LogSearch.Text.Unpaired

/-!
# Text in wide units

Text may be sent in units of two or of four bytes.  A unit of two bytes holds a character, or one half
of a pair; a unit of four holds a character.  A half that stands alone is kept, but a unit that is cut
off or is no character's is an error, which tells the bytes that are wrong.

Renders `bytes.decode` with `surrogatepass`.
-/

namespace LogSearch.Text

/-- How the bytes of wide units are made into characters. -/
inductive Encoding
  /-- Units of two bytes. -/
  | utf16 (bigEndian : Bool)
  /-- Units of four bytes. -/
  | utf32 (bigEndian : Bool)
deriving Repr, DecidableEq

namespace Encoding

/-- The name of an encoding. -/
def name : Encoding → String
  | utf16 bigEndian => if bigEndian then "utf-16-be" else "utf-16-le"
  | utf32 bigEndian => if bigEndian then "utf-32-be" else "utf-32-le"

/-- Why bytes are no text. -/
inductive Problem
  /-- The last unit is cut off. -/
  | truncated
  /-- A unit is larger than the code of any character. -/
  | outOfRange
deriving Repr, DecidableEq

/-- Why bytes are no text in an encoding, and which bytes are wrong. -/
structure Error where
  encoding : Encoding
  problem : Problem
  position : Nat
  octets : List UInt8
deriving Repr, DecidableEq

/-- An error in words. -/
def Error.message (e : Error) : String :=
  let n (k : Nat) : String := String.ofList (decimal k)
  let which := match e.octets with
    | [b] => "byte 0x" ++ String.ofList (hexadecimal 2 b.toNat) ++ " in position " ++ n e.position
    | bs => "bytes in position " ++ n e.position ++ "-" ++ n (e.position + bs.length - 1)
  "'" ++ e.encoding.name ++ "' codec can't decode " ++ which ++ ": " ++
    match e.problem with
    | .truncated => "truncated data"
    | .outOfRange => "code point not in range(0x110000)"

/-- The number that some bytes write. -/
def number (bigEndian : Bool) (octets : List UInt8) : Nat :=
  (if bigEndian then octets else octets.reverse).foldl (fun n b => 256 * n + b.toNat) 0

/-- Cuts bytes into units of some length, and what is left over. -/
def units (length : Nat) (octets : List UInt8) : List (List UInt8) × List UInt8 :=
  if _h : 0 < length ∧ length ≤ octets.length then
    let (found, left) := units length (octets.drop length)
    (octets.take length :: found, left)
  else ([], octets)
termination_by octets.length
decreasing_by simp only [List.length_drop]; omega

/-- Joins the halves of pairs. -/
def joinHalves : List Nat → List Char
  | [] => []
  | first :: second :: r =>
    if 0xd800 ≤ first && first ≤ 0xdbff && 0xdc00 ≤ second && second ≤ 0xdfff then
      Char.ofNat (0x10000 + (first - 0xd800) * 0x400 + (second - 0xdc00)) :: joinHalves r
    else charOfCode first :: joinHalves (second :: r)
  | [code] => [charOfCode code]

/-- The text that bytes hold. -/
def decode (encoding : Encoding) (octets : List UInt8) : Except Error (List Char) :=
  match encoding with
  | .utf16 bigEndian =>
    let (found, left) := units 2 octets
    if left.isEmpty then .ok (joinHalves (found.map (number bigEndian)))
    else .error ⟨encoding, .truncated, octets.length - left.length, left⟩
  | .utf32 bigEndian =>
    let (found, left) := units 4 octets
    let good := found.takeWhile fun unit => number bigEndian unit < 0x110000
    match found.drop good.length with
    | unit :: _ => .error ⟨encoding, .outOfRange, 4 * good.length, unit⟩
    | [] =>
      if left.isEmpty then .ok (found.map fun unit => charOfCode (number bigEndian unit))
      else .error ⟨encoding, .truncated, octets.length - left.length, left⟩

end Encoding

end LogSearch.Text
