import LogSearch.Json.Reader
import LogSearch.Text.Encoding

/-!
# JSON in bytes

JSON that comes in bytes does not say how they make text.  Since a JSON text starts with a character of
one byte, the zeros among its first four bytes tell: bytes without such zeros are taken as they are,
and others are text in wide units.  A byte order mark in front is passed over.

Renders `json.loads` of bytes.
-/

namespace LogSearch.Json

/-- The wide units that bytes are in, as the zeros among the first of them tell. -/
def wideEncoding? : List UInt8 → Option Text.Encoding
  | a :: b :: c :: d :: _ =>
    if a = 0 then some (if b = 0 then .utf32 true else .utf16 true)
    else if b = 0 then some (if c = 0 && d = 0 then .utf32 false else .utf16 false)
    else none
  | [a, b] => if a = 0 then some (.utf16 true) else if b = 0 then some (.utf16 false) else none
  | _ => none

/-- What is wrong with JSON in bytes. -/
inductive BodyError
  | encoding (error : Text.Encoding.Error)
  | json (error : Error)
deriving Repr, DecidableEq

/-- Reads JSON whose bytes, taken as they are, make a text. -/
def readBody (s : String) : Except BodyError Value := do
  let cs ← match s.toList with
    | '\ufeff' :: r => .ok r
    | cs =>
      match wideEncoding? s.toUTF8.toList with
      | none => .ok cs
      | some encoding => (encoding.decode s.toUTF8.toList).mapError .encoding
  match readValue cs with
  | .ok v => return v
  | .error failed => throw (.json (.locate cs failed))

end LogSearch.Json
