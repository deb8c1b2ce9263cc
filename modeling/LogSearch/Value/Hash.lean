import LogSearch.Text.Unpaired
import LogSearch.Value.Equal

/-!
# Hash codes

Values that are looked up by key have a hash code, which equal values share.  Numbers are taken
modulo a prime, so that the code depends on the value alone and not on its kind; a text has the code
of the bytes that it is kept in, a sort direction that of its name, and a time that of its bytes, or
of its distance to the start of the calendar in UTC.  Codes of different shapes are never the same.

Renders `hash`, as far as it tells values apart.
-/

namespace LogSearch

/-- A part of a hash code. -/
inductive HashPart
  | number (n : Int)
  /-- Bytes, of which there is one at least. -/
  | octets (bytes : List UInt8)
  | nothing
  | notANumber (tag : Nat)
  /-- So many parts of a fixed sequence follow. -/
  | sequence (length : Nat)
deriving Repr, DecidableEq

/-- A hash code: one part, or that of a fixed sequence and the parts of its items. -/
abbrev HashCode := List HashPart

namespace HashCode

/-- The modulus of hash codes, a prime. -/
def modulus : Int := 2305843009213693951

/-- Minus one is no hash code, because it tells of a failure; minus two stands for it. -/
def settled (n : Int) : Int := if n = -1 then -2 else n

/-- The hash code of an integer. -/
def ofInt (n : Int) : Int := settled (n.tmod modulus)

/-- The hash code of a finite number that is no integer, or is one.  A power of two modulo the
modulus depends on the exponent modulo 61 alone. -/
def ofFinite (negative : Bool) (m : Nat) (e : Int) : Int :=
  let n : Int := (m * Nat.pow 2 (e % 61).toNat : Nat)
  settled (if negative then -(n.tmod modulus) else n.tmod modulus)

/-- The hash code of an infinity. -/
def ofInfinite (negative : Bool) : Int := if negative then -314159 else 314159

/-- The hash code of bytes; that of none is zero. -/
def ofOctets (octets : List UInt8) : HashPart :=
  if octets.isEmpty then .number 0 else .octets octets

/-- The low bytes of a number, the lowest first. -/
def lowBytes : Nat → Nat → List UInt8
  | 0, _ => []
  | count + 1, n => UInt8.ofNat (n % 256) :: lowBytes count (n / 256)

/-- How many bytes a text needs for each of its characters: one, two or four. -/
def width (codes : List Nat) : Nat :=
  if codes.all (· < 0x100) then 1 else if codes.all (· < 0x10000) then 2 else 4

/-- The hash code of a text. -/
def ofText (s : String) : HashPart :=
  let codes := s.toList.map Text.codeOf
  ofOctets (codes.flatMap (lowBytes (width codes)))

/-- The hash code of a time.  The calendar counts days from one. -/
def ofTime (t : DateTime) : HashCode :=
  match t.offset with
  | none =>
    let d := t.date
    let c := t.clock
    [ofOctets ((lowBytes 2 d.year).reverse ++
      ([d.month, d.day, c.hour, c.minute, c.second].map UInt8.ofNat) ++ (lowBytes 3 c.micro).reverse)]
  | some _ =>
    let n := t.instant
    let seconds := n.fdiv 1000000
    [.sequence 3, .number (ofInt (seconds.fdiv 86400 + 1)), .number (ofInt (seconds.fmod 86400)),
      .number (ofInt (n.fmod 1000000))]

end HashCode

mutual

/-- The hash code of a value.  What can change has none, and is taken for nothing here. -/
def Value.hashCode : Value → HashCode
  | .null => [.nothing]
  | .bool b => [.number (if b then 1 else 0)]
  | .int n => [.number (HashCode.ofInt n)]
  | .float (.nan tag) => [.notANumber tag]
  | .float (.infinite s) => [.number (HashCode.ofInfinite s)]
  | .float (.finite s m e _) => [.number (HashCode.ofFinite s m e)]
  | .str s => [HashCode.ofText s]
  | .bytes octets => [HashCode.ofOctets octets]
  | .list _ | .map _ => [.nothing]
  | .tuple items => .sequence items.length :: Value.hashCodes items
  | .time t => HashCode.ofTime t
  | .order o => [HashCode.ofText o.name]

/-- The hash codes of values, one after another. -/
def Value.hashCodes : List Value → HashCode
  | [] => []
  | v :: r => v.hashCode ++ Value.hashCodes r

end

example : (Value.str "a").hashCode = (Value.bytes [97]).hashCode := by decide +kernel

example : (Value.float (.ofRatio false 3 2)).hashCode = [.number 1152921504606846977] := by
  decide +kernel

end LogSearch
