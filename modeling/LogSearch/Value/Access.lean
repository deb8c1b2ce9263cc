import LogSearch.Fault
import LogSearch.Text.Unpaired
import LogSearch.Value.Equal

/-!
# Access to values

Data from outside need not have the shape that is asked for.  Each access here fails with the fault
that tells what was asked of what kind of value.

Renders `dict.get`, subscripts, `in`, `len`, `dict`, `int`, `str.join` and `<`, of values of any
type.
-/

namespace LogSearch.Value

/-- Checks that a value can be a key. -/
def fixed (v : Value) : Except Fault Unit :=
  match v.changeable? with
  | none => .ok ()
  | some part => .error (.unhashable part.fullKind)

/-- The value under a key of a map, or a default. -/
def getOr (v key default : Value) : Except Fault Value :=
  match v with
  | map entries => do
    key.fixed
    return (Entries.get? entries key).getD default
  | v => .error (.noAttribute v.fullKind "get")

/-- The value under a name of a map, or a default. -/
def field (v : Value) (name : String) (default : Value) : Except Fault Value :=
  v.getOr (str name) default

/-- The entries of a map. -/
def items : Value → Except Fault Entries
  | map entries => .ok entries
  | v => .error (.noAttribute v.fullKind "items")

/-- The values of a map. -/
def values : Value → Except Fault (List Value)
  | map entries => .ok (entries.map Prod.snd)
  | v => .error (.noAttribute v.fullKind "values")

/-- The items of a value, one by one. -/
def elements : Value → Except Fault (List Value)
  | list vs | tuple vs => .ok vs
  | map entries => .ok (Entries.keys entries)
  | str s => .ok (s.toList.map fun c => str (String.singleton c))
  | bytes octets => .ok (octets.map fun b => int b.toNat)
  | v => .error (.notIterable v.fullKind)

/-- Indices are less than this, and no less than its negative. -/
def indexLimit : Int := 9223372036854775808

/-- The item of a sequence at an index, which counts from the end when it is negative. -/
def itemAt (kind : String) (vs : List Value) (n : Int) : Except Fault Value :=
  if n < -indexLimit || indexLimit ≤ n then .error .hugeIndex
  else
    let place := if n < 0 then n + vs.length else n
    match if place < 0 then none else vs[place.toNat]? with
    | some v => .ok v
    | none => .error (.outOfRange kind)

/-- The value under a key, which a map must have, or at an index of a sequence. -/
def index (v key : Value) : Except Fault Value :=
  match v with
  | map entries => do
    key.fixed
    match Entries.get? entries key with
    | some w => return w
    | none => throw (.missingKey key)
  | v =>
    match v.elements, key.int? with
    | .ok vs, some n => itemAt v.fullKind vs n
    | .ok _, none => .error (.badIndex v.fullKind key.fullKind)
    | .error _, _ => .error (.notSubscriptable v.fullKind)

/-- The value under a name, which a map must have. -/
def item (v : Value) (name : String) : Except Fault Value := v.index (str name)

/-- Whether the first list occurs in the second as consecutive items. -/
def occursIn {α : Type} [BEq α] (part : List α) : List α → Bool
  | [] => part.isEmpty
  | c :: r => part.isPrefixOf (c :: r) || occursIn part r

/-- Whether a value holds another: as a key, an item, or a part of a text. -/
def holds (v part : Value) : Except Fault Bool :=
  match v with
  | map entries => do
    part.fixed
    return Entries.has entries part
  | list vs | tuple vs => .ok (isIn part vs)
  | str s =>
    match part with
    | str t => .ok (occursIn t.toList s.toList)
    | part => .error (.notPartOfText part.fullKind)
  | bytes octets =>
    match part.int?, part with
    | some n, _ =>
      if 0 ≤ n && n < 256 then .ok (octets.any fun b => (b.toNat : Int) = n) else .error .notByte
    | none, bytes inner => .ok (occursIn inner octets)
    | none, part => .error (.notPartOfBytes part.fullKind)
  | v => .error (.notContainer v.fullKind)

/-- The number of items of a value. -/
def size : Value → Except Fault Nat
  | list vs | tuple vs => .ok vs.length
  | map entries => .ok entries.length
  | str s => .ok s.length
  | bytes octets => .ok octets.length
  | v => .error (.noLength v.fullKind)

/-- The distinct items of a value, which can all be keys. -/
def elementSet (v : Value) : Except Fault (List Value) := do
  let vs ← v.elements
  vs.forM fixed
  return distinct vs

/-- The key and the value that the item at a position of a sequence of pairs consists of. -/
def pairAt (position : Nat) (v : Value) : Except Fault (Value × Value) :=
  match v.elements with
  | .ok [key, w] => key.fixed.map fun _ => (key, w)
  | .ok vs => .error (.notPair position vs.length)
  | .error _ => .error (.notSequence position)

/-- The entries of a map, or those that a sequence of pairs makes. -/
def toEntries : Value → Except Fault Entries
  | map entries => .ok entries
  | v => do
    let pairs ← (← v.elements).zipIdx.mapM fun (w, i) => pairAt i w
    return Entries.ofPairs pairs

/-- An integer as it is read from a value: a fraction is cut off, and a text is read. -/
def toInt : Value → Except Fault Int
  | bool b => .ok (if b then 1 else 0)
  | int n => .ok n
  | float (.nan _) => .error .nanToInteger
  | float (.infinite _) => .error .infinityToInteger
  | float (.finite s m e _) => .ok (Binary64.truncate s m e)
  | str s => readText (str s) (Text.integer? s)
  | bytes octets => readText (bytes octets) (Text.integerOfBytes? octets)
  | v => .error (.notNumeric v.fullKind)
where
  /-- The fault of a text that is not an integer's shows the first 200 characters of its literal. -/
  readText (v : Value) : Except Text.IntegerError Int → Except Fault Int
    | .ok n => .ok n
    | .error .malformed => .error (.notInteger (String.ofList (v.literal.toList.take 200)))
    | .error (.tooLong digits) => .error (.tooManyDigits digits)

/-- The texts that a value consists of, with a separator between them. -/
def join (separator : String) (v : Value) : Except Fault String := do
  let vs ← v.elements.mapError fun _ => .notJoined
  let texts ← vs.zipIdx.mapM fun (v, i) =>
    match v with
    | str s => .ok s
    | v => .error (.notJoinable i v.fullKind)
  return separator.intercalate texts

/-- Whether one floating point number is less than another. -/
def floatLess : Binary64 → Binary64 → Bool
  | .nan _, _ | _, .nan _ => false
  | .infinite s, .infinite t => s && !t
  | .infinite s, .finite _ _ _ _ => s
  | .finite _ _ _ _, .infinite t => !t
  | .finite s m e _, .finite t n f _ =>
    let (a, b) := Binary64.signedRatio s m e
    let (c, d) := Binary64.signedRatio t n f
    a * d < c * b

/-- Whether an integer is less than a floating point number. -/
def intLessFloat (n : Int) : Binary64 → Bool
  | .nan _ => false
  | .infinite s => !s
  | .finite s m e _ =>
    let (num, den) := Binary64.signedRatio s m e
    n * den < num

/-- Whether a floating point number is less than an integer. -/
def floatLessInt (x : Binary64) (n : Int) : Bool :=
  match x with
  | .nan _ => false
  | .infinite s => s
  | .finite s m e _ =>
    let (num, den) := Binary64.signedRatio s m e
    num < n * den

/-- Whether a value is at least an integer. -/
def isAtLeast (v : Value) (n : Int) : Except Fault Bool :=
  match v.int?, v with
  | some m, _ => .ok (n ≤ m)
  | none, float x => .ok (intLessFloat n x || intSame n x)
  | none, v => .error (.unordered "int" v.fullKind)

/-- Whether one value is less than another, for values that hold no others. -/
def atomLess (a b : Value) : Except Fault Bool :=
  match a, b with
  | str s, str t => .ok (decide (Text.Before s t))
  | bytes s, bytes t => .ok ((s.map UInt8.toNat) < (t.map UInt8.toNat))
  | time t, time u =>
    if t.offset.isSome == u.offset.isSome then .ok (t.instant < u.instant) else .error .mixedZones
  | float x, float y => .ok (floatLess x y)
  | a, b =>
    match a.int?, b.int?, a, b with
    | some n, some m, _, _ => .ok (n < m)
    | some n, none, _, float y => .ok (intLessFloat n y)
    | none, some m, float x, _ => .ok (floatLessInt x m)
    | _, _, _, _ => .error (.incomparable a.fullKind b.fullKind)

mutual

/-- Whether one value is less than another. -/
def less : Value → Value → Except Fault Bool
  | list a, list b => itemsLess a b
  | tuple a, tuple b => itemsLess a b
  | a, b => atomLess a b

/-- Whether one list comes before another: the first items that differ decide. -/
def itemsLess : List Value → List Value → Except Fault Bool
  | [], b => .ok (!b.isEmpty)
  | _ :: _, [] => .ok false
  | a :: r, b :: t => if alike a b then itemsLess r t else less a b

end

end LogSearch.Value
