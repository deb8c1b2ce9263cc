import LogSearch.Decimal.Binary64
import LogSearch.Sort.Order
import LogSearch.Time.DateTime

/-!
# Values

Messages, settings of decorators and answers of a search backend hold data of any shape.  A `Value`
is such data: what JSON can write, and beside it bytes, fixed sequences, times and sort directions.
A map keeps its entries in order and its keys may be any values.

Renders the values that `json.loads` gives and that callers hand in.
-/

namespace LogSearch

/-- Data of any shape. -/
inductive Value
  | null
  | bool (b : Bool)
  | int (n : Int)
  | float (x : Binary64)
  | str (s : String)
  | bytes (octets : List UInt8)
  | list (items : List Value)
  | tuple (items : List Value)
  | map (entries : List (Value × Value))
  | time (t : DateTime)
  | order (o : SortOrder)
deriving Inhabited

/-- The entries of a map, in order. -/
abbrev Entries := List (Value × Value)

namespace Value

/-- The name of the kind of a value. -/
def kind : Value → String
  | null => "NoneType"
  | bool _ => "bool"
  | int _ => "int"
  | float _ => "float"
  | str _ => "str"
  | bytes _ => "bytes"
  | list _ => "list"
  | tuple _ => "tuple"
  | map _ => "dict"
  | time _ => "datetime"
  | order _ => "SortOrder"

/-- The name of the kind of a value, with the module that a time's kind belongs to. -/
def fullKind : Value → String
  | time _ => "datetime.datetime"
  | v => v.kind

/-- Whether a value counts as true: nothing, zeros and empty collections do not. -/
def isTrue : Value → Bool
  | null => false
  | bool b => b
  | int n => n ≠ 0
  | float x => !x.isZero
  | str s => !s.isEmpty
  | bytes octets => !octets.isEmpty
  | list items => !items.isEmpty
  | tuple items => !items.isEmpty
  | map entries => !entries.isEmpty
  | time _ => true
  | order _ => true

/-- A value that may be absent. -/
def ofOption : Option Value → Value
  | none => null
  | some v => v

/-- A map with text keys. -/
def record (fields : List (String × Value)) : Value :=
  map (fields.map fun (name, v) => (str name, v))

/-- A list of texts. -/
def texts (items : List String) : Value := list (items.map str)

/-- The text of a value that is one. -/
def text? : Value → Option String
  | str s => some s
  | _ => none

/-- The integer that a value counts as. -/
def int? : Value → Option Int
  | int n => some n
  | bool b => some (if b then 1 else 0)
  | _ => none

end Value

end LogSearch
