import LogSearch.Decimal.Shortest
import LogSearch.Value.Literal

/-!
# Writing JSON

A value is written with a space after each comma and colon, or over several lines with an indent of
two spaces for each level.  Characters outside ASCII are written as they are.  Bytes, times and sort
directions, which JSON has no form for, are written as their plain text.  Keys are texts, and those
of numbers, truth values and nothing have a text that stands for them; `badKey?` finds others.

Renders `json.dumps` with `ensure_ascii=False`, `indent=2` and `default=str`.
-/

namespace LogSearch.Json

/-- One character inside a JSON string. -/
def stringChar (c : Char) : List Char :=
  if c = '"' then ['\\', '"']
  else if c = '\\' then ['\\', '\\']
  else if c = '\n' then ['\\', 'n']
  else if c = '\r' then ['\\', 'r']
  else if c = '\t' then ['\\', 't']
  else if c = '\x08' then ['\\', 'b']
  else if c = '\x0c' then ['\\', 'f']
  else if c.toNat < 32 then '\\' :: 'u' :: Text.hexadecimal 4 c.toNat
  else [c]

/-- A text as a JSON string. -/
def string (s : String) : String :=
  String.ofList ('"' :: s.toList.flatMap stringChar ++ ['"'])

/-- The text that stands for a key. -/
def keyText : Value → String
  | .null => "null"
  | .bool b => if b then "true" else "false"
  | .int n => String.ofList (Text.integer n)
  | .float x => Decimal.jsonLayout.render x
  | v => v.plain

/-- What stands before an item at a level: nothing without indents, and a new line with them. -/
def lineStart (indent : Bool) (level : Nat) : String :=
  if indent then "\n" ++ String.ofList (List.replicate (2 * level) ' ') else ""

/-- Puts brackets around the texts of items at a level. -/
def enclose (indent : Bool) (level : Nat) (left right : String) (items : List String) : String :=
  if items.isEmpty then left ++ right
  else
    let separator := if indent then "," else ", "
    left ++ separator.intercalate (items.map fun item => lineStart indent (level + 1) ++ item) ++
      lineStart indent level ++ right

mutual

/-- Writes a value at a level. -/
def write (indent : Bool) (level : Nat) : Value → String
  | .null => "null"
  | .bool b => if b then "true" else "false"
  | .int n => String.ofList (Text.integer n)
  | .float x => Decimal.jsonLayout.render x
  | .str s => string s
  | .list items => enclose indent level "[" "]" (writeItems indent (level + 1) items)
  | .tuple items => enclose indent level "[" "]" (writeItems indent (level + 1) items)
  | .map entries =>
    enclose indent level "\x7b" "\x7d" (writeEntries indent (level + 1) entries)
  | .bytes octets => string (Value.plain (.bytes octets))
  | .time t => string t.spaced
  | .order o => string (Value.plain (.order o))

/-- Writes values at a level. -/
def writeItems (indent : Bool) (level : Nat) : List Value → List String
  | [] => []
  | v :: r => write indent level v :: writeItems indent level r

/-- Writes entries at a level. -/
def writeEntries (indent : Bool) (level : Nat) : List (Value × Value) → List String
  | [] => []
  | (k, v) :: r =>
    (string (keyText k) ++ ": " ++ write indent level v) :: writeEntries indent level r

end

mutual

/-- The first key in a value that no key of JSON text stands for, if there is one. -/
def badKey? : Value → Option Value
  | .list items | .tuple items => badKeyOfItems? items
  | .map entries => badKeyOfEntries? entries
  | _ => none

/-- The first such key in values. -/
def badKeyOfItems? : List Value → Option Value
  | [] => none
  | v :: r => (badKey? v).or (badKeyOfItems? r)

/-- The first such key in entries. -/
def badKeyOfEntries? : List (Value × Value) → Option Value
  | [] => none
  | (k, v) :: r =>
    match k with
    | .null | .bool _ | .int _ | .float _ | .str _ => (badKey? v).or (badKeyOfEntries? r)
    | k => some k

end

/-- A value on one line. -/
def line (v : Value) : String := write false 0 v

/-- A value over several lines. -/
def indented (v : Value) : String := write true 0 v

end LogSearch.Json
