import LogSearch.Decimal.Shortest
import LogSearch.Text.Integer
import LogSearch.Text.Quoted
import LogSearch.Time.Iso
import LogSearch.Value.Basic

/-!
# The text of a value

A value has two texts.  Its *literal* shows what it is, with quotes around text; it is what messages
about a value show.  Its *plain text* is the text itself for a text, and differs from the literal
for times and sort directions only.

An integer with too many digits is not written, and so neither is a value that holds one.  Where a hit is
read, `isWritable` is asked before a text is made of a part of it.  The size and the start of a query, the
sorts of a caller and the fields that decorators show are written with all their digits: what is read
from JSON has no integer of so many (`Json.isWritable_of_read`), and the limit can be lifted.

Renders `repr` (`literal`) and `str` (`plain`).

Main statement: lists are writable when their items are.
-/

namespace LogSearch.Value

/-- The literal of a truth value. -/
def boolLiteral (b : Bool) : String := if b then "True" else "False"

mutual

/-- The literal of a value. -/
def literal : Value → String
  | null => "None"
  | bool b => boolLiteral b
  | int n => String.ofList (Text.integer n)
  | float x => Decimal.plainLayout.render x
  | str s => Text.quoted s
  | bytes octets => String.ofList (Text.byteLiteral octets)
  | list items => "[" ++ ", ".intercalate (itemLiterals items) ++ "]"
  | tuple [v] => "(" ++ literal v ++ ",)"
  | tuple items => "(" ++ ", ".intercalate (itemLiterals items) ++ ")"
  | map entries => "\x7b" ++ ", ".intercalate (entryLiterals entries) ++ "\x7d"
  | time t => t.literal
  | order o => "<SortOrder." ++ o.name ++ ": '" ++ o.name ++ "'>"

/-- The literals of values. -/
def itemLiterals : List Value → List String
  | [] => []
  | v :: r => literal v :: itemLiterals r

/-- The literals of entries, with a colon between key and value. -/
def entryLiterals : List (Value × Value) → List String
  | [] => []
  | (k, v) :: r => (literal k ++ ": " ++ literal v) :: entryLiterals r

end

mutual

/-- Whether a value is written: no integer in it has more digits than the limit. -/
def isWritable : Value → Bool
  | int n => n.natAbs < Nat.pow 10 Text.digitLimit
  | list items => areWritable items
  | tuple items => areWritable items
  | map entries => entriesWritable entries
  | _ => true

/-- Whether all values of a list are written. -/
def areWritable : List Value → Bool
  | [] => true
  | v :: r => isWritable v && areWritable r

/-- Whether all keys and values of some entries are written. -/
def entriesWritable : List (Value × Value) → Bool
  | [] => true
  | (k, v) :: r => isWritable k && isWritable v && entriesWritable r

end

theorem areWritable_iff (items : List Value) :
    areWritable items = true ↔ ∀ v ∈ items, v.isWritable = true := by
  induction items with
  | nil => simp [areWritable]
  | cons v r ih => simp [areWritable, ih]

theorem entriesWritable_iff (entries : List (Value × Value)) :
    entriesWritable entries = true ↔
      ∀ e ∈ entries, e.1.isWritable = true ∧ e.2.isWritable = true := by
  induction entries with
  | nil => simp [entriesWritable]
  | cons e r ih =>
    obtain ⟨k, v⟩ := e
    simp [entriesWritable, ih]

/-- The plain text of a value. -/
def plain : Value → String
  | str s => s
  | time t => t.spaced
  | order o => "SortOrder." ++ o.name
  | v => v.literal

end LogSearch.Value
