import LogSearch.Text.Blank

/-!
# Directions of a sort

A direction is named by `ASC` or `DESC`, in any case and with blanks around it.  Case is that of
all scripts: a letter counts as the Latin letters that its upper case form consists of.

Renders `SortOrder`.
-/

namespace LogSearch

/-- The direction of a sort. -/
inductive SortOrder
  | asc
  | desc
deriving Repr, DecidableEq, Inhabited

namespace SortOrder

/-- The name of a direction. -/
def name : SortOrder → String
  | .asc => "ASC"
  | .desc => "DESC"

/-- The name of a direction in lower case, as a query body shows it. -/
def keyword : SortOrder → String
  | .asc => "asc"
  | .desc => "desc"

/-- The upper case form of a character as far as it consists of Latin letters: a character of
another kind is left as it is.  Beside `a` to `z` these are the long s, the dotless i and the
ligatures whose parts are Latin. -/
def latinUpper (c : Char) : List Char :=
  if c = 'ſ' then ['S']
  else if c = 'ı' then ['I']
  else if c = 'ß' then ['S', 'S']
  else if c = 'ﬀ' then ['F', 'F']
  else if c = 'ﬁ' then ['F', 'I']
  else if c = 'ﬂ' then ['F', 'L']
  else if c = 'ﬃ' then ['F', 'F', 'I']
  else if c = 'ﬄ' then ['F', 'F', 'L']
  else if c = 'ﬅ' || c = 'ﬆ' then ['S', 'T']
  else [c.toUpper]

/-- The direction that a text names. -/
def ofText? (s : String) : Option SortOrder :=
  let name := (Text.trim s.toList).flatMap latinUpper
  if name = ['A', 'S', 'C'] then some .asc
  else if name = ['D', 'E', 'S', 'C'] then some .desc
  else none

theorem ofText?_name (o : SortOrder) : ofText? o.name = some o := by
  cases o <;> decide

example : ofText? " aſc\n" = some .asc ∧ ofText? "up" = none := by decide

end SortOrder

end LogSearch
