import LogSearch.Value.Basic

/-!
# Settings of decorators

Renders `DecoratorConfig`.
-/

namespace LogSearch

/-- The settings of one decorator: the name of its type, what it is to do, its place in the order
of decorators, and a name of its own. -/
structure DecoratorConfig where
  type : Value
  config : Value := .map []
  order : Value := .int 0
  id : Value := .null
deriving Inhabited

end LogSearch
