import LogSearch.Value.Sorted

/-!
# Where messages are kept

The messages of a stream are kept in indices that share a name in front.  An `IndexScope` knows that
name for some streams, and has one for all others.  The indices of a set of streams are named by
patterns, in order and without repeats.

Renders `IndexScope`: `prefixes` (`names`) and `__call__` (`patterns`).
-/

namespace LogSearch

/-- Where the messages of streams are kept. -/
structure IndexScope where
  /-- What the names of the indices of other streams start with. -/
  default : Value := .str "graylog"
  /-- What the names of the indices of some streams start with. -/
  ofStream : Entries := []

namespace IndexScope

/-- What the names of the indices of a stream start with. -/
def nameOf (scope : IndexScope) (stream : Value) : Value :=
  (Entries.get? scope.ofStream stream).getD scope.default

/-- Names in ascending order, without repeats.  Names that are no texts may have no order. -/
def inOrder (names : List Value) : Except Fault (List Value) := do
  names.forM Value.fixed
  Sorted.sort (Value.distinct names)

/-- What the names of the indices of some streams start with. -/
def names (scope : IndexScope) (streams : List Value) : Except Fault (List Value) :=
  if streams.isEmpty then .ok [scope.default] else inOrder (streams.map scope.nameOf)

/-- The pattern of the names that start in some way. -/
def pattern (name : Value) : String := name.plain ++ "_*"

/-- The patterns that the names of the indices of some streams match. -/
def patterns (scope : IndexScope) (streams : List Value) : Except Fault (List String) :=
  (scope.names streams).map (·.map pattern)

end IndexScope

end LogSearch
