import LogSearch.Decoration.Config
import LogSearch.Sort.Clause
import LogSearch.Time.Range

/-!
# What is searched for

A `SearchSpec` says which messages are wanted: a query text in a time range and a set of streams,
sorted, cut to a page, with some fields only, and decorated.  It is made by `ofDraft`, which refuses
negative counts and drops repeats among fields and streams.

Renders `SearchSpec`: `__post_init__` and `_ordered_unique` (`ofDraft`).
-/

namespace LogSearch

/-- What a caller hands in for a search. -/
structure SearchDraft where
  id : Value
  timeRange : TimeRange
  queryString : Value := .str ""
  limit : Value := .int 0
  offset : Value := .int 0
  fields : Value := .tuple []
  sorts : List SortRequest := []
  streams : Value := .tuple []
  decorators : List DecoratorConfig := []
  name : Value := .null

/-- A search request. -/
structure SearchSpec where
  id : Value
  timeRange : TimeRange
  queryString : Value
  limit : Value
  offset : Value
  /-- The fields that are wanted, without repeats; all when there are none. -/
  fields : List Value
  sorts : List SortRequest
  /-- The streams that are searched, without repeats; all when there are none. -/
  streams : List Value
  decorators : List DecoratorConfig
  name : Value

namespace SearchSpec

/-- Checks that a count is not negative. -/
def checkCount (what : String) (given : Value) : Except Fault Unit := do
  if ← given.less (.int 0) then throw (.negative what given)

/-- The request that a caller hands in, checked. -/
def ofDraft (draft : SearchDraft) : Except Fault SearchSpec := do
  checkCount "limit" draft.limit
  checkCount "offset" draft.offset
  let fields ← draft.fields.elementSet
  let streams ← draft.streams.elementSet
  return { draft with fields, streams }

end SearchSpec

end LogSearch
