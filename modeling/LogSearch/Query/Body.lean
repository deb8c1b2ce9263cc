import LogSearch.Value.Access

/-!
# The body of a query

A `BackendQuery` is a query as the search backend takes it, and `record` is the body that is sent:
what is searched for, the first message, how many, which fields, in what order, and what is to be
highlighted.  Parts that ask for nothing are left out, and so is a size of zero, which leaves the
number of messages to the backend.

Renders `FieldSort`, `Highlight` and `BackendQuery`, with `to_dict` (`record`).
-/

namespace LogSearch

/-- A sort by one field, with the type to assume where an index does not know the field. -/
structure FieldSort where
  field : Value
  order : Value
  unmappedType : Option Value := none
deriving Inhabited

/-- What is highlighted in the messages that are found. -/
structure Highlight where
  query : Value
  fields : Value := .tuple [.str "*"]
  requireFieldMatch : Value := .bool false
  fragmentSize : Value := .int 0
  numberOfFragments : Value := .int 0
deriving Inhabited

/-- A query as the search backend takes it. -/
structure BackendQuery where
  query : Value := .record [("match_all", .map [])]
  size : Value := .int 0
  start : Value := .int 0
  sourceIncludes : Option Value := none
  sorts : List FieldSort := []
  highlight : Option Highlight := none
deriving Inhabited

namespace FieldSort

/-- The direction of a sort as the body of a query names it. -/
def keyword : Value → Except Fault String
  | .order o => .ok o.keyword
  | v => .error (.noAttribute v.fullKind "value")

/-- The type to assume, as an option of a sort. -/
def typeOption (s : FieldSort) : List (String × Value) :=
  match s.unmappedType with
  | none => []
  | some type => [("unmapped_type", type)]

/-- A sort in the body of a query. -/
def record (s : FieldSort) : Except Fault Value := do
  let order ← keyword s.order
  s.field.fixed
  return .map [(s.field, .record (("order", .str order) :: s.typeOption))]

end FieldSort

namespace Highlight

/-- A highlight in the body of a query: the same options for each field, without repeats. -/
def record (h : Highlight) : Except Fault Value := do
  let options : Value := .record
    [("fragment_size", h.fragmentSize), ("number_of_fragments", h.numberOfFragments)]
  let names ← h.fields.elementSet
  return .record [("require_field_match", h.requireFieldMatch), ("highlight_query", h.query),
    ("fields", .map (names.map fun name => (name, options)))]

end Highlight

namespace BackendQuery

/-- The body of a query. -/
def record (q : BackendQuery) : Except Fault Value := do
  let size := if q.size.isTrue then [("size", q.size)] else []
  let source ← match q.sourceIncludes with
    | none => .ok []
    | some names => do
      let names ← names.elements
      .ok [("_source", Value.record [("includes", .list names), ("excludes", .list [])])]
  let sort ← if q.sorts.isEmpty then .ok [] else do
    let sorts ← q.sorts.mapM FieldSort.record
    .ok [("sort", Value.list sorts)]
  let highlight ← match q.highlight with
    | none => .ok []
    | some h => do
      let h ← h.record
      .ok [("highlight", h)]
  return .record ([("query", q.query), ("from", q.start)] ++ size ++ source ++ sort ++ highlight ++
    [("track_total_hits", .bool true)])

end BackendQuery

end LogSearch
