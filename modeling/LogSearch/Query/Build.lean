import LogSearch.Flow
import LogSearch.Query.Body
import LogSearch.Sort.Normalize
import LogSearch.Spec
import LogSearch.Time.Stamp
import LogSearch.Value.Sorted

/-!
# Building a query

A search request becomes a query: its sorts are checked before anything else, its time range and
streams become filters, its text is searched for as it is, and each sort gets the type that its
field is known to have.  The types come from a collaborator, which is asked once for each sort, in
order, and whose first failure ends the building.

Renders `QueryBuilder`: `build`, `_field_sort` (`fieldSort`), `_base_query` (`baseQuery`) and
`_query_string_query` (`textQuery`); `FieldTypeResolverProtocol` (`FieldTypes`).
-/

namespace LogSearch

/-- The collaborator that knows the types of fields. -/
structure FieldTypes (σ : Type) where
  /-- The type of a field in some streams; nothing, or an empty name, when it is not known. -/
  resolve : (streams : List Value) → (field : Value) → Flow σ Value

/-- How queries are built. -/
structure QueryBuilder where
  highlighting : Bool := false
  sortFields : SortFields := {}

namespace QueryBuilder

/-- The field whose type is known beforehand, because old indices do not know it. -/
def sequenceField : String := "gl2_message_id"

/-- The type of that field. -/
def sequenceType : String := "keyword"

/-- The query that finds every message. -/
def matchAll : Value := .record [("match_all", .map [])]

/-- The query for a text as it is given. -/
def matchText (text : Value) : Value :=
  .record [("query_string",
    .record [("query", text), ("allow_leading_wildcard", .bool true)])]

/-- Whether a byte is white space. -/
def isBlankByte (b : UInt8) : Bool := b = 32 || (9 ≤ b && b ≤ 13)

/-- The query for a text: every message when the text is blank or a star. -/
def textQuery (text : Value) : Except Fault Value :=
  match text with
  | .str s =>
    let trimmed := Text.trim s.toList
    if trimmed.isEmpty || trimmed == ['*'] then .ok matchAll else .ok (matchText text)
  | .bytes octets => if octets.all isBlankByte then .ok matchAll else .ok (matchText text)
  | v => .error (.noAttribute v.fullKind "strip")

/-- The filter by a time range. -/
def rangeFilter (r : TimeRange) : Value :=
  .record [("range", .record [("timestamp", .record
    [("gte", .str (Stamp.write r.first)), ("lte", .str (Stamp.write r.last)),
      ("format", .str "yyyy-MM-dd HH:mm:ss.SSS")])])]

/-- The filter by streams, which names them in order; none when all streams are searched. -/
def streamFilter (streams : List Value) : Except Fault (List Value) :=
  if streams.isEmpty then .ok []
  else do
    let sorted ← Sorted.sort streams
    return [.record [("terms", .record [("streams", .list sorted)])]]

/-- What is searched for. -/
def baseQuery (spec : SearchSpec) : Except Fault Value := do
  let streams ← streamFilter spec.streams
  let must ← textQuery spec.queryString
  return .record [("bool",
    .record [("must", must), ("filter", .list (rangeFilter spec.timeRange :: streams))])]

/-- The highlighting of what a text finds, in every field. -/
def highlightFor (text : Value) : Except Fault Highlight := do
  return { query := ← textQuery text }

/-- What a query highlights, if anything. -/
def highlight? (b : QueryBuilder) (text : Value) : Except Fault (Option Highlight) :=
  if b.highlighting then (highlightFor text).map some else .ok none

/-- The query for a search request, made of what is searched for, its sorts and its highlighting. -/
def combined (spec : SearchSpec) (query : Value) (sorts : List FieldSort)
    (highlight : Option Highlight) : BackendQuery :=
  { query, size := spec.limit, start := spec.offset, sorts, highlight
    sourceIncludes := if spec.fields.isEmpty then none else some (.tuple spec.fields) }

variable {σ : Type}

/-- A sort with the type of its field.  A fault of the collaborator becomes a report. -/
def fieldSort (types : FieldTypes σ) (spec : SearchSpec) (c : SortClause) : Flow σ FieldSort := do
  if c.field = sequenceField then
    return ⟨.str c.field, .order c.order, some (.str sequenceType)⟩
  let type ← Flow.handleFault (types.resolve spec.streams (.str c.field)) fun fault => do
    Flow.log .error ("Field type lookup for '" ++ c.field ++ "' failed: " ++ fault.message)
    let streams ← Flow.ofFault (Sorted.sort spec.streams)
    Flow.fail (.search (.unresolvedType (.str c.field) streams) (some (.fault fault)))
  return ⟨.str c.field, .order c.order, if type.isTrue then some type else none⟩

/-- The sorts of a query; a sort that is added to keep messages in order is logged. -/
def sortClauses (b : QueryBuilder) (clauses : List SortClause) : Flow σ (List SortClause) := do
  let sorts ← Flow.ofExcept (b.sortFields.normalizeClauses clauses)
  if let some (field, order) := b.sortFields.tieBreak? (SortClause.firsts clauses) then
    Flow.log .debug ("Added tie-break sort on " ++ field.plain ++ " (" ++ order.name ++ ")")
  return sorts

/-- The query for a search request. -/
def build (b : QueryBuilder) (spec : SearchSpec) (types : FieldTypes σ) : Flow σ BackendQuery := do
  let clauses ← Flow.ofExcept (spec.sorts.mapM SortRequest.check)
  let query ← Flow.ofFault (baseQuery spec)
  let sorts ← b.sortClauses clauses
  let sorts ← sorts.mapM (fieldSort types spec)
  let highlight ← Flow.ofFault (b.highlight? spec.queryString)
  let built := combined spec query sorts highlight
  let body ← Flow.ofFault built.record
  Flow.log .debug ("Compiled query for " ++ spec.id.plain ++ ": " ++ body.literal)
  return built

end QueryBuilder

end LogSearch
