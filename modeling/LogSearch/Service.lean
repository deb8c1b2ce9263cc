import LogSearch.Assembly
import LogSearch.Backend.Remote
import LogSearch.IndexScope
import LogSearch.Query.Build

/-!
# Searching

A search builds a query, runs it on the indices of its streams, and assembles the answer.  Each step
asks one collaborator, and the first that fails ends the search; a failure that is no report becomes
one on the way.

Renders `MessageListService.search`.
-/

namespace LogSearch

/-- Everything that a search needs. -/
structure SearchService (σ : Type) where
  builder : QueryBuilder
  fieldTypes : FieldTypes σ
  backend : SearchBackend σ
  decorators : ResponseDecorators σ
  scope : IndexScope

namespace SearchService

/-- The start of a query text, as the log shows it. -/
def excerpt : Value → Except Fault String
  | .str s => .ok (String.ofList (s.toList.take 50))
  | .bytes octets => .ok (Value.literal (.bytes (octets.take 50)))
  | v => .error (.notSubscriptable v.fullKind)

variable {σ : Type}

/-- Runs the query of a search.  A fault becomes a report. -/
def execute (s : SearchService σ) (spec : SearchSpec) (query : BackendQuery)
    (indices : List String) : Flow σ (List Hit × Value) :=
  Flow.handleFault (s.backend.execute query indices) fun fault => do
    Flow.log .error ("Search " ++ spec.id.plain ++ " failed on " ++
      (Value.texts indices).literal ++ ": " ++ fault.message)
    Flow.fail (.search (.failedExecution (.str fault.message) .null (indices.map .str))
      (some (.fault fault)))

/-- Searches. -/
def search (s : SearchService σ) (spec : SearchSpec) (signal : Option (Cancellation σ)) :
    Flow σ Envelope := do
  let query ← s.builder.build spec s.fieldTypes
  let indices ← Flow.ofFault (s.scope.patterns spec.streams)
  let (hits, total) ← s.execute spec query indices
  let excerpt ← Flow.ofFault (excerpt spec.queryString)
  Flow.log .info ("Search " ++ spec.id.plain ++ ": " ++
    String.ofList (Text.decimal hits.length) ++ " hits of " ++ total.plain ++ " for '" ++ excerpt ++
    "'")
  Assembly.assemble spec hits total spec.timeRange s.decorators signal

end SearchService

end LogSearch
