import LogSearch.Http
import LogSearch.Message.Hit
import LogSearch.Query.Body

/-!
# Search backends

A search backend runs a query on some indices, and gives what it found and how much there is in
all.  A remote backend is reached by requests; whatever keeps it from answering is reported with the
indices that were asked.

Renders `ElasticsearchBackend`: `base_url` (`baseUrl`), `execute` (`executeOn`, `hits`, `hit`),
`_total_hits` (`total`) and `_error_reason` (`errorReason`).
-/

namespace LogSearch

/-- The collaborator that runs queries. -/
structure SearchBackend (σ : Type) where
  execute : BackendQuery → (indices : List String) → Flow σ (List Hit × Value)

/-- A backend that is reached by requests. -/
structure RemoteBackend where
  host : Value := .str "localhost"
  portNumber : Value := .int 9200
  scheme : Value := .str "http"
  timeout : Value := .float (.ofInt 60)

namespace RemoteBackend

/-- The address of a backend. -/
def baseUrl (b : RemoteBackend) : String :=
  b.scheme.plain ++ "://" ++ b.host.plain ++ ":" ++ b.portNumber.plain

/-- The indices as an address names them; no indices are all of them. -/
def target (indices : Value) : Except Fault String := do
  if indices.isTrue then Value.join "," indices else return "_all"

/-- The request that runs a query. -/
def request (b : RemoteBackend) (target : String) (body : Value) : HttpRequest where
  method := .post
  url := b.baseUrl ++ "/" ++ target ++ "/_search"
  params := lenientParams
  body := some body
  timeout := b.timeout

/-- The number of all messages, as a response tells it. -/
def total (v : Value) : Except Fault Int :=
  match v with
  | .map _ => do (← v.field "value" (.int 0)).toInt
  | v => if v.isTrue then v.toInt else .ok 0

/-- What went wrong, as a response tells it: a reason, or a type, or all it says; the start of the
body when it is not JSON. -/
def errorReason (r : HttpResponse) : Except Fault String :=
  match r.json with
  | .error fault =>
    if fault.kind.isValue then .ok (String.ofList (r.body.toList.take 200)) else .error fault
  | .ok body => do
    let error ← body.field "error" (.map [])
    match error with
    | .map _ =>
      let reason ← error.field "reason" .null
      if reason.isTrue then return reason.plain
      let type ← error.field "type" .null
      if type.isTrue then return type.plain
      return error.plain
    | error => return error.plain

/-- A hit as a response tells it. -/
def hit (v : Value) : Except Fault Hit := do
  return { id := ← v.field "_id" .null, index := ← v.field "_index" .null
           source := ← v.field "_source" .null, highlights := ← v.field "highlight" (.map []) }

/-- The hits, and the number of all messages, as a response tells them. -/
def hits (body : Value) : Except Fault (List Hit × Int) := do
  let listing ← body.field "hits" (.map [])
  let found ← (← (← listing.field "hits" (.list [])).elements).mapM hit
  return (found, ← total (← listing.field "total" (.int 0)))

variable {σ : Type}

/-- The report of a failed execution; the indices must be some that can be listed. -/
def failed (message : String) (status indices : Value) (cause : Option Failure) : Flow σ Failure :=
  return .search (.failedExecution (.str message) status (← Flow.ofFault indices.elements)) cause

/-- Runs a query on indices as they are given. -/
def executeOn (b : RemoteBackend) (client : HttpClient σ) (query : BackendQuery)
    (indices : Value) : Flow σ (List Hit × Int) := do
  let target ← Flow.ofFault (target indices)
  let body ← Flow.ofFault query.record
  let response ← Flow.handleFault (client.send (b.request target body)) fun fault => do
    unless fault.kind.isTransport do Flow.fail (.fault fault)
    Flow.fail (← failed ("Search request to " ++ target ++ " failed: " ++ fault.message) .null
      indices (some (.fault fault)))
  unless response.hasStatus 200 do
    let reason ← Flow.ofFault (errorReason response)
    Flow.fail (← failed
      ("Search on " ++ target ++ " returned " ++ response.status.plain ++ ": " ++ reason)
      response.status indices none)
  match response.json with
  | .error fault =>
    unless fault.kind.isValue do Flow.fail (.fault fault)
    Flow.fail (← failed ("Search on " ++ target ++ " returned invalid JSON") response.status
      indices (some (.fault fault)))
  | .ok body =>
    let (found, total) ← Flow.ofFault (hits body)
    Flow.log .debug ("Backend returned " ++ String.ofList (Text.decimal found.length) ++ "/" ++
      String.ofList (Text.integer total) ++ " hits from " ++ target)
    return (found, total)

/-- The backend as a collaborator. -/
def searchBackend (b : RemoteBackend) (client : HttpClient σ) : SearchBackend σ where
  execute query indices := do
    let (found, total) ← b.executeOn client query (.texts indices)
    return (found, .int total)

end RemoteBackend

end LogSearch
