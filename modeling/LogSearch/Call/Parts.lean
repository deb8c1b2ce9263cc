import LogSearch.Backend.Remote
import LogSearch.Call.Signature
import LogSearch.Decoration.Config
import LogSearch.FieldType.Mapping
import LogSearch.Sort.Normalize

/-!
# Parts made from arguments

The parts of a search may be made by a caller who knows them by the names of their arguments only.
Each of them has a signature, which fits the arguments or says why they do not.

Renders the constructors of `IndexScope`, `ElasticsearchBackend`, `ElasticsearchFieldTypeResolver`,
`Highlight`, `DecoratorConfig`, `FieldSort`, `SortClause` and the subclasses of `SearchError`, as
they take keyword arguments.
-/

namespace LogSearch

/-- A map of a scope: nothing, and anything that counts as nothing, is an empty one. -/
def IndexScope.readMap (v : Value) : Except Fault Entries := if v.isTrue then v.toEntries else .ok []

/-- The scope that arguments make. -/
def IndexScope.ofArguments (given : Signature.Given) : Except Fault IndexScope := do
  let signature : Signature :=
    { subject := "IndexScope.__init__"
      placed := [optional "default_prefix" (.str "graylog"), optional "stream_prefixes"] }
  let argument ← signature.bind [] given
  return ⟨argument "default_prefix", ← readMap (argument "stream_prefixes")⟩

/-- The backend that arguments make. -/
def RemoteBackend.ofArguments (given : Signature.Given) : Except Fault RemoteBackend := do
  let usual : RemoteBackend := {}
  let signature : Signature :=
    { subject := "ElasticsearchBackend.__init__"
      placed := [optional "host" usual.host, optional "port" usual.portNumber,
        optional "scheme" usual.scheme, optional "timeout" usual.timeout] }
  let argument ← signature.bind [] given
  return ⟨argument "host", argument "port", argument "scheme", argument "timeout"⟩

/-- The lookup at an address that is given as a value, of which slashes at the end do not count. -/
def MappingLookup.ofAddress (address : Value) (scope : IndexScope) (timeout : Value) :
    Except Fault MappingLookup :=
  match address with
  | .str url => .ok (ofUrl url scope timeout)
  | .bytes _ => .error (.notPartOfBytes "str")
  | v => .error (.noAttribute v.fullKind "rstrip")

/-- The highlight that arguments make. -/
def Highlight.ofArguments (given : Signature.Given) : Except Fault Highlight := do
  let usual : Highlight := { query := .null }
  let signature : Signature :=
    { subject := "Highlight.__init__"
      placed := [required "highlight_query", optional "fields" usual.fields,
        optional "require_field_match" usual.requireFieldMatch,
        optional "fragment_size" usual.fragmentSize,
        optional "number_of_fragments" usual.numberOfFragments] }
  let argument ← signature.bind [] given
  return ⟨argument "highlight_query", argument "fields", argument "require_field_match",
    argument "fragment_size", argument "number_of_fragments"⟩

/-- The settings of a decorator that arguments make. -/
def DecoratorConfig.ofArguments (given : Signature.Given) : Except Fault DecoratorConfig := do
  let usual : DecoratorConfig := { type := .null }
  let signature : Signature :=
    { subject := "DecoratorConfig.__init__"
      placed := [required "type", optional "config" usual.config, optional "order" usual.order,
        optional "id" usual.id] }
  let argument ← signature.bind [] given
  return ⟨argument "type", argument "config", argument "order", argument "id"⟩

/-- The sort of a query that arguments make. -/
def FieldSort.ofArguments (args : List Value) : Except Fault FieldSort := do
  let signature : Signature :=
    { subject := "FieldSort.__init__"
      placed := [required "field", required "order", optional "unmapped_type"] }
  let argument ← signature.bind args []
  return ⟨argument "field", argument "order",
    match argument "unmapped_type" with
    | .null => none
    | type => some type⟩

/-- The clause that arguments make. -/
def SortClause.ofArguments (args : List Value) : Except Failure SortClause := do
  let signature : Signature :=
    { subject := "SortClause.create"
      placed := [required "field", optional "order" (.order .desc)] }
  let argument ← ofFaults (signature.bind args [])
  create (argument "field") (argument "order")

namespace Report

/-- What the reports of a kind take: by place or by name, and by name only. -/
def parameters : String → List Parameter × List Parameter
  | "InvalidSortError" =>
    ([required "field", optional "order", optional "reason" (.str "invalid sort")], [])
  | "ResolverError" => ([required "field", required "stream_ids", optional "cause"], [])
  | "ParseError" =>
    ([required "hit_id", required "index", required "reason", optional "cause"], [])
  | "BackendExecutionError" =>
    ([required "message"], [optional "status", optional "indices" (.tuple []), optional "cause"])
  | "DecorationError" => ([required "decorator_type", required "reason", optional "cause"], [])
  | "SearchCancelledError" => ([required "search_type_id"], [])
  | _ => ([required "message"], [optional "code", optional "detail", optional "cause"])

/-- The report of a kind that arguments make.  A cause that is a failure is given by name, as nothing;
any other value is no cause. -/
def ofArguments (kind : String) (args : List Value) (given : Signature.Given) :
    Except Fault Report := do
  let (placed, named) := parameters kind
  let signature : Signature := { subject := kind ++ ".__init__", placed, named }
  let argument ← signature.bind args given
  let report ← match kind with
    | "InvalidSortError" =>
      pure (invalidSort (argument "field") (argument "order") (argument "reason").plain)
    | "ResolverError" => do
      let streams ← (argument "stream_ids").elements >>= Sorted.sort
      pure (unresolvedType (argument "field") streams)
    | "ParseError" =>
      pure (unparsedHit (argument "hit_id") (argument "index") (argument "reason").plain)
    | "BackendExecutionError" => do
      let indices ← (argument "indices").elements
      pure (failedExecution (argument "message") (argument "status") indices)
    | "DecorationError" =>
      pure (failedDecoration (argument "decorator_type") (argument "reason").plain)
    | "SearchCancelledError" => pure (cancelled (argument "search_type_id"))
    | _ => pure (general (argument "message") (argument "code") (argument "detail"))
  match argument "cause" with
  | .null => return report
  | _ => throw (.arguments "exception cause must be None or derive from BaseException")

end Report

end LogSearch
