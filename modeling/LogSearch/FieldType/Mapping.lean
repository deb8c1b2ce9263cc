import LogSearch.FieldType.Table
import LogSearch.Http
import LogSearch.IndexScope

/-!
# Field types from the mappings of indices

A search backend is asked how its indices map a field.  The field has a type when all indices that
map it to a type agree.  An index maps the field under the last part of its full name.

Renders `ElasticsearchFieldTypeResolver`: `resolve`.
-/

namespace LogSearch

/-- How the mappings of indices are asked for. -/
structure MappingLookup where
  baseUrl : String
  scope : IndexScope
  timeout : Value := .float (.ofInt 10)

namespace MappingLookup

/-- A lookup at an address, of which slashes at the end do not count. -/
def ofUrl (baseUrl : String) (scope : IndexScope) (timeout : Value := .float (.ofInt 10)) :
    MappingLookup :=
  ⟨String.ofList (baseUrl.toList.reverse.dropWhile (· == '/')).reverse, scope, timeout⟩

/-- The part of a name after its last dot. -/
def lastPart (name : List Char) : List Char :=
  (name.reverse.takeWhile (· != '.')).reverse

/-- The last part of the full name of a field, which must be a text. -/
def leafName : Value → Except Fault String
  | .str s => .ok (String.ofList (lastPart s.toList))
  | v => .error (.noAttribute v.fullKind "rsplit")

/-- The type that one index maps a field to. -/
def mappedType? (field index : Value) : Except Fault (Option Value) := do
  let mapped ← (← index.field "mappings" (.map [])).getOr field .null
  if !mapped.isTrue then return none
  let leaf ← leafName (← mapped.field "full_name" field)
  let mapping ← (← mapped.field "mapping" (.map [])).getOr (.str leaf) (.map [])
  if ← mapping.holds (.str "type") then
    let type ← mapping.item "type"
    type.fixed
    return some type
  else return none

/-- The distinct types that indices map a field to. -/
def mappedTypes (field body : Value) : Except Fault (List Value) := do
  let found ← (← body.values).mapM (mappedType? field)
  return Value.distinct (found.filterMap id)

/-- The names of the indices of some streams, as an address has them. -/
def target (m : MappingLookup) (streams : List Value) : Except Fault String :=
  (m.scope.patterns streams).map (",".intercalate ·)

/-- The request for the mappings of a field. -/
def request (m : MappingLookup) (target : String) (field : Value) : HttpRequest where
  method := .get
  url := m.baseUrl ++ "/" ++ target ++ "/_mapping/field/" ++ field.plain
  params := lenientParams
  timeout := m.timeout

variable {σ : Type}

/-- The mappings of a field; none when the backend does not know what is asked for. -/
def mappings (m : MappingLookup) (client : HttpClient σ) (target : String) (field : Value) :
    Flow σ (Option Value) := do
  let response ← client.send (m.request target field)
  if response.hasStatus 404 then return none
  Flow.ofFault response.raiseForStatus
  return some (← Flow.ofFault response.json)

/-- Whether a fault of this kind tells that the mappings could not be had. -/
def isLookupFault (kind : FaultKind) : Bool := kind.isTransport || kind.isValue

/-- The type of a field in some streams, if all indices that map the field agree. -/
def resolve (m : MappingLookup) (client : HttpClient σ) (streams : List Value) (field : Value) :
    Flow σ Value := do
  let target ← Flow.ofFault (m.target streams)
  let body ← Flow.handleFault (m.mappings client target field) fun fault => do
    unless isLookupFault fault.kind do Flow.fail (.fault fault)
    Flow.log .error ("Mapping lookup for '" ++ field.plain ++ "' on " ++ target ++
      " failed: " ++ fault.message)
    let streams ← Flow.ofFault (Sorted.sort streams)
    Flow.fail (.search (.unresolvedType field streams) (some (.fault fault)))
  match body with
  | none => return .null
  | some body =>
    let types ← Flow.ofFault (mappedTypes field body)
    if 1 < types.length then
      let sorted ← Flow.ofFault (Sorted.sort types)
      Flow.log .debug ("Field '" ++ field.plain ++ "' has conflicting types " ++
        (Value.list sorted).literal)
    return TypeTable.theOnly types

/-- The lookup as a collaborator. -/
def fieldTypes (m : MappingLookup) (client : HttpClient σ) : FieldTypes σ where
  resolve := m.resolve client

end MappingLookup

end LogSearch
