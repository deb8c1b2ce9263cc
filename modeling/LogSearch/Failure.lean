import LogSearch.Fault
import LogSearch.Json.Writer

/-!
# Failures of a search

A search fails with a *report*, which says what the search could not do and may name a cause, or
with a bare fault that nobody on the way made a report of.  A report has a message, a code for
machines and details; all three follow from what it reports.

Renders `SearchError` and its subclasses (`Report`), with `to_dict` (`record`) and `__str__`
(`text`).
-/

namespace LogSearch

/-- What a search could not do. -/
inductive Report
  /-- Any failure: a message, and a code and details that stand for the usual ones when they count
  as true. -/
  | general (message code detail : Value)
  | invalidSort (field order : Value) (reason : String)
  | unresolvedType (field : Value) (streams : List Value)
  | unparsedHit (id index : Value) (reason : String)
  | failedExecution (message status : Value) (indices : List Value)
  | failedDecoration (decorator : Value) (reason : String)
  | cancelled (search : Value)
deriving Inhabited

namespace Report

/-- The name of the kind of a report. -/
def name : Report → String
  | general _ _ _ => "SearchError"
  | invalidSort _ _ _ => "InvalidSortError"
  | unresolvedType _ _ => "ResolverError"
  | unparsedHit _ _ _ => "ParseError"
  | failedExecution _ _ _ => "BackendExecutionError"
  | failedDecoration _ _ => "DecorationError"
  | cancelled _ => "SearchCancelledError"

/-- The message of a report. -/
def message : Report → Value
  | general message _ _ => message
  | invalidSort field order reason =>
    .str (reason ++ ": field=" ++ field.literal ++ " order=" ++ order.literal)
  | unresolvedType field _ => .str ("Could not resolve type of field " ++ field.literal)
  | unparsedHit id index reason =>
    .str ("Could not parse hit " ++ id.literal ++ " from index " ++ index.literal ++ ": " ++ reason)
  | failedExecution message _ _ => message
  | failedDecoration decorator reason =>
    .str ("Decorator " ++ decorator.literal ++ " failed: " ++ reason)
  | cancelled search => .str ("Search " ++ search.literal ++ " was cancelled")

/-- The code of a report. -/
def code : Report → Value
  | general _ code _ => if code.isTrue then code else .str "search_error"
  | invalidSort _ _ _ => .str "invalid_sort"
  | unresolvedType _ _ => .str "field_type_resolution_failed"
  | unparsedHit _ _ _ => .str "hit_parse_failed"
  | failedExecution _ _ _ => .str "backend_execution_failed"
  | failedDecoration _ _ => .str "decoration_failed"
  | cancelled _ => .str "search_cancelled"

/-- The details of a report. -/
def detail : Report → Value
  | general _ _ detail => if detail.isTrue then detail else .map []
  | invalidSort field order _ => .record [("field", field), ("order", order)]
  | unresolvedType field streams => .record [("field", field), ("stream_ids", .list streams)]
  | unparsedHit id index _ => .record [("hit_id", id), ("index", index)]
  | failedExecution _ status indices => .record [("status", status), ("indices", .list indices)]
  | failedDecoration decorator _ => .record [("decorator", decorator)]
  | cancelled search => .record [("search_type_id", search)]

/-- What a report holds beside its message, code and details. -/
def attributes : Report → List (String × Value)
  | general _ _ _ => []
  | invalidSort field order _ => [("field", field), ("order", order)]
  | unresolvedType field streams => [("field", field), ("stream_ids", .list streams)]
  | unparsedHit id index _ => [("hit_id", id), ("index", index)]
  | failedExecution _ status _ => [("status", status)]
  | failedDecoration decorator _ => [("decorator_type", decorator)]
  | cancelled search => [("search_type_id", search)]

end Report

/-- How a search, or a step of one, fails. -/
inductive Failure
  | fault (fault : Fault)
  | search (report : Report) (cause : Option Failure)
deriving Inhabited

namespace Failure

/-- The name of the kind of a failure. -/
def name : Failure → String
  | fault f => f.kind.name
  | search report _ => report.name

/-- The message of a failure. -/
def message : Failure → Value
  | fault f => .str f.message
  | search report _ => report.message

/-- Whether a failure is a report of a search. -/
def isReport : Failure → Bool
  | fault _ => false
  | search _ _ => true

/-- A failure as a literal. -/
def literal : Failure → String
  | fault f => f.literal
  | search report _ =>
    report.name ++ "(code=" ++ report.code.literal ++ ", message=" ++ report.message.literal ++ ")"

/-- A report as a record, with the literal of its cause if it has one. -/
def record (report : Report) (cause : Option Failure) : Value :=
  .record ([("code", report.code), ("message", report.message), ("detail", report.detail)] ++
    match cause with
    | none => []
    | some c => [("cause", .str c.literal)])

/-- The text of a failure: that of a fault, or the record of a report as JSON.  A report whose details
have keys that JSON has not has no text. -/
def text : Failure → Except Fault String
  | fault f => .ok f.message
  | search report cause =>
    match Json.badKey? (record report cause) with
    | none => .ok (Json.line (record report cause))
    | some key => .error (.notJsonKey key.fullKind)

end Failure

/-- A report without a cause, as a failure. -/
def Report.failure (report : Report) : Failure := .search report none

/-- A fault, as the result of a step that may fail. -/
def Fault.raise {α : Type} (f : Fault) : Except Failure α := .error (.fault f)

/-- The outcome of a step whose only failures are faults. -/
def ofFaults {α : Type} (x : Except Fault α) : Except Failure α := x.mapError .fault

end LogSearch
