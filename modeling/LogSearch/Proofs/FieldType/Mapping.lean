import LogSearch.FieldType.Mapping
import LogSearch.Proofs.Flow
import LogSearch.Proofs.Value.Sorted

/-!
# A lookup asks once

A lookup of the type of a field sends one request, whatever becomes of it, and what it gives is made of
the answer alone.

Main statement: `ends_resolve`.
-/

namespace LogSearch.MappingLookup

open LogSearch.Flow (Ends)

/-- The mappings that a response holds; none where what is asked for is not known. -/
def mappingsIn (r : HttpResponse) : Except Fault (Option Value) := do
  if r.hasStatus 404 then return none
  r.raiseForStatus
  return some (← r.json)

/-- The type that there is just one of.  Types that there are more of must have an order, in which they
are logged. -/
def agreed (types : List Value) : Except Fault Value := do
  if 1 < types.length then
    let _ ← Sorted.sort types
  return TypeTable.theOnly types

/-- The type that mappings agree on. -/
def typeIn (field body : Value) : Except Fault Value := do agreed (← mappedTypes field body)

/-- How the failure of a request comes up: a fault that tells that the mappings could not be had is
reported. -/
def requestFailure (streams : List String) (field : Value) : Failure → Failure
  | .fault fault =>
    if isLookupFault fault.kind then
      .search (.unresolvedType field ((Sorted.stable Text.codes streams).map .str)) (some (.fault fault))
    else .fault fault
  | report => report

/-- What a lookup makes of the answer to its request. -/
def reading (streams : List String) (field : Value) (answer : Except Failure HttpResponse) :
    Except Failure Value :=
  match answer >>= fun r => ofFaults (mappingsIn r) with
  | .ok none => .ok .null
  | .ok (some body) => ofFaults (typeIn field body)
  | .error failure => .error (requestFailure streams field failure)

variable {σ : Type} {m : MappingLookup} {client : HttpClient σ} {target : String} {field : Value}
  {answer : Except Failure HttpResponse} {w v : σ}

theorem ends_mappings (sent : Ends (client.send (m.request target field)) w answer v) :
    Ends (m.mappings client target field) w (answer >>= fun r => ofFaults (mappingsIn r)) v := by
  unfold mappings
  cases answer with
  | error failure => exact sent.bind_error
  | ok r =>
    refine sent.bind ?_
    change Ends _ v (ofFaults (mappingsIn r)) v
    unfold mappingsIn
    by_cases unknown : r.hasStatus 404 = true
    · rw [if_pos unknown, if_pos unknown]
      exact .pure none v
    · rw [if_neg unknown, if_neg unknown]
      cases raised : r.raiseForStatus with
      | error fault => exact (Ends.ofFault rfl v).bind_error
      | ok =>
        refine (Ends.ofFault rfl v).bind ?_
        cases json : r.json with
        | error fault => exact (Ends.ofFault rfl v).bind_error
        | ok body => exact (Ends.ofFault rfl v).bind (.pure _ v)

theorem ends_resolve_failed {streams : List String} {failure : Failure}
    (isTarget : m.target (streams.map .str) = .ok target)
    (asked : Ends (m.mappings client target field) w (.error failure) v) :
    Ends (m.resolve client (streams.map .str) field) w
      (.error (requestFailure streams field failure)) v := by
  unfold resolve
  refine (Ends.ofFault (congrArg ofFaults isTarget) w).bind ?_
  refine Ends.bind_error ?_
  cases failure with
  | search report cause => exact asked.handleFault_of_ne nofun
  | fault fault =>
    refine asked.handleFault_fault ?_
    unfold requestFailure
    by_cases lookup : isLookupFault fault.kind = true
    · rw [if_pos lookup]
      dsimp only
      rw [if_pos lookup]
      refine (Ends.log _ _ v).bind ?_
      exact (Ends.ofFault (congrArg ofFaults (Sorted.sort_texts streams)) v).bind (.fail _ v)
    · rw [if_neg lookup]
      dsimp only
      rw [if_neg lookup]
      exact (Ends.fail _ v).bind_error

theorem ends_resolve_mapped {streams : List Value} {body : Value}
    (isTarget : m.target streams = .ok target)
    (asked : Ends (m.mappings client target field) w (.ok (some body)) v) :
    Ends (m.resolve client streams field) w (ofFaults (typeIn field body)) v := by
  unfold resolve typeIn
  refine (Ends.ofFault (congrArg ofFaults isTarget) w).bind ?_
  refine (asked.handleFault_of_ne nofun).bind ?_
  dsimp only
  cases mappedTypes field body with
  | error fault => exact (Ends.ofFault rfl v).bind_error
  | ok types =>
    refine (Ends.ofFault rfl v).bind ?_
    change Ends _ v (ofFaults (agreed types)) v
    unfold agreed
    by_cases several : 1 < types.length
    · rw [if_pos several, if_pos several]
      cases Sorted.sort types with
      | error fault => exact (Ends.ofFault rfl v).bind_error
      | ok shown => exact (Ends.ofFault rfl v).bind ((Ends.log _ _ v).bind (.pure _ v))
    · rw [if_neg several, if_neg several]
      exact .pure _ v

/-- A lookup sends one request, and makes its result of the answer. -/
theorem ends_resolve {streams : List String} (isTarget : m.target (streams.map .str) = .ok target)
    (sent : Ends (client.send (m.request target field)) w answer v) :
    Ends (m.resolve client (streams.map .str) field) w (reading streams field answer) v := by
  have asked := ends_mappings sent
  unfold reading
  cases found : answer >>= fun r => ofFaults (mappingsIn r) with
  | error failure =>
    rw [found] at asked
    exact ends_resolve_failed isTarget asked
  | ok body =>
    rw [found] at asked
    cases body with
    | some body => exact ends_resolve_mapped isTarget asked
    | none =>
      unfold resolve
      refine (Ends.ofFault (congrArg ofFaults isTarget) w).bind ?_
      exact (asked.handleFault_of_ne nofun).bind (.pure _ v)

end LogSearch.MappingLookup
