import LogSearch.Proofs.Backend.Refusal
import LogSearch.Proofs.Failure
import LogSearch.Proofs.Flow.Outcome

/-!
# How a query ends

A query that is run on a remote backend finds what the response lists, or it fails; and when it fails with
a report, the report has a text.

Main statement: `RemoteBackend.yields_executeOn`.
-/

namespace LogSearch.RemoteBackend

open LogSearch.Flow (Ends Yields)

variable {σ : Type} {b : RemoteBackend} {client : HttpClient σ} {query : BackendQuery}
  {indices : List String} {body : Value} {w v : σ}

/-- A response that lists what a query found. -/
structure Lists (response : HttpResponse) (body : Value) (result : List Hit × Int) : Prop where
  fine : response.hasStatus 200 = true
  json : response.json = .ok body
  isHits : hits body = .ok result

theorem Lists.read {response : HttpResponse} {result : List Hit × Int} (lists : Lists response body result) :
    Json.read response.body = .ok body := by
  have json := lists.json
  unfold HttpResponse.json at json
  cases read : Json.read response.body with
  | error e =>
    rw [read] at json
    cases json
  | ok v =>
    rw [read] at json
    exact congrArg Except.ok (Except.ok.inj json)

/-- A report of a failed execution has a text. -/
theorem yields_failed {α : Type} {P : α → σ → Prop} (message : String) {status : Value}
    (indices : List String) (cause : Option Failure) (written : Json.badKey? status = none) :
    (failed message status (.texts indices) cause >>= Flow.fail).Yields w P
      (fun e u => u = w ∧ e.HasText) :=
  ((ends_failed message status indices cause w).bind (.fail _ w)).yields_error
    ⟨rfl, Failure.hasText_failedExecution message indices cause written⟩

/-- A request that fails with another fault fails with that. -/
theorem ends_executeOn_lost {fault : Fault} (isBody : query.record = .ok body)
    (sent : Ends (client.send (b.request (address indices) body)) w (.error (.fault fault)) v)
    (other : ¬ fault.kind.isTransport = true) :
    Ends (b.executeOn client query (.texts indices)) w (.error (.fault fault)) v := by
  unfold executeOn
  refine (Ends.ofFault (congrArg ofFaults (target_texts indices)) w).bind ?_
  refine (Ends.ofFault (congrArg ofFaults isBody) w).bind ?_
  refine Ends.bind_error (sent.handleFault_fault ?_)
  rw [if_neg other]
  exact (Ends.fail _ v).bind_error

/-- Whatever the answer to its request, a query finds what is listed there or fails with what has a
text. -/
theorem yields_executeOn {answer : Except Fault HttpResponse} (isBody : query.record = .ok body)
    (sent : Ends (client.send (b.request (address indices) body)) w (ofFaults answer) v)
    (numbered : ∀ response, answer = .ok response → ∃ n, response.status = .int n) :
    (b.executeOn client query (.texts indices)).Yields w
      (fun result u => u = v ∧ ∃ response body, answer = .ok response ∧ Lists response body result)
      (fun e u => u = v ∧ e.HasText) := by
  cases answer with
  | error fault =>
    by_cases transport : fault.kind.isTransport = true
    · refine (ends_executeOn_unsent isBody sent transport).yields_error ⟨rfl, ?_⟩
      exact Failure.hasText_failedExecution _ indices _ rfl
    · exact (ends_executeOn_lost isBody sent transport).yields_error ⟨rfl, Failure.hasText_fault fault⟩
  | ok response =>
    obtain ⟨status, isStatus⟩ := numbered response rfl
    have written : Json.badKey? response.status = none := by rw [isStatus]; rfl
    cases fine : response.hasStatus 200 with
    | false =>
      refine (ends_executeOn_refused isBody sent fine).yields_error ⟨rfl, ?_⟩
      cases errorReason response with
      | error fault => exact Failure.hasText_fault fault
      | ok reason => exact Failure.hasText_failedExecution _ indices none written
    | true =>
      unfold executeOn
      refine .ofFault_bind (target_texts indices) ?_
      refine .ofFault_bind isBody ?_
      refine (sent.handleFault_of_ne nofun).bind_yields ?_
      rw [if_pos fine]
      cases json : response.json with
      | error fault =>
        dsimp only
        by_cases isValue : fault.kind.isValue = true
        · rw [if_pos isValue]
          exact yields_failed _ indices _ written
        · rw [if_neg isValue]
          exact .fail_bind ⟨rfl, Failure.hasText_fault fault⟩
      | ok body =>
        cases isHits : hits body with
        | error fault =>
          refine .ofFault_bind_error isHits ⟨rfl, ?_⟩
          exact Failure.hasText_fault fault
        | ok result =>
          refine .ofFault_bind isHits ?_
          exact .log_bind (.pure ⟨rfl, response, body, rfl, fine, json, isHits⟩)

end LogSearch.RemoteBackend
