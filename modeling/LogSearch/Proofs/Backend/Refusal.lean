import LogSearch.Proofs.Backend.Remote
import LogSearch.Proofs.Flow
import Mathlib

/-!
# When a remote backend refuses a query

A response whose status is not 200 is a refusal.  Its body may be anything, and is looked at for the
reason: a map tells it, and where the body is not JSON its start is shown.  JSON that is no map, and
JSON that is too deep to be read, make a fault of their own, with which the status is lost.

Main statement: `executeOn_refused`.
-/

namespace LogSearch.RemoteBackend

open LogSearch.Flow (Ends)

/-- What a map tells under a name, unless it counts as nothing. -/
def stated (entries : Entries) (name : String) : Option Value :=
  (Entries.get? entries (.str name)).filter Value.isTrue

/-- What an error tells: its reason, or else its type, or else the whole of it. -/
def explanation : Value → Value
  | .map entries => ((stated entries "reason").or (stated entries "type")).getD (.map entries)
  | error => error

section Reason

variable {r : HttpResponse} {entries : Entries} {body : Value} {e : Json.Error}

theorem stated_of_isTrue {name : String} {v : Value}
    (h : (Entries.get? entries (.str name)).getD .null = v) :
    stated entries name = if v.isTrue then some v else none := by
  subst h
  unfold stated
  cases Entries.get? entries (.str name) with
  | none => rfl
  | some v => cases told : v.isTrue <;> simp [told]

theorem errorReason_of_map (read : Json.read r.body = .ok (.map entries)) :
    errorReason r =
      .ok (explanation ((Entries.get? entries (.str "error")).getD (.map []))).plain := by
  have json : r.json = .ok (.map entries) := congrArg (Except.mapError _) read
  unfold errorReason
  rw [json]
  simp only [Value.field_map, bind, Except.bind]
  generalize (Entries.get? entries (.str "error")).getD (.map []) = error
  cases error with
  | map told =>
    dsimp only [explanation]
    simp only [Value.field_map, stated_of_isTrue rfl]
    cases ((Entries.get? told (.str "reason")).getD .null).isTrue with
    | true => rfl
    | false => cases ((Entries.get? told (.str "type")).getD .null).isTrue <;> rfl
  | _ => rfl

theorem errorReason_of_other (read : Json.read r.body = .ok body) (isOther : ¬ body.IsMap) :
    errorReason r = .error (.noAttribute body.fullKind "get") := by
  have json : r.json = .ok body := congrArg (Except.mapError _) read
  unfold errorReason
  rw [json]
  simp only [Value.field_of_other isOther, bind, Except.bind]

/-- Of what keeps a body from being read as JSON, only its depth is not a value that does not fit. -/
theorem isValue_body (e : Json.Error) : (Fault.body e).kind.isValue = !e.isDepth := by
  obtain ⟨problem, line, column, position⟩ := e
  cases problem <;> rfl

theorem errorReason_of_text (read : Json.read r.body = .error e) (shallow : e.isDepth = false) :
    errorReason r = .ok (String.ofList (r.body.toList.take 200)) := by
  have json : r.json = .error (.body e) := congrArg (Except.mapError _) read
  unfold errorReason
  rw [json]
  dsimp only
  rw [isValue_body, shallow]
  rfl

theorem errorReason_of_depth (read : Json.read r.body = .error e) (deep : e.isDepth = true) :
    errorReason r = .error (.body e) := by
  have json : r.json = .error (.body e) := congrArg (Except.mapError _) read
  unfold errorReason
  rw [json]
  dsimp only
  rw [isValue_body, deep]
  rfl

end Reason

/-- The failure of a query that is refused for a reason. -/
def refusal (indices : List String) (response : HttpResponse) (reason : String) : Failure :=
  .search (.failedExecution
    (.str ("Search on " ++ address indices ++ " returned " ++ response.status.plain ++ ": " ++ reason))
    response.status (indices.map .str)) none

/-- The failure of a query whose request fails. -/
def unsent (indices : List String) (fault : Fault) : Failure :=
  .search (.failedExecution
    (.str ("Search request to " ++ address indices ++ " failed: " ++ fault.message))
    .null (indices.map .str)) (some (.fault fault))

section Ends

variable {σ : Type} {b : RemoteBackend} {client : HttpClient σ} {query : BackendQuery}
  {indices : List String} {body : Value} {response : HttpResponse} {w v : σ}

theorem ends_failed (message : String) (status : Value) (indices : List String)
    (cause : Option Failure) (w : σ) :
    Ends (failed message status (.texts indices) cause) w
      (.ok (.search (.failedExecution (.str message) status (indices.map .str)) cause)) w :=
  (Ends.ofFault rfl w).bind (.pure _ w)

/-- A request that fails on its way is reported, with the failure for a cause. -/
theorem ends_executeOn_unsent {fault : Fault} (isBody : query.record = .ok body)
    (sent : Ends (client.send (b.request (address indices) body)) w (.error (.fault fault)) v)
    (transport : fault.kind.isTransport = true) :
    Ends (b.executeOn client query (.texts indices)) w (.error (unsent indices fault)) v := by
  unfold executeOn
  refine (Ends.ofFault (congrArg ofFaults (target_texts indices)) w).bind ?_
  refine (Ends.ofFault (congrArg ofFaults isBody) w).bind ?_
  refine Ends.bind_error (sent.handleFault_fault ?_)
  rw [if_pos transport]
  refine (Ends.pure _ v).bind ?_
  exact (ends_failed _ _ indices _ v).bind (.fail _ v)

/-- What keeps a refusal from telling its reason ends the query; without it the reason is reported. -/
theorem ends_executeOn_refused (isBody : query.record = .ok body)
    (sent : Ends (client.send (b.request (address indices) body)) w (.ok response) v)
    (refused : response.hasStatus 200 = false) :
    Ends (b.executeOn client query (.texts indices)) w
      (.error (match errorReason response with
        | .ok reason => refusal indices response reason
        | .error fault => .fault fault)) v := by
  have turned : ¬ response.hasStatus 200 = true := Bool.eq_false_iff.1 refused
  unfold executeOn
  refine (Ends.ofFault (congrArg ofFaults (target_texts indices)) w).bind ?_
  refine (Ends.ofFault (congrArg ofFaults isBody) w).bind ?_
  refine (sent.handleFault_of_ne nofun).bind ?_
  rw [if_neg turned]
  cases told : errorReason response with
  | error fault => exact (Ends.ofFault rfl v).bind_error
  | ok reason =>
    refine (Ends.ofFault rfl v).bind ?_
    exact (ends_failed _ _ indices _ v).bind (Ends.bind_error (.fail _ v))

end Ends

/-- How a query ends whose request gets a response with a status other than 200, or fails on its way.  A
body that is a map, or that is not JSON, tells the reason, and the report has the status and the indices.
A body that is other JSON, or JSON that is too deep, comes up as a bare fault.  A request that fails is
the cause of a report with the indices. -/
theorem executeOn_refused {σ : Type} (b : RemoteBackend) (client : HttpClient σ)
    (query : BackendQuery) (indices : List String) {body : Value} (isBody : query.record = .ok body)
    (w v : σ) :
    let run := b.executeOn client query (.texts indices)
    let answer := client.send (b.request (address indices) body)
    (∀ response, response.hasStatus 200 = false → Ends answer w (.ok response) v →
      Ends run w (.error (match Json.read response.body with
        | .ok (.map entries) =>
          refusal indices response
            (explanation ((Entries.get? entries (.str "error")).getD (.map []))).plain
        | .ok other => .fault (.noAttribute other.fullKind "get")
        | .error e =>
          if e.isDepth then .fault (.body e)
          else refusal indices response (String.ofList (response.body.toList.take 200)))) v) ∧
      ∀ fault, fault.kind.isTransport = true → Ends answer w (.error (.fault fault)) v →
        Ends run w (.error (unsent indices fault)) v := by
  intro run answer
  constructor
  · intro response refused sent
    have ends := ends_executeOn_refused isBody sent refused
    split
    · rename_i entries read
      rwa [errorReason_of_map read] at ends
    · rename_i other isOther read
      rwa [errorReason_of_other read fun ⟨entries, h⟩ => isOther entries h] at ends
    · rename_i e read
      cases deep : e.isDepth with
      | true => rwa [errorReason_of_depth read deep] at ends
      | false => rwa [errorReason_of_text read deep] at ends
  · intro fault transport sent
    exact ends_executeOn_unsent isBody sent transport

/-- An error of a type without a reason, and a request that took too long. -/
theorem executeOn_refused_type :
    let body := "\x7b\"error\":\x7b\"reason\":null,\"type\":\"parsing\"\x7d\x7d"
    let late : Fault := .external .transportTimeout (.str "late")
    let client (answer : Except Failure HttpResponse) : HttpClient Unit := ⟨fun _ => .ofExcept answer⟩
    let run (answer : Except Failure HttpResponse) :=
      executeOn {} (client answer) {} (.texts ["a_*", "b_*"])
    Ends (run (.ok ⟨.int 502, body, .null, ""⟩)) ()
        (.error (.search (.failedExecution (.str "Search on a_*,b_* returned 502: parsing") (.int 502)
          [.str "a_*", .str "b_*"]) none)) () ∧
      Ends (run (.error (.fault late))) ()
        (.error (.search (.failedExecution (.str "Search request to a_*,b_* failed: late") .null
          [.str "a_*", .str "b_*"]) (some (.fault late)))) () := by
  intro body late client run
  let response : HttpResponse := ⟨.int 502, body, .null, ""⟩
  let error : Value := .map [(.str "reason", .null), (.str "type", .str "parsing")]
  have read : Json.read body = .ok (.map [(.str "error", error)]) := by cbv
  have shown : refusal ["a_*", "b_*"] response (explanation error).plain =
      .search (.failedExecution (.str "Search on a_*,b_* returned 502: parsing") (.int 502)
        [.str "a_*", .str "b_*"]) none := by cbv
  have outcome (answer) := executeOn_refused {} (client answer) {} ["a_*", "b_*"] rfl () ()
  constructor
  · rw [← shown]
    have ends := (outcome (.ok response)).1 response rfl (.ofExcept rfl ())
    rw [read] at ends
    exact ends
  · exact (outcome (.error (.fault late))).2 late rfl (.ofExcept rfl ())

/-- A refusal whose body is a list loses its status. -/
theorem executeOn_refused_list :
    let client : HttpClient Unit := ⟨fun _ => pure ⟨.int 502, "[]", .null, ""⟩⟩
    Ends (executeOn {} client {} (.texts ["graylog_*"])) () (.error (.fault (.noAttribute "list" "get")))
      () := by
  intro client
  let response : HttpResponse := ⟨.int 502, "[]", .null, ""⟩
  have lost : errorReason response = .error (.noAttribute "list" "get") := by cbv
  have sent (request) : Ends (client.send request) () (.ok response) () := .pure _ ()
  have ends : Ends (executeOn {} client {} (.texts ["graylog_*"])) () (.error (_ : Failure)) () :=
    ends_executeOn_refused rfl (sent _) rfl
  rwa [lost] at ends

end LogSearch.RemoteBackend
