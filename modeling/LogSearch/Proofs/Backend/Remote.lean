import LogSearch.Backend.Remote
import LogSearch.Proofs.Json.Reader
import LogSearch.Proofs.Message.Summary
import LogSearch.Proofs.Value.Access

/-!
# What a remote backend answers

The body of an answer lists documents in its `hits`, beside the number of all there are.  A backend
that sends such a body has found those documents, in that order.

Main statements: `exists_hits` reads a body, and `exec_executeOn` runs a query.
-/

namespace LogSearch

variable {entries : Entries} {v : Value}

/-- What is found in a map that can be written can be written. -/
theorem Value.isWritable_of_get? {key : Value} (written : (Value.map entries).isWritable = true)
    (h : Entries.get? entries key = some v) : v.isWritable = true := by
  rw [Value.isWritable] at written
  obtain ⟨k, member⟩ := Entries.mem_of_get? h
  exact ((Value.entriesWritable_iff entries).1 written _ member).2

/-- A step that gives each text as it is gives all of them, whatever their positions. -/
theorem mapM_zipIdx_str {f : Value × Nat → Except Fault String} (h : ∀ s i, f (.str s, i) = .ok s)
    (items : List String) (first : Nat) :
    ((items.map Value.str).zipIdx first).mapM f = .ok items := by
  induction items generalizing first with
  | nil => rfl
  | cons item rest ih =>
    rw [List.map_cons, List.zipIdx_cons, List.mapM_cons, ih, h]
    rfl

/-- The texts of a list are joined as they are. -/
theorem Value.join_texts (separator : String) (items : List String) :
    Value.join separator (.texts items) = .ok (separator.intercalate items) := by
  unfold join
  change ((items.map Value.str).zipIdx.mapM _ >>= fun texts =>
    (.ok (separator.intercalate texts) : Except Fault String)) = _
  rw [mapM_zipIdx_str fun _ _ => rfl]
  rfl

/-- The entries of a hit in the body of an answer are those of a document. -/
structure Document.IsWrittenIn (d : Document) (entries : Entries) : Prop where
  id : Entries.get? entries (.str "_id") = some (.str d.id)
  index : Entries.get? entries (.str "_index") = some (.str d.index)
  source : Entries.get? entries (.str "_source") = some (.map d.source)
  /-- Without highlighted texts the entry for them may be left out, or hold nothing. -/
  highlights : Entries.get? entries (.str "highlight") =
      some (.map (d.highlights.map fun (name, vs) => (name, .list vs))) ∨
    d.highlights = [] ∧ (Entries.get? entries (.str "highlight") = none ∨
      Entries.get? entries (.str "highlight") = some .null)

/-- The number of all messages, as it is or under a name of its own. -/
inductive IsTotal : Value → Int → Prop
  | plain (n : Int) : IsTotal (.int n) n
  | value {entries : Entries} {n : Int} (isValue : Entries.get? entries (.str "value") = some (.int n)) :
    IsTotal (.map entries) n

/-- The body of an answer that lists some documents and tells the number of all. -/
inductive IsAnswer : Value → List Document → Int → Prop
  | mk {top listing : Entries} {items : List Entries} {total : Value} {documents : List Document}
      {n : Int} (isListing : Entries.get? top (.str "hits") = some (.map listing))
      (isItems : Entries.get? listing (.str "hits") = some (.list (items.map .map)))
      (each : List.Forall₂ (fun d entries => d.IsWrittenIn entries) documents items)
      (isNumber : Entries.get? listing (.str "total") = some total) (isTotal : IsTotal total n) :
    IsAnswer (.map top) documents n

namespace RemoteBackend

variable {d : Document}

/-- Where a query goes: to its indices, and to all there are when it has none. -/
def address (indices : List String) : String :=
  if indices = [] then "_all" else ",".intercalate indices

theorem target_texts (indices : List String) :
    RemoteBackend.target (.texts indices) = .ok (address indices) := by
  cases indices with
  | nil => rfl
  | cons name rest => exact Value.join_texts "," (name :: rest)

/-- Patterns are a target of requests. -/
theorem exists_target (patterns : List String) :
    ∃ target, RemoteBackend.target (.texts patterns) = .ok target :=
  ⟨_, target_texts patterns⟩

/-- A hit in the body of an answer is read as the document in it. -/
theorem exists_hit (h : d.IsWrittenIn entries) :
    ∃ found, hit (.map entries) = .ok found ∧ found.read = d.hit.read := by
  have parts (highlights : Value)
      (hh : (Value.map entries).field "highlight" (.map []) = .ok highlights) :
      hit (.map entries) = .ok { d.hit with highlights } := by
    unfold hit
    rw [Value.field_of_get? h.id, Value.field_of_get? h.index, Value.field_of_get? h.source, hh]
    rfl
  rcases h.highlights with given | ⟨none, missing | null⟩
  · exact ⟨_, parts _ (Value.field_of_get? given), rfl⟩
  · refine ⟨_, parts _ (Value.field_of_missing missing), ?_⟩
    unfold Document.hit
    rw [none]
    rfl
  · exact ⟨_, parts _ (Value.field_of_get? null), Document.read_without_highlights none⟩

theorem total_of_isTotal {n : Int} (h : IsTotal v n) : total v = .ok n := by
  cases h with
  | plain =>
    change (if (Value.int n).isTrue then Except.ok n else Except.ok 0) = _
    by_cases zero : n = 0
    · rw [zero]
      rfl
    · rw [if_pos]
      exact decide_eq_true zero
  | value isValue =>
    unfold total
    dsimp only
    rw [Value.field_of_get? isValue]
    rfl

theorem exists_mapM_hit {documents : List Document} {items : List Entries}
    (each : List.Forall₂ (fun d entries => d.IsWrittenIn entries) documents items) :
    ∃ found, (items.map Value.map).mapM hit = .ok found ∧
      List.Forall₂ (fun d found => Hit.read found = d.hit.read) documents found := by
  induction each with
  | nil => exact ⟨[], rfl, .nil⟩
  | cons one _ ih =>
    obtain ⟨first, hf, read⟩ := exists_hit one
    obtain ⟨rest, hr, reads⟩ := ih
    refine ⟨first :: rest, ?_, .cons read reads⟩
    rw [List.map_cons, List.mapM_cons, hf, hr]
    rfl

/-- The hits in the body of an answer are the documents, in order. -/
theorem exists_hits {body : Value} {documents : List Document} {n : Int}
    (answer : IsAnswer body documents n) :
    ∃ found, hits body = .ok (found, n) ∧
      List.Forall₂ (fun d found => Hit.read found = d.hit.read) documents found := by
  obtain @⟨top, listing, items, number, _, _, isListing, isItems, each, isNumber, isTotal⟩ := answer
  obtain ⟨found, hf, reads⟩ := exists_mapM_hit each
  refine ⟨found, ?_, reads⟩
  unfold hits
  rw [Value.field_of_get? isListing]
  change (do
    let vs ← ((← (Value.map listing).field "hits" (.list [])).elements)
    let found ← vs.mapM hit
    return (found, ← total (← (Value.map listing).field "total" (.int 0)))) = _
  rw [Value.field_of_get? isItems, Value.field_of_get? isNumber]
  change (do
    let found ← (items.map Value.map).mapM hit
    return (found, ← total number)) = _
  rw [hf, total_of_isTotal isTotal]
  rfl

/-- The highlighted texts of the documents in a body are parts of the body. -/
theorem isWritten_of_isAnswer {body : Value} {documents : List Document} {n : Int}
    (answer : IsAnswer body documents n) (written : body.isWritable = true) :
    ∀ d ∈ documents, d.IsWritten := by
  obtain @⟨top, listing, items, number, _, _, isListing, isItems, each, isNumber, isTotal⟩ := answer
  have listed := Value.isWritable_of_get? (Value.isWritable_of_get? written isListing) isItems
  rw [Value.isWritable] at listed
  intro d hd
  obtain ⟨i, hi, rfl⟩ := List.getElem_of_mem hd
  have inItems : i < items.length := each.length_eq ▸ hi
  have isIn : (documents[i]).IsWrittenIn items[i] := each.get hi inItems
  have item : (Value.map items[i]).isWritable = true :=
    (Value.areWritable_iff _).1 listed _ (List.mem_map_of_mem (List.getElem_mem inItems))
  rcases isIn.highlights with given | ⟨none, -⟩
  · have all := Value.isWritable_of_get? item given
    rw [Value.isWritable] at all
    rintro ⟨name, vs⟩ member
    have texts := ((Value.entriesWritable_iff _).1 all _ (List.mem_map_of_mem member)).2
    rw [Value.isWritable] at texts
    exact (Value.areWritable_iff vs).1 texts
  · unfold Document.IsWritten
    rw [none]
    exact fun entry member => (List.not_mem_nil member).elim

variable {σ : Type} {b : RemoteBackend} {client : HttpClient σ} {query : BackendQuery}
  {target : String} {indices body answer : Value} {response : HttpResponse} {found : List Hit}
  {n : Int} {s s' : Session σ}

/-- A query gives what the answer to its request lists. -/
theorem exec_executeOn (isTarget : RemoteBackend.target indices = .ok target)
    (isBody : query.record = .ok body)
    (sent : Flow.exec (client.send (b.request target body)) s = (.ok response, s'))
    (fine : response.hasStatus 200 = true) (json : response.json = .ok answer)
    (isHits : hits answer = .ok (found, n)) :
    ∃ log, Flow.exec (b.executeOn client query indices) s = (.ok (found, n), ⟨s'.world, log⟩) := by
  unfold executeOn
  simp only [Flow.exec_bind, Flow.exec_ofFault, isTarget, isBody, Flow.exec_handleFault, sent,
    ofFaults, Except.mapError, fine, json, isHits]
  rw [if_pos trivial]
  exact ⟨_, rfl⟩

/-- Whatever the answer to its request, a query sends no other. -/
theorem leaves_executeOn {names : List String} {w v : σ} (isBody : query.record = .ok body)
    (sent : Flow.Leaves (client.send (b.request (address names) body)) w v) :
    Flow.Leaves (b.executeOn client query (.texts names)) w v := by
  have reported (message status cause) :
      Flow.IsQuiet (failed message status (.texts names) cause : Flow σ Failure) :=
    (Flow.IsQuiet.ofFault _).bind fun _ => .pure _
  unfold executeOn
  refine (Flow.Ends.ofFault (congrArg ofFaults (target_texts names)) w).bind_leaves ?_
  refine (Flow.Ends.ofFault (congrArg ofFaults isBody) w).bind_leaves ?_
  refine (sent.handleFault fun fault => ?_).bind fun response => ?_
  · split
    · exact (reported _ _ _).bind fun _ => .fail _
    · exact .fail_bind _
  · by_cases fine : response.hasStatus 200 = true
    · rw [if_pos fine]
      cases response.json with
      | error fault =>
        dsimp only
        split
        · exact (reported _ _ _).bind fun _ => .fail _
        · exact .fail_bind _
      | ok body =>
        exact (Flow.IsQuiet.ofFault _).bind fun _ => (Flow.IsQuiet.log _ _).bind fun _ => .pure _
    · rw [if_neg fine]
      exact (Flow.IsQuiet.ofFault _).bind fun _ => (reported _ _ _).bind fun _ => .fail_bind _

end RemoteBackend

end LogSearch
