import LogSearch.Proofs.Assembly
import LogSearch.Proofs.Backend.Remote
import LogSearch.Proofs.IndexScope
import LogSearch.Proofs.Query.Build
import LogSearch.Service

/-!
# What a search finds

A search that is not cancelled and not decorated goes through four layers: the query is sent, the
body of the answer is read, each hit becomes a message, and the messages become the answer.  None of
them drops, repeats or moves a message.

Main statement: `search_documents`, which gives the answer of a search for every body that lists
documents.
-/

namespace LogSearch

open LogSearch.Flow (Ends exec)

variable {σ : Type}

/-- Without settings the chain keeps a response. -/
theorem DecoratorChain.ends_decorate_nil (chain : DecoratorChain) (r : Response) (w : σ) :
    Ends (chain.decorate r []) w (.ok .kept) w := by
  have sorted : ofFaults (Sorted.sortBy DecoratorConfig.order []) = .ok [] := by
    unfold Sorted.sortBy
    rw [List.all_nil, if_pos rfl, List.mergeSort_nil]
    rfl
  unfold decorate
  refine (Ends.ofFault sorted w).bind ?_
  exact (Ends.pure _ _).bind (Ends.bind (.pure _ _) (.pure _ _))

/-- Hits that are read as documents give messages that show them. -/
theorem Document.exists_messages {documents : List Document} {found : List Hit}
    (each : List.Forall₂ (fun d hit => Hit.read hit = d.hit.read) documents found)
    (readable : ∀ d ∈ documents, d.IsReadable) (written : ∀ d ∈ documents, d.IsWritten) :
    ∃ messages, Assembly.ReadAs Hit.read found messages ∧
      List.Forall₂ Document.IsShownAs documents (messages.map Message.summary) := by
  induction each with
  | nil => exact ⟨[], .nil, .nil⟩
  | @cons d hit documents found same _ ih =>
    obtain ⟨message, hm, shown⟩ := Document.exists_summary (readable d List.mem_cons_self)
      (written d List.mem_cons_self)
    obtain ⟨messages, reads, all⟩ := ih (fun e he => readable e (List.mem_cons_of_mem d he))
      fun e he => written e (List.mem_cons_of_mem d he)
    exact ⟨message :: messages, .cons (same.trans hm) reads, .cons shown all⟩

namespace SearchService

/-- A text that can be searched for can be shown. -/
theorem exists_excerpt {v : Value} (h : (∃ s, v = .str s) ∨ ∃ octets, v = .bytes octets) :
    ∃ shown, excerpt v = .ok shown := by
  rcases h with ⟨s, rfl⟩ | ⟨octets, rfl⟩
  · exact ⟨_, rfl⟩
  · exact ⟨_, rfl⟩

/-- The backend of a service finds what the answer to its request lists. -/
theorem exec_execute {s : SearchService σ} {spec : SearchSpec} {b : RemoteBackend}
    {client : HttpClient σ} {query : BackendQuery} {patterns : List String} {found : List Hit}
    {n : Int} {s₁ s₂ : Session σ} (backend : s.backend = b.searchBackend client)
    (h : exec (b.executeOn client query (.texts patterns)) s₁ = (.ok (found, n), s₂)) :
    exec (s.execute spec query patterns) s₁ = (.ok (found, .int n), s₂) := by
  unfold execute
  rw [backend, Flow.exec_handleFault]
  have asked : exec ((b.searchBackend client).execute query patterns) s₁ =
      (.ok (found, .int n), s₂) := by
    change exec (b.executeOn client query (.texts patterns) >>= _) s₁ = _
    rw [Flow.exec_bind, h]
    rfl
  rw [asked]

/-- A search whose query can be built answers with the documents that the body of the response lists,
in order, and with the total that it tells. -/
theorem search_documents (builder : QueryBuilder) (types : FieldTypes σ) (b : RemoteBackend)
    (client : HttpClient σ) (chain : DecoratorChain) (scope : IndexScope) (spec : SearchSpec)
    {query : BackendQuery} {response : HttpResponse} {body : Value} {documents : List Document}
    {n : Int} {s₀ s₁ s₂ : Session σ} (undecorated : spec.decorators = [])
    (named : scope.HasTextNames)
    (compiles : exec (builder.build spec types) s₀ = (.ok query, s₁))
    (sent : ∀ patterns target request, scope.patterns spec.streams = .ok patterns →
      RemoteBackend.target (.texts patterns) = .ok target → query.record = .ok request →
      exec (client.send (b.request target request)) s₁ = (.ok response, s₂))
    (fine : response.hasStatus 200 = true) (json : response.json = .ok body)
    (answer : IsAnswer body documents n) (readable : ∀ d ∈ documents, d.IsReadable) :
    ∃ summaries log,
      exec (search ⟨builder, types, b.searchBackend client, chain.decorators, scope⟩ spec none) s₀ =
        (.ok ⟨spec.id, summaries, spec.timeRange, .int n, spec.name⟩, ⟨s₂.world, log⟩) ∧
      List.Forall₂ Document.IsShownAs documents summaries := by
  obtain ⟨⟨base, hbase⟩, request, hrequest⟩ := QueryBuilder.of_exec_build compiles
  obtain ⟨patterns, hpatterns⟩ := IndexScope.exists_patterns named spec.streams
  obtain ⟨target, htarget⟩ := RemoteBackend.exists_target patterns
  obtain ⟨shown, hshown⟩ := exists_excerpt (QueryBuilder.text_or_bytes_of_baseQuery hbase)
  obtain ⟨found, hfound, each⟩ := RemoteBackend.exists_hits answer
  obtain ⟨log, ran⟩ := RemoteBackend.exec_executeOn htarget hrequest
    (sent patterns target request hpatterns htarget hrequest) fine json hfound
  have read : Json.read response.body = .ok body := by
    unfold HttpResponse.json at json
    cases given : Json.read response.body with
    | error e => rw [given] at json; cases json
    | ok v => rw [given] at json; exact congrArg Except.ok (Except.ok.inj json)
  -- What is read from JSON can be written, so no text is lost.
  obtain ⟨messages, reads, shows⟩ := Document.exists_messages each readable
    (RemoteBackend.isWritten_of_isAnswer answer (Json.isWritable_of_read read))
  have decorated (w : σ) : Ends (chain.decorators.decorate
      (Assembly.response spec (messages.map Message.summary) (.int n) spec.timeRange)
      spec.decorators) w (.ok .kept) w := by
    rw [undecorated]
    exact chain.ends_decorate_nil _ w
  have executed : exec (execute ⟨builder, types, b.searchBackend client, chain.decorators, scope⟩
      spec query patterns) s₁ = (.ok (found, .int n), ⟨s₂.world, log⟩) := exec_execute rfl ran
  unfold search
  simp only [Flow.exec_bind, compiles, Flow.exec_ofFault, hpatterns, ofFaults, Except.mapError,
    executed, hshown, Flow.exec_log]
  obtain ⟨log', assembled⟩ := Assembly.ends_assemble_unsignalled reads (decorated s₂.world) _
  exact ⟨messages.map Message.summary, log', assembled, shows⟩

/-- The body of an answer with one message, whose source has an identifier of its own. -/
def oneMessage : String :=
  "\x7b\"hits\":\x7b\"total\":\x7b\"value\":7\x7d,\"hits\":[\x7b\"_id\":\"a\",\"_index\":\"g_0\"," ++
    "\"_source\":\x7b\"_id\":\"z\",\"timestamp\":\"2024-03-01T13:00:00+01:00\"\x7d," ++
    "\"highlight\":\x7b\"message\":[\"x\",\"y\"]\x7d\x7d]\x7d\x7d"

/-- A search that finds one message of seven, written at one o'clock in the afternoon an hour ahead of UTC. -/
theorem search_documents_one :
    let start : DateTime := ⟨0, some .utc, by decide⟩
    let range : TimeRange := ⟨start, start, rfl, rfl, Int.le_refl _⟩
    let spec : SearchSpec := ⟨.str "s", range, .str "*", .int 0, .int 0, [], [], [], [], .null⟩
    let types : FieldTypes Unit := ⟨fun _ _ => pure .null⟩
    let client : HttpClient Unit := ⟨fun _ => pure ⟨.int 200, oneMessage, .null, ""⟩⟩
    let source : Entries :=
      [(.str "_id", .str "z"), (.str "timestamp", .str "2024-03-01T13:00:00+01:00")]
    let document : Document := ⟨"a", "g_0", source, [(.str "message", [.str "x", .str "y"])]⟩
    ∃ summaries log,
      exec (search ⟨{}, types, RemoteBackend.searchBackend {} client,
          DecoratorChain.builtin.decorators, {}⟩ spec none) ⟨(), []⟩ =
        (.ok ⟨.str "s", summaries, range, .int 7, .null⟩, ⟨(), log⟩) ∧
      List.Forall₂ Document.IsShownAs [document] summaries ∧
      ∀ s ∈ summaries, Entries.get? s.fields timeField =
        some (.time ⟨(Date.mk 2024 3 1).number * microsPerDay + (Clock.mk 12 0 0 0).micros, some .utc,
          by decide⟩) := by
  intro start range spec types client source document
  let hit : Entries := [(.str "_id", .str "a"), (.str "_index", .str "g_0"),
    (.str "_source", .map source),
    (.str "highlight", .map [(.str "message", .list [.str "x", .str "y"])])]
  let listing : Entries := [(.str "total", .map [(.str "value", .int 7)]),
    (.str "hits", .list [.map hit])]
  have read : Json.read oneMessage = .ok (.map [(.str "hits", .map listing)]) := by cbv
  have each : List.Forall₂ Document.IsWrittenIn [document] [hit] :=
    .cons ⟨rfl, rfl, rfl, .inl rfl⟩ .nil
  have answer : IsAnswer (.map [(.str "hits", .map listing)]) [document] 7 :=
    .mk rfl rfl each rfl (.value rfl)
  have named : IndexScope.HasTextNames {} := ⟨⟨_, rfl⟩, fun entry member => (List.not_mem_nil member).elim⟩
  have readable : ∀ d ∈ [document], d.IsReadable := by
    intro d hd
    obtain rfl := List.mem_singleton.1 hd
    refine ⟨by decide, by decide, fun v hv => ?_⟩
    obtain rfl := Option.some.inj hv
    exact ⟨_, rfl⟩
  obtain ⟨summaries, log, ran, shows⟩ :=
    search_documents {} types {} client DecoratorChain.builtin {} spec rfl named rfl
      (fun _ _ _ _ _ _ => rfl) rfl (congrArg (Except.mapError _) read) answer readable
  refine ⟨summaries, log, ran, shows, fun s member => ?_⟩
  obtain ⟨d, isDocument, isShown⟩ := exists_mem_of_forall₂ shows member
  obtain rfl := List.mem_singleton.1 isDocument
  obtain ⟨t, u, given, shown, utc, same⟩ := isShown.time _ rfl
  have text : Hit.textTime? "2024-03-01T13:00:00+01:00" = some ⟨(Date.mk 2024 3 1).number * microsPerDay +
      (Clock.mk 13 0 0 0).micros, some ⟨3600000000, by decide⟩, by decide⟩ := by decide +kernel
  obtain rfl := Except.ok.inj ((Hit.givenTime_of_tells (.inr ⟨_, rfl, text⟩)).symm.trans given)
  have instant := DateTime.toUtc?_of_utc utc
  rw [DateTime.toUtc?, same] at instant
  rw [shown, ← Option.some.inj instant]
  rfl

end SearchService

end LogSearch
