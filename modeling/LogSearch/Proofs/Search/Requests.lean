import LogSearch.Proofs.Backend.Remote
import LogSearch.Proofs.Decoration.Sequence
import LogSearch.Proofs.FieldType.Mapping
import LogSearch.Proofs.IndexScope
import LogSearch.Proofs.Query.Lookup
import LogSearch.Proofs.Assembly
import LogSearch.Service

/-!
# Which requests a search sends

A search that looks up the types of fields in the mappings of a remote backend, and runs its query
there, sends all its requests to the indices of its streams: one for each sort whose type is not known,
in the order of the sorts and up to the first that fails, and then, if none failed, the query.  Nothing
is sent twice.

The client here is any that answers each request as it likes, given the requests before it, and keeps
them; so the state that it is left in is the trace of the requests.

Main statement: `SearchService.search_requests`.
-/

namespace LogSearch

open LogSearch.Flow (Ends Leaves IsQuiet)

/-- A client that gives some answers and keeps the requests. -/
def HttpClient.recording
    (answers : List HttpRequest → HttpRequest → Except Failure HttpResponse) :
    HttpClient (List HttpRequest) where
  send request := Flow.ask fun sent => (answers sent request, sent ++ [request])

theorem HttpClient.ends_recording
    (answers : List HttpRequest → HttpRequest → Except Failure HttpResponse)
    (sent : List HttpRequest) (request : HttpRequest) :
    Ends ((recording answers).send request) sent (answers sent request) (sent ++ [request]) :=
  fun log => ⟨log, rfl⟩

/-- A chain of decorators changes no collaborator. -/
theorem DecoratorChain.isQuiet_decorate {σ : Type} (chain : DecoratorChain) (r : Response)
    (configs : List DecoratorConfig) : IsQuiet (chain.decorate r configs : Flow σ Revision) := by
  intro w
  cases inOrder : Sorted.sortBy DecoratorConfig.order configs with
  | error fault => exact (Ends.ofFault (congrArg ofFaults inOrder) w).bind_error.leaves
  | ok sorted =>
    obtain ⟨revision, ran, -⟩ := chain.ends_decorate r w inOrder
    exact ran.leaves

namespace MappingLookup

open FieldTypes (Call)

/-- The lookups of types send one request for each call, and each makes its type of the answer. -/
theorem follows_recording {m : MappingLookup} {streams : List String} {target : String}
    (isTarget : m.target (streams.map .str) = .ok target)
    (answers : List HttpRequest → HttpRequest → Except Failure HttpResponse) :
    let lookup (call : Call) := m.request target call.2
    (m.fieldTypes (.recording answers)).Follows (streams.map .str)
      (fun past call => reading streams call.2 (answers (past.map lookup) (lookup call)))
      (fun past => past.map lookup) := by
  intro lookup past field
  dsimp only
  rw [List.map_append]
  exact ends_resolve isTarget (HttpClient.ends_recording answers (past.map lookup) _)

end MappingLookup

namespace SearchService

variable {σ : Type} {s : SearchService σ} {spec : SearchSpec} {query : BackendQuery}
  {patterns : List String} {w v u : σ}

/-- When the query can be built, a search does nothing else that is seen than to run it. -/
theorem leaves_search {signal : Option (Cancellation σ)}
    (built : Ends (s.builder.build spec s.fieldTypes) w (.ok query) v)
    (isPatterns : s.scope.patterns spec.streams = .ok patterns)
    (ran : Leaves (s.backend.execute query patterns) v u)
    (decorating : ∀ r, IsQuiet (s.decorators.decorate r spec.decorators))
    (silent : ∀ c ∈ signal, IsQuiet c.isSet) : Leaves (s.search spec signal) w u := by
  have executed : Leaves (s.execute spec query patterns) v u :=
    ran.handleFault fun _ => (IsQuiet.log _ _).bind fun _ => .fail _
  unfold search
  refine built.bind_leaves ?_
  refine (Ends.ofFault (congrArg ofFaults isPatterns) v).bind_leaves ?_
  refine executed.bind fun found => ?_
  refine (IsQuiet.ofFault _).bind fun shown => (IsQuiet.log _ _).bind fun _ => ?_
  exact Assembly.isQuiet_assemble _ _ _ _ decorating silent

/-- The requests of a search for some terms, and how it ends when a lookup fails.  The scope has
patterns for the streams, at least one, and all requests go to the patterns, joined, which are no empty
address and not that of all indices.  Either every lookup gives a type, and behind the lookups the body
of the query that is built is sent; or one is the first that fails, and it is the last request. -/
theorem search_requests (t : SearchTerms) (highlighting : Bool) (m : MappingLookup)
    (b : RemoteBackend) (answers : List HttpRequest → HttpRequest → Except Failure HttpResponse)
    (decorators : ResponseDecorators (List HttpRequest))
    (signal : Option (Cancellation (List HttpRequest))) (named : m.scope.HasTextNames)
    (decorating : ∀ r, IsQuiet (decorators.decorate r t.decorators))
    (silent : ∀ c ∈ signal, IsQuiet c.isSet) :
    let client := HttpClient.recording answers
    let service : SearchService (List HttpRequest) :=
      ⟨{ highlighting }, m.fieldTypes client, b.searchBackend client, decorators, m.scope⟩
    ∃ patterns, m.scope.patterns t.spec.streams = .ok patterns ∧ patterns ≠ [] ∧
      let target := ",".intercalate patterns
      target ≠ "" ∧ target ≠ "_all" ∧
      let lookup (call : FieldTypes.Call) : HttpRequest :=
        ⟨.get, m.baseUrl ++ "/" ++ target ++ "/_mapping/field/" ++ call.2.plain, lenientParams, none,
          m.timeout⟩
      let types : FieldTypes.Answers := fun past call =>
        MappingLookup.reading t.streams.eraseDups call.2 (answers (past.map lookup) (lookup call))
      let needed := QueryBuilder.calls t.spec.streams t.order
      ∃ result sent, Ends (service.search t.spec signal) [] result sent ∧
        ((FieldTypes.Answered types [] needed ∧
            ∃ query body, Ends (service.builder.build t.spec service.fieldTypes) [] (.ok query)
                (needed.map lookup) ∧
              query.record = .ok body ∧
              sent = needed.map lookup ++
                [⟨.post, b.baseUrl ++ "/" ++ target ++ "/_search", lenientParams, some body,
                  b.timeout⟩]) ∨
          ∃ earlier call later failure, needed = earlier ++ call :: later ∧
            FieldTypes.Answered types [] earlier ∧ types earlier call = .error failure ∧
            sent = (earlier ++ [call]).map lookup ∧
            result = .error (QueryBuilder.callFailure t.streams.eraseDups call failure)) := by
  intro client service
  obtain ⟨patterns, isPatterns⟩ := IndexScope.exists_patterns named t.spec.streams
  have filled := IndexScope.patterns_ne_nil named isPatterns
  obtain ⟨nonempty, notAll⟩ := IndexScope.joined_patterns_ne named isPatterns
  refine ⟨patterns, isPatterns, filled, nonempty, notAll, ?_⟩
  intro lookup types needed
  have isTarget : m.target t.spec.streams = .ok (",".intercalate patterns) :=
    congrArg (Except.map _) isPatterns
  have follows := MappingLookup.follows_recording isTarget answers
  rcases t.ends_build_of_follows highlighting follows with
    ⟨answered, query, body, built, isBody⟩ | ⟨earlier, call, later, failure, split, fine, failed, ends⟩
  · have address : RemoteBackend.address patterns = ",".intercalate patterns := if_neg filled
    have sent := (HttpClient.ends_recording answers (needed.map lookup)
      (b.request (RemoteBackend.address patterns) body)).leaves
    have ran : Leaves (service.backend.execute query patterns) (needed.map lookup)
        (needed.map lookup ++ [b.request (RemoteBackend.address patterns) body]) :=
      (RemoteBackend.leaves_executeOn isBody sent).bind fun _ => .pure _
    rw [address] at ran
    obtain ⟨result, ends⟩ :=
      leaves_search (s := service) built isPatterns ran decorating silent
    exact ⟨result, _, ends, .inl ⟨answered, query, body, built, isBody, rfl⟩⟩
  · refine ⟨_, _, Ends.bind_error ends, .inr ?_⟩
    exact ⟨earlier, call, later, failure, split, fine, failed, rfl, rfl⟩

/-- Two sorts: when the second lookup comes too late it is the last request, and when the mappings of
both are missing the query follows. -/
theorem search_requests_two_sorts :
    let start : DateTime := ⟨0, some .utc, by decide⟩
    let range : TimeRange := ⟨start, start, rfl, rfl, Int.le_refl _⟩
    let t : SearchTerms :=
      { id := "s", timeRange := range, streams := ["b"]
        sorts := [⟨"level", .asc⟩, ⟨"timestamp", .desc⟩], named := by decide }
    let m : MappingLookup := ⟨"http://es", {}, .int 10⟩
    let b : RemoteBackend := ⟨.str "es", .str "9200", .str "http", .int 60⟩
    let late : Fault := .external .transportTimeout (.str "late")
    let missing : HttpResponse := ⟨.int 404, "", .null, ""⟩
    let client (second : Except Failure HttpResponse) : HttpClient (List HttpRequest) :=
      .recording fun sent _ => if sent.isEmpty then .ok missing else second
    let run (second : Except Failure HttpResponse) : Flow (List HttpRequest) Envelope :=
      search ⟨{}, m.fieldTypes (client second),
        b.searchBackend (client second), DecoratorChain.builtin.decorators, m.scope⟩
        t.spec none
    let lookup (field : String) : HttpRequest :=
      ⟨.get, "http://es/graylog_*/_mapping/field/" ++ field, lenientParams, none, .int 10⟩
    Ends (run (.error (.fault late))) []
        (.error (.search (.unresolvedType (.str "timestamp") [.str "b"]) (some (.fault late))))
        [lookup "level", lookup "timestamp"] ∧
      ∃ result body, Ends (run (.ok missing)) [] result [lookup "level", lookup "timestamp",
        ⟨.post, "http://es:9200/graylog_*/_search", lenientParams, some body,
          .int 60⟩] := by
  intro start range t m b late missing client run lookup
  have named : m.scope.HasTextNames :=
    ⟨⟨_, rfl⟩, fun _ member => (List.not_mem_nil member).elim⟩
  have decorating (r) : IsQuiet (DecoratorChain.builtin.decorators.decorate r t.decorators :
      Flow (List HttpRequest) Revision) := DecoratorChain.isQuiet_decorate _ r _
  have outcome (second) := search_requests t false m b
    (fun sent _ => if sent.isEmpty then .ok missing else second) DecoratorChain.builtin.decorators none
    named decorating nofun
  have only : m.scope.patterns t.spec.streams = .ok ["graylog_*"] :=
    IndexScope.patterns_singleton (show m.scope.nameOf (.str "b") = .str "graylog" from rfl)
  have needed : QueryBuilder.calls t.spec.streams t.order =
      [([.str "b"], .str "level"), ([.str "b"], .str "timestamp")] := rfl
  have alone : Sorted.stable Text.codes ["b"] = ["b"] :=
    Sorted.stable_of_ascends (List.pairwise_singleton _ _)
  constructor
  · obtain ⟨patterns, isPatterns, -, -, -, result, sent, ends, outcome⟩ :=
      outcome (.error (.fault late))
    obtain rfl := Except.ok.inj (only.symm.trans isPatterns)
    rw [needed] at outcome
    rcases outcome with ⟨answered, -⟩ | ⟨earlier, call, later, failure, split, -, failed, isSent, told⟩
    · obtain ⟨⟨type, found⟩, -⟩ := FieldTypes.answered_cons.1 (FieldTypes.answered_cons.1 answered).2
      cases found
    · rcases earlier with _ | ⟨first, _ | ⟨second, rest⟩⟩
      · obtain ⟨rfl, -⟩ := List.cons.inj split
        cases failed
      · obtain ⟨rfl, others⟩ := List.cons.inj split
        obtain ⟨rfl, -⟩ := List.cons.inj others
        obtain rfl := Except.error.inj failed
        have shown : sent = [lookup "level", lookup "timestamp"] := isSent
        have reported : QueryBuilder.callFailure t.streams.eraseDups ([.str "b"], .str "timestamp")
            (MappingLookup.requestFailure t.streams.eraseDups (.str "timestamp") (.fault late)) =
            .search (.unresolvedType (.str "timestamp") ((Sorted.stable Text.codes ["b"]).map .str))
              (some (.fault late)) := rfl
        rw [alone] at reported
        rw [shown, told] at ends
        exact reported ▸ ends
      · simp at split
  · obtain ⟨patterns, isPatterns, -, -, -, result, sent, ends, outcome⟩ := outcome (.ok missing)
    obtain rfl := Except.ok.inj (only.symm.trans isPatterns)
    rw [needed] at outcome
    rcases outcome with ⟨-, query, body, -, -, isSent⟩ | ⟨_, _, _, _, -, -, failed, -⟩
    · refine ⟨result, body, ?_⟩
      have shown : sent = [lookup "level", lookup "timestamp",
          ⟨.post, "http://es:9200/graylog_*/_search", lenientParams, some body,
            .int 60⟩] := isSent
      rw [shown] at ends
      exact ends
    · simp only [ite_self] at failed
      cases failed

end SearchService

end LogSearch
