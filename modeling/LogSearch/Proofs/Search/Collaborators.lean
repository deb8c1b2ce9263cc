import LogSearch.Proofs.Assembly
import LogSearch.Proofs.IndexScope
import LogSearch.Proofs.Query.Lookup
import LogSearch.Service

/-!
# How a search ends when a collaborator fails

A search asks three collaborators: the types of fields, the backend, and the decorators.  Each may
fail at each call, with a report or with a fault.  The first call that fails is the last call.  Its
report is that of the search, and a fault is the cause of a report of the place it came up in.

The collaborators here give at each call what a script says, given the calls before it, and keep the
calls; so the state that they are left in is the trace of the calls.

Main statement: `SearchService.search_collaborators`.
-/

namespace LogSearch

open LogSearch.Flow (Ends)

/-- A call of a collaborator of a search. -/
inductive Event
  | lookup (streams : List Value) (field : Value)
  | execution (query : BackendQuery) (indices : List String)
  | decoration (r : Response) (configs : List DecoratorConfig)

/-- How a search in some streams reports the failure of a call: a report comes up as it is, and a fault
is the cause of one. -/
def Event.reported (streams : List String) : Event → Failure → Failure
  | lookup _ field, failure =>
    failure.reported fun _ => .unresolvedType field ((Sorted.stable Text.codes streams).map .str)
  | execution _ indices, failure =>
    failure.reported fun fault =>
      .failedExecution (.str fault.message) .null (indices.map .str)
  | decoration _ _, failure =>
    failure.reported fun fault => .failedDecoration (.str "chain") fault.message

/-- The call for the type of a field. -/
def Event.ofCall (call : FieldTypes.Call) : Event := .lookup call.1 call.2

/-- What the collaborators of a search give at each call, given the calls before it. -/
structure Script where
  type : List Event → List Value → Value → Except Failure Value
  hits : List Event → BackendQuery → List String → Except Failure (List Hit × Value)
  revision : List Event → Response → List DecoratorConfig → Except Failure Revision

namespace Script

/-- The service whose collaborators go by a script. -/
def service (s : Script) (highlighting : Bool) (scope : IndexScope) : SearchService (List Event) where
  builder := { highlighting }
  fieldTypes.resolve streams field :=
    Flow.ask fun past => (s.type past streams field, past ++ [.lookup streams field])
  backend.execute query indices :=
    Flow.ask fun past => (s.hits past query indices, past ++ [.execution query indices])
  decorators.decorate r configs :=
    Flow.ask fun past => (s.revision past r configs, past ++ [.decoration r configs])
  scope

/-- The failure that a result is, if it is one. -/
def failureOf {α : Type} : Except Failure α → Option Failure
  | .ok _ => none
  | .error failure => some failure

/-- The failure of a call that comes after others, if it fails. -/
def failure? (s : Script) (past : List Event) : Event → Option Failure
  | .lookup streams field => failureOf (s.type past streams field)
  | .execution query indices => failureOf (s.hits past query indices)
  | .decoration r configs => failureOf (s.revision past r configs)

/-- None of some calls fails. -/
def IsFine (s : Script) (events : List Event) : Prop :=
  ∀ earlier event later, events = earlier ++ event :: later → s.failure? earlier event = none

variable {s : Script} {events earlier : List Event} {event : Event} {failure : Failure}

/-- The places at which a list that ends in an item can be cut in front of one. -/
theorem cut_of_concat {α : Type} {xs front later : List α} {x y : α}
    (h : xs ++ [x] = front ++ y :: later) :
    (later = [] ∧ front = xs ∧ y = x) ∨ ∃ rest, xs = front ++ y :: rest := by
  rcases later.eq_nil_or_concat' with rfl | ⟨rest, last, rfl⟩
  · obtain ⟨rfl, same⟩ := List.append_inj' h rfl
    exact .inl ⟨rfl, rfl, (List.cons.inj same).1.symm⟩
  · rw [← List.cons_append, ← List.append_assoc] at h
    exact .inr ⟨rest, (List.append_inj' h rfl).1⟩

theorem isFine_nil : s.IsFine [] := by
  intro earlier event later split
  cases earlier <;> cases split

theorem isFine_concat :
    s.IsFine (events ++ [event]) ↔ s.IsFine events ∧ s.failure? events event = none := by
  constructor
  · intro fine
    constructor
    · rintro earlier other later rfl
      refine fine earlier other (later ++ [event]) ?_
      rw [List.append_assoc, List.cons_append]
    · exact fine events event [] rfl
  · rintro ⟨fine, last⟩ earlier other later split
    rcases cut_of_concat split with ⟨-, rfl, rfl⟩ | ⟨rest, rfl⟩
    · exact last
    · exact fine earlier other rest rfl

/-- How a run ends whose calls would be `whole` if none failed: with an answer when none fails, and else
with the first call that fails. -/
inductive Ended (s : Script) (streams : List String) (whole : List Event) :
    Except Failure Envelope → List Event → Prop
  | answered (fine : s.IsFine whole) (envelope : Envelope) :
    Ended s streams whole (.ok envelope) whole
  | failed {earlier : List Event} {event : Event} {failure : Failure}
      (isFront : earlier ++ [event] <+: whole) (fine : s.IsFine earlier)
      (fails : s.failure? earlier event = some failure) :
    Ended s streams whole (.error (event.reported streams failure)) (earlier ++ [event])

variable {streams : List String} {whole : List Event} {result : Except Failure Envelope}

theorem Ended.isPrefix (h : s.Ended streams whole result events) : events <+: whole := by
  cases h with
  | answered => exact List.prefix_rfl
  | failed isFront => exact isFront

theorem Ended.answered_iff (h : s.Ended streams whole result events) :
    (∃ envelope, result = .ok envelope) ↔ s.IsFine events := by
  cases h with
  | answered fine envelope => exact ⟨fun _ => fine, fun _ => ⟨envelope, rfl⟩⟩
  | failed isFront fine fails =>
    constructor
    · rintro ⟨envelope, ok⟩
      cases ok
    · intro all
      rw [(isFine_concat.1 all).2] at fails
      cases fails

theorem Ended.eq_whole (h : s.Ended streams whole result events) (fine : s.IsFine events) :
    events = whole := by
  obtain ⟨envelope, ok⟩ := h.answered_iff.2 fine
  cases h with
  | answered => rfl
  | failed => cases ok

/-- A call that fails is the last, and its failure is reported. -/
theorem Ended.of_failure (h : s.Ended streams whole result events) {front later : List Event}
    {other : Event} (split : events = front ++ other :: later)
    (failed : s.failure? front other = some failure) :
    later = [] ∧ result = .error (other.reported streams failure) := by
  cases h with
  | answered fine =>
    rw [fine front other later split] at failed
    cases failed
  | failed isFront fine fails =>
    rcases cut_of_concat split with ⟨rfl, rfl, rfl⟩ | ⟨rest, rfl⟩
    · rw [failed] at fails
      obtain rfl := Option.some.inj fails
      exact ⟨rfl, rfl⟩
    · rw [fine front other rest rfl] at failed
      cases failed

section Service

variable {highlighting : Bool} {scope : IndexScope}

theorem follows_service (s : Script) (highlighting : Bool) (scope : IndexScope)
    (streams : List Value) :
    (s.service highlighting scope).fieldTypes.Follows streams
      (fun past call => s.type (past.map Event.ofCall) call.1 call.2)
      (fun past => past.map Event.ofCall) := by
  intro past field log
  dsimp only
  rw [List.map_append]
  exact ⟨log, rfl⟩

theorem isFine_of_answered {calls : List FieldTypes.Call}
    (answered : FieldTypes.Answered
      (fun past call => s.type (past.map Event.ofCall) call.1 call.2) [] calls) :
    s.IsFine (calls.map Event.ofCall) := by
  intro earlier event later split
  obtain ⟨before, others, rfl, rfl, hothers⟩ := List.map_eq_append_iff.1 split
  obtain ⟨call, after, rfl, rfl, -⟩ := List.map_eq_cons_iff.1 hothers
  obtain ⟨type, found⟩ := answered before call after rfl
  exact congrArg failureOf found

variable {spec : SearchSpec} {query : BackendQuery} {patterns : List String} {past : List Event}

theorem ends_hits (s : Script) (highlighting : Bool) (scope : IndexScope) (past : List Event)
    (query : BackendQuery) (indices : List String) :
    Ends ((s.service highlighting scope).backend.execute query indices) past
      (s.hits past query indices) (past ++ [.execution query indices]) :=
  fun log => ⟨log, rfl⟩

theorem ends_revision (s : Script) (highlighting : Bool) (scope : IndexScope) (past : List Event)
    (r : Response) (configs : List DecoratorConfig) :
    Ends ((s.service highlighting scope).decorators.decorate r configs) past (s.revision past r configs)
      (past ++ [.decoration r configs]) :=
  fun log => ⟨log, rfl⟩

theorem ends_execute_failed (streams : List String)
    (failed : s.hits past query patterns = .error failure) :
    Ends ((s.service highlighting scope).execute spec query patterns) past
      (.error ((Event.execution query patterns).reported streams failure))
      (past ++ [.execution query patterns]) := by
  have asked := s.ends_hits highlighting scope past query patterns
  rw [failed] at asked
  exact asked.handleFault_reported fun fault => (Ends.log _ _ _).bind (.fail _ _)

theorem ends_execute {found : List Hit} {total : Value}
    (given : s.hits past query patterns = .ok (found, total)) :
    Ends ((s.service highlighting scope).execute spec query patterns) past (.ok (found, total))
      (past ++ [.execution query patterns]) := by
  have asked := s.ends_hits highlighting scope past query patterns
  rw [given] at asked
  exact asked.handleFault_of_ne nofun

/-- A search for some terms has built its query and knows its patterns, and no call failed. -/
structure HasBuilt (s : Script) (highlighting : Bool) (scope : IndexScope) (t : SearchTerms)
    (query : BackendQuery) (patterns : List String) (past : List Event) : Prop where
  built : Ends ((s.service highlighting scope).builder.build t.spec
    (s.service highlighting scope).fieldTypes) [] (.ok query) past
  isPatterns : scope.patterns t.spec.streams = .ok patterns
  fine : s.IsFine past

variable {t : SearchTerms}

theorem ended_of_execution (start : s.HasBuilt highlighting scope t query patterns past)
    (failed : s.hits past query patterns = .error failure) (r : Response) :
    ∃ result events, Ends ((s.service highlighting scope).search t.spec none) [] result events ∧
      s.Ended t.streams.eraseDups
        (past ++ [.execution query patterns, .decoration r t.decorators]) result events := by
  have located := Ends.ofFault (congrArg ofFaults start.isPatterns) past
  refine ⟨.error ((Event.execution query patterns).reported t.streams.eraseDups failure),
    past ++ [.execution query patterns], ?_, ?_⟩
  · exact start.built.bind (located.bind (ends_execute_failed _ failed).bind_error)
  · have front : past ++ [.execution query patterns] <+:
        past ++ [.execution query patterns, .decoration r t.decorators] :=
      (List.prefix_append_right_inj past).2 ⟨[.decoration r t.decorators], rfl⟩
    exact .failed front start.fine (congrArg failureOf failed)

/-- When the hits are read, the decorators of the response decide. -/
theorem ended_of_hits (start : s.HasBuilt highlighting scope t query patterns past)
    {found : List Hit} {total : Value} {messages : List Message}
    (given : s.hits past query patterns = .ok (found, total))
    (read : Assembly.ReadAs Hit.read found messages) :
    let r := Assembly.response t.spec (messages.map Message.summary) total t.timeRange
    ∃ result events, Ends ((s.service highlighting scope).search t.spec none) [] result events ∧
      s.Ended t.streams.eraseDups
        (past ++ [.execution query patterns, .decoration r t.decorators]) result events := by
  intro r
  let executed := past ++ [.execution query patterns]
  have fine : s.IsFine executed := isFine_concat.2 ⟨start.fine, congrArg failureOf given⟩
  have searched {result : Except Failure Envelope} {events : List Event}
      (assembled : Ends (Assembly.assemble t.spec found total t.spec.timeRange
        (s.service highlighting scope).decorators none) executed result events) :
      Ends ((s.service highlighting scope).search t.spec none) [] result events := by
    refine start.built.bind ((Ends.ofFault (congrArg ofFaults start.isPatterns) past).bind ?_)
    refine (ends_execute given).bind ((Ends.ofFault rfl _).bind ?_)
    exact (Ends.log _ _ _).bind assembled
  have whole : past ++ [.execution query patterns, .decoration r t.decorators] =
      executed ++ [.decoration r t.decorators] := by
    rw [List.append_assoc]
    rfl
  have asked := s.ends_revision highlighting scope executed r t.decorators
  rw [whole]
  cases revised : s.revision executed r t.decorators with
  | error failure =>
    rw [revised] at asked
    refine ⟨_, _, searched (Assembly.ends_assemble_unsignalled_failed read asked), ?_⟩
    exact .failed List.prefix_rfl fine (congrArg failureOf revised)
  | ok done =>
    rw [revised] at asked
    refine ⟨_, _, searched (Assembly.ends_assemble_unsignalled read asked), ?_⟩
    have decorated : s.failure? executed (.decoration r t.decorators) = none :=
      congrArg failureOf revised
    exact .answered (isFine_concat.2 ⟨fine, decorated⟩) _

/-- The first lookup that fails ends the search. -/
theorem ended_of_lookup {calls earlier later : List FieldTypes.Call} {call : FieldTypes.Call}
    (split : calls = earlier ++ call :: later) (fine : s.IsFine (earlier.map Event.ofCall))
    (failed : s.failure? (earlier.map Event.ofCall) (.ofCall call) = some failure)
    (streams : List String) (others : List Event) :
    s.Ended streams (calls.map Event.ofCall ++ others)
      (.error ((Event.ofCall call).reported streams failure))
      ((earlier ++ [call]).map Event.ofCall) := by
  have front : (earlier ++ [call]).map Event.ofCall <+: calls.map Event.ofCall := by
    refine ⟨later.map Event.ofCall, ?_⟩
    rw [← List.map_append, List.append_assoc, List.singleton_append, ← split]
  rw [List.map_append] at front ⊢
  exact .failed (front.trans (List.prefix_append _ _)) fine failed

end Service

end Script

/-- The calls of a search for some terms, and its result.  The calls are a front of the lookups that the
sorts need, one execution and one decoration.  There is an answer when none of them fails, and then
they are all made; a call that fails is the last, and its failure is reported. -/
theorem SearchService.search_collaborators (s : Script) (t : SearchTerms) (highlighting : Bool)
    (scope : IndexScope) (named : scope.HasTextNames)
    (reads : ∀ past query indices found total, s.hits past query indices = .ok (found, total) →
      ∀ hit ∈ found, ∃ message, Hit.read hit = .ok message) :
    ∃ patterns query r result events, scope.patterns t.spec.streams = .ok patterns ∧
      Ends ((s.service highlighting scope).search t.spec none) [] result events ∧
      let whole := (QueryBuilder.calls t.spec.streams t.order).map Event.ofCall ++
        [.execution query patterns, .decoration r t.decorators]
      events <+: whole ∧ ((∃ envelope, result = .ok envelope) ↔ s.IsFine events) ∧
        (s.IsFine events → events = whole) ∧
        ∀ earlier event later failure, events = earlier ++ event :: later →
          s.failure? earlier event = some failure →
          later = [] ∧ result = .error (event.reported t.streams.eraseDups failure) := by
  obtain ⟨patterns, isPatterns⟩ := IndexScope.exists_patterns named t.spec.streams
  let lookups := (QueryBuilder.calls t.spec.streams t.order).map Event.ofCall
  obtain ⟨query, r, result, events, ends, ended⟩ : ∃ query r result events,
      Ends ((s.service highlighting scope).search t.spec none) [] result events ∧
        s.Ended t.streams.eraseDups
          (lookups ++ [.execution query patterns, .decoration r t.decorators]) result events := by
    let empty := Assembly.response t.spec [] .null t.timeRange
    rcases t.ends_build_of_follows highlighting (s.follows_service highlighting scope _) with
      ⟨answered, query, body, built, -⟩ | ⟨earlier, call, later, failure, split, answered, failed, stop⟩
    · have start : s.HasBuilt highlighting scope t query patterns lookups :=
        ⟨built, isPatterns, Script.isFine_of_answered answered⟩
      cases given : s.hits lookups query patterns with
      | error failure => exact ⟨query, empty, Script.ended_of_execution start given empty⟩
      | ok answer =>
        obtain ⟨found, total⟩ := answer
        obtain ⟨messages, read⟩ := Assembly.exists_readAs (reads _ _ _ found total given)
        exact ⟨query, _, Script.ended_of_hits start given read⟩
    · have ended := Script.ended_of_lookup split (Script.isFine_of_answered answered)
        (congrArg Script.failureOf failed) t.streams.eraseDups
        [.execution {} patterns, .decoration empty t.decorators]
      exact ⟨{}, empty, _, _, Ends.bind_error stop, ended⟩
  refine ⟨patterns, query, r, result, events, isPatterns, ends, ended.isPrefix, ended.answered_iff,
    ended.eq_whole, ?_⟩
  intro earlier event later failure split failed
  exact ended.of_failure split failed

/-- A type that is not known, a backend that fails with a fault, and decorators that are not asked. -/
theorem SearchService.search_collaborators_execution :
    let start : DateTime := ⟨0, some .utc, by decide⟩
    let range : TimeRange := ⟨start, start, rfl, rfl, Int.le_refl _⟩
    let t : SearchTerms :=
      { id := "s", timeRange := range, streams := ["b"], sorts := [⟨"level", .asc⟩]
        named := by decide }
    let down : Fault := .external .runtime (.str "down")
    let s : Script := ⟨fun _ _ _ => .ok .null, fun _ _ _ => .error (.fault down), fun _ _ _ => .ok .kept⟩
    ∃ query, Ends ((s.service false {}).search t.spec none) []
      (.error (.search (.failedExecution (.str "down") .null [.str "graylog_*"]) (some (.fault down))))
      [.lookup [.str "b"] (.str "level"), .execution query ["graylog_*"]] := by
  intro start range t down s
  have named : IndexScope.HasTextNames {} := ⟨⟨_, rfl⟩, fun _ member => (List.not_mem_nil member).elim⟩
  obtain ⟨patterns, query, r, result, events, isPatterns, ends, front, -, whole, stop⟩ :=
    search_collaborators s t false {} named nofun
  have only : IndexScope.patterns {} t.spec.streams = .ok ["graylog_*"] :=
    IndexScope.patterns_singleton (show IndexScope.nameOf {} (.str "b") = .str "graylog" from rfl)
  have needed : QueryBuilder.calls t.spec.streams t.order = [([.str "b"], .str "level")] := rfl
  obtain rfl := Except.ok.inj (only.symm.trans isPatterns)
  rw [needed] at front whole
  let lookup : Event := .lookup [.str "b"] (.str "level")
  have fine : s.IsFine [lookup] := Script.isFine_concat.2 ⟨Script.isFine_nil, rfl⟩
  rcases List.prefix_cons_iff.1 front with rfl | ⟨rest, rfl, behind⟩
  · cases whole Script.isFine_nil
  · rcases List.prefix_cons_iff.1 behind with rfl | ⟨rest, rfl, -⟩
    · cases whole fine
    · obtain ⟨rfl, told⟩ := stop [lookup] (.execution query ["graylog_*"]) rest (.fault down) rfl rfl
      rw [told] at ends
      exact ⟨query, ends⟩

end LogSearch
