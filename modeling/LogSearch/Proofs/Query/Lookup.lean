import LogSearch.Proofs.Query.Body
import LogSearch.Proofs.Sort.Requests

/-!
# Which types are looked up

A query needs the type of each field that it sorts by, except of the sequence, whose type is known.
The collaborator that knows the types is asked one call after the other, in the order of the sorts,
and the first failure is the last call.  Nothing is asked before every sort was found well formed.

The collaborator here is any that answers each call as it likes, given the calls before it, and
keeps them; so the state that it is left in is the trace of the calls.

Main statement: `QueryBuilder.build_outcome`.
-/

namespace LogSearch

open LogSearch.Flow (Ends)

namespace FieldTypes

/-- A call for the type of a field in some streams. -/
abbrev Call := List Value × Value

/-- How each call is answered, given the calls before it. -/
abbrev Answers := List Call → Call → Except Failure Value

/-- A collaborator that gives some answers and keeps the calls. -/
def recording (answers : Answers) : FieldTypes (List Call) where
  resolve streams field :=
    Flow.ask fun calls => (answers calls (streams, field), calls ++ [(streams, field)])

/-- None of some calls, coming after those in `past`, has a failure for an answer. -/
def Answered (answers : Answers) (past calls : List Call) : Prop :=
  ∀ earlier call later, calls = earlier ++ call :: later →
    ∃ type, answers (past ++ earlier) call = .ok type

/-- A collaborator answers the calls for types in some streams as `answers` does, and is in the state
`state past` after the calls in `past`. -/
def Follows {σ : Type} (types : FieldTypes σ) (streams : List Value) (answers : Answers)
    (state : List Call → σ) : Prop :=
  ∀ past field, Ends (types.resolve streams (.str field)) (state past)
    (answers past (streams, .str field)) (state (past ++ [(streams, .str field)]))

variable {answers : Answers} {past calls : List Call} {call : Call}

theorem follows_recording (answers : Answers) (streams : List Value) :
    (recording answers).Follows streams answers id :=
  fun _ _ log => ⟨log, rfl⟩

theorem answered_nil : Answered answers past [] := by
  intro earlier call later h
  cases earlier <;> cases h

theorem answered_cons :
    Answered answers past (call :: calls) ↔
      (∃ type, answers past call = .ok type) ∧ Answered answers (past ++ [call]) calls := by
  constructor
  · intro h
    constructor
    · simpa using h [] call calls rfl
    · rintro earlier next later rfl
      simpa using h (call :: earlier) next later rfl
  · rintro ⟨first, rest⟩ earlier next later h
    cases earlier with
    | nil =>
      obtain ⟨rfl, rfl⟩ := List.cons.inj h
      simpa using first
    | cons _ earlier =>
      obtain ⟨rfl, rfl⟩ := List.cons.inj h
      simpa using rest earlier next later rfl

/-- If not all calls are answered there is a first that is not. -/
theorem answered_or_failed (answers : Answers) (past calls : List Call) :
    Answered answers past calls ∨ ∃ earlier call later failure,
      calls = earlier ++ call :: later ∧ Answered answers past earlier ∧
        answers (past ++ earlier) call = .error failure := by
  induction calls generalizing past with
  | nil => exact .inl answered_nil
  | cons call rest ih =>
    cases first : answers past call with
    | error failure =>
      refine .inr ⟨[], call, rest, failure, rfl, answered_nil, ?_⟩
      rw [List.append_nil, first]
    | ok type =>
      rcases ih (past ++ [call]) with others | ⟨earlier, stop, later, failure, rfl, fine, failed⟩
      · exact .inl (answered_cons.2 ⟨⟨type, first⟩, others⟩)
      · refine .inr ⟨call :: earlier, stop, later, failure, rfl, ?_, ?_⟩
        · exact answered_cons.2 ⟨⟨type, first⟩, fine⟩
        · rwa [List.append_cons]

end FieldTypes

namespace QueryBuilder

open FieldTypes (Call Answers Answered Follows recording)

/-- The calls that some sorts need, in order: none for the sequence, whose type is known. -/
def calls (streams : List Value) (clauses : List SortClause) : List Call :=
  (clauses.filter (·.field ≠ sequenceField)).map fun c => (streams, .str c.field)

/-- How the failure of a call comes up: a fault is reported with the field and the streams, in
order. -/
def callFailure (streams : List String) (call : Call) (failure : Failure) : Failure :=
  failure.reported fun _ => .unresolvedType call.2 ((Sorted.stable Text.codes streams).map .str)

variable {σ : Type} {types : FieldTypes σ} {answers : Answers} {state : List Call → σ}
  {spec : SearchSpec} {streams : List String} {past : List Call} {clauses : List SortClause}

theorem calls_cons_of_sequence {c : SortClause} (h : c.field = sequenceField)
    (streams : List Value) (clauses : List SortClause) :
    calls streams (c :: clauses) = calls streams clauses := by
  simp [calls, h]

theorem calls_cons_of_ne {c : SortClause} (h : c.field ≠ sequenceField)
    (streams : List Value) (clauses : List SortClause) :
    calls streams (c :: clauses) = (streams, .str c.field) :: calls streams clauses := by
  simp [calls, h]

/-- What is known of the types that sorts by some clauses declare, where the calls come after those in
`past`: a sort by the sequence declares its type, and any other what its call was answered. -/
inductive Typed (answers : Answers) (streams : List Value) :
    List Call → List SortClause → List FieldSort → Prop
  | nil (past : List Call) : Typed answers streams past [] []
  | sequence {past : List Call} {c : SortClause} {clauses : List SortClause} {sorts : List FieldSort}
      (known : c.field = sequenceField) (rest : Typed answers streams past clauses sorts) :
      Typed answers streams past (c :: clauses) (c.withType (some (.str sequenceType)) :: sorts)
  | asked {past : List Call} {c : SortClause} {clauses : List SortClause} {sorts : List FieldSort}
      {type : Value} (unknown : c.field ≠ sequenceField)
      (found : answers past (streams, .str c.field) = .ok type)
      (rest : Typed answers streams (past ++ [(streams, .str c.field)]) clauses sorts) :
      Typed answers streams past (c :: clauses)
        (c.withType (if type.isTrue then some type else none) :: sorts)

theorem Typed.forall₂ {streams : List Value} {sorts : List FieldSort}
    (h : Typed answers streams past clauses sorts) :
    List.Forall₂ (fun c s => ∃ type, s = SortClause.withType c type) clauses sorts := by
  induction h with
  | nil => exact .nil
  | sequence _ _ ih => exact .cons ⟨_, rfl⟩ ih
  | asked _ _ _ ih => exact .cons ⟨_, rfl⟩ ih

/-- When every call is answered, the sorts have types, and the calls are those that they need. -/
theorem ends_lookups_typed (follows : types.Follows spec.streams answers state)
    (answered : Answered answers past (calls spec.streams clauses)) :
    ∃ sorts, Typed answers spec.streams past clauses sorts ∧
      Ends (clauses.mapM (fieldSort types spec)) (state past) (.ok sorts)
        (state (past ++ calls spec.streams clauses)) := by
  -- Each call is answered in the state that the calls before it leave, so these are generalized.
  induction clauses generalizing past with
  | nil =>
    refine ⟨[], .nil past, ?_⟩
    rw [show calls spec.streams [] = [] from rfl, List.append_nil]
    exact .pure [] _
  | cons c rest ih =>
    by_cases sequence : c.field = sequenceField
    · rw [calls_cons_of_sequence sequence] at answered ⊢
      obtain ⟨sorts, typed, others⟩ := ih answered
      refine ⟨c.withType (some (.str sequenceType)) :: sorts, .sequence sequence typed, ?_⟩
      rw [List.mapM_cons]
      exact (ends_fieldSort_sequence sequence _).bind (others.bind (.pure _ _))
    · rw [calls_cons_of_ne sequence] at answered ⊢
      obtain ⟨⟨type, found⟩, answered⟩ := FieldTypes.answered_cons.1 answered
      obtain ⟨sorts, typed, others⟩ := ih answered
      refine ⟨c.withType (if type.isTrue then some type else none) :: sorts,
        .asked sequence found typed, ?_⟩
      rw [List.mapM_cons, List.append_cons]
      have first := follows past c.field
      rw [found] at first
      exact (ends_fieldSort_found sequence first).bind (others.bind (.pure _ _))

theorem ends_lookups_of_follows (follows : types.Follows spec.streams answers state)
    (answered : Answered answers past (calls spec.streams clauses)) :
    ∃ sorts, List.Forall₂ (fun c s => ∃ type, s = SortClause.withType c type) clauses sorts ∧
      Ends (clauses.mapM (fieldSort types spec)) (state past) (.ok sorts)
        (state (past ++ calls spec.streams clauses)) := by
  obtain ⟨sorts, typed, found⟩ := ends_lookups_typed follows answered
  exact ⟨sorts, typed.forall₂, found⟩

/-- The first call that fails is the last call. -/
theorem ends_lookups_failed_of_follows {earlier later : List Call} {call : Call} {failure : Failure}
    (follows : types.Follows spec.streams answers state) (named : spec.streams = streams.map .str)
    (found : calls spec.streams clauses = earlier ++ call :: later)
    (answered : Answered answers past earlier)
    (failed : answers (past ++ earlier) call = .error failure) :
    Ends (clauses.mapM (fieldSort types spec)) (state past)
      (.error (callFailure streams call failure)) (state (past ++ earlier ++ [call])) := by
  -- The sorts before the failing one are those of the earlier calls, and sorts by the sequence.
  obtain ⟨first, rest, split, hfirst, hrest⟩ := List.map_eq_append_iff.1 found
  obtain ⟨c, _, hc, rfl, -⟩ := List.map_eq_cons_iff.1 hrest
  subst hc
  obtain ⟨before, others, rfl, hbefore, hothers⟩ := List.filter_eq_append_iff.1 split
  obtain ⟨sequences, after, rfl, hsequences, hc, -⟩ := List.filter_eq_cons_iff.1 hothers
  have needed : calls spec.streams (before ++ sequences) = earlier := by
    have none : sequences.filter (·.field ≠ sequenceField) = [] :=
      List.filter_eq_nil_iff.2 hsequences
    unfold calls
    rw [List.filter_append, none, List.append_nil, hbefore, hfirst]
  have front : Answered answers past (calls spec.streams (before ++ sequences)) := needed ▸ answered
  obtain ⟨sorts, -, before⟩ := ends_lookups_of_follows follows front
  rw [needed] at before
  rw [← List.append_assoc, List.mapM_append, List.mapM_cons]
  have sorted : Sorted.sort spec.streams = .ok ((Sorted.stable Text.codes streams).map .str) := by
    rw [named]
    exact Sorted.sort_texts streams
  have asked := follows (past ++ earlier) c.field
  rw [failed] at asked
  have stop := ends_fieldSort_failed (of_decide_eq_true hc) sorted asked
  exact before.bind stop.bind_error.bind_error

theorem ends_lookups (answered : Answered answers past (calls spec.streams clauses)) :
    ∃ sorts, List.Forall₂ (fun c s => ∃ type, s = SortClause.withType c type) clauses sorts ∧
      Ends (clauses.mapM (fieldSort (recording answers) spec)) past (.ok sorts)
        (past ++ calls spec.streams clauses) :=
  ends_lookups_of_follows (FieldTypes.follows_recording answers spec.streams) answered

theorem ends_lookups_failed {earlier later : List Call} {call : Call} {failure : Failure}
    (named : spec.streams = streams.map .str)
    (found : calls spec.streams clauses = earlier ++ call :: later)
    (answered : Answered answers past earlier)
    (failed : answers (past ++ earlier) call = .error failure) :
    Ends (clauses.mapM (fieldSort (recording answers) spec)) past
      (.error (callFailure streams call failure)) (past ++ earlier ++ [call]) :=
  ends_lookups_failed_of_follows (FieldTypes.follows_recording answers spec.streams) named found
    answered failed

/-- How building a query ends, and what is asked for it.  A sort that is not well formed is reported
before anything is asked, the first if there are several.  If there is none, the calls are those that
the normal form of the sorts needs, up to the first that fails, whose failure comes up; and if none
fails, there is a query. -/
theorem build_outcome (highlighting : Bool) (answers : Answers) {spec : SearchSpec} {text : String}
    {streams : List String} (worded : spec.queryString = .str text)
    (named : spec.streams = streams.map .str) :
    let run := build { highlighting } spec (recording answers)
    (∀ before x after, spec.sorts = before ++ x :: after →
      (∀ y ∈ before, y.isWellFormed = true) → x.isWellFormed = false →
      Ends run [] (.error x.complaint) []) ∧
    ((∀ x ∈ spec.sorts, x.isWellFormed = true) →
      ∃ clauses, List.Forall₂ SortRequest.Is spec.sorts clauses ∧
        let needed := calls spec.streams (SortNames.normalized {} clauses)
        (Answered answers [] needed → ∃ query, Ends run [] (.ok query) needed) ∧
        ∀ earlier call later failure, needed = earlier ++ call :: later →
          Answered answers [] earlier → answers earlier call = .error failure →
          Ends run [] (.error (callFailure streams call failure)) (earlier ++ [call])) := by
  intro run
  have wanted := baseQuery_of_texts worded named
  constructor
  · intro before x after split fine malformed
    apply ends_build_of_unchecked
    rw [split]
    exact SortRequest.mapM_check_of_malformed fine malformed
  · intro fine
    obtain ⟨clauses, checked, are⟩ := SortRequest.exists_mapM_check fine
    refine ⟨clauses, are, ?_, ?_⟩
    · intro answered
      obtain ⟨sorts, typed, found⟩ := ends_lookups answered
      have highlighted : highlight? { highlighting } spec.queryString =
          .ok (highlightOf highlighting text) := by
        rw [worded]
        exact highlight?_str _ text
      obtain ⟨body, shown⟩ := exists_record_combined spec (baseBody spec.timeRange text streams)
        SortNames.normalized_ne_nil typed highlighting text
      exact ⟨_, ends_build (sortsBy_default highlighting) checked wanted found highlighted shown⟩
    · intro earlier call later failure split answered failed
      have stop := ends_lookups_failed named split answered failed
      exact ends_build_of_lookup (sortsBy_default highlighting) checked wanted stop

/-- Two sorts of which the first is looked up and the second is not found, and a malformed sort
behind a good one. -/
theorem build_outcome_two_sorts :
    let start : DateTime := ⟨0, some .utc, by decide⟩
    let range : TimeRange := ⟨start, start, rfl, rfl, Int.le_refl _⟩
    let spec (sorts : List SortRequest) : SearchSpec :=
      ⟨.str "s", range, .str "*", .int 0, .int 0, [], sorts, [.str "b"], [], .null⟩
    let level : SortClause := ⟨"level", .asc⟩
    let time : SortClause := ⟨"timestamp", .desc⟩
    let first : Call := ([.str "b"], .str "level")
    let second : Call := ([.str "b"], .str "timestamp")
    let answers (answer : Except Failure Value) : Answers := fun past _ =>
      if past = [] then .ok (.str "long") else answer
    let run (sorts : List SortRequest) (answer : Except Failure Value) :=
      build { } (spec sorts) (recording (answers answer))
    Ends (run [.clause level, .clause time] (.error (.fault .circular))) []
        (.error (.search (.unresolvedType (.str "timestamp") [.str "b"]) (some (.fault .circular))))
        [first, second] ∧
      (∃ query, Ends (run [.clause level, .clause time] (.ok .null)) [] (.ok query)
        [first, second]) ∧
      Ends (run [.clause level, .unchecked (.str " ") .null] (.ok .null)) []
        (.error (.search (.invalidSort (.str " ") .null "sort field must not be empty") none)) [] := by
  intro start range spec level time first second answers run
  have outcome (sorts answer) :=
    build_outcome false (answers answer) (show (spec sorts).queryString = .str "*" from rfl)
      (show (spec sorts).streams = ["b"].map .str from rfl)
  have fine : ∀ x ∈ [SortRequest.clause level, .clause time], x.isWellFormed = true := by decide
  have answered (answer) : Answered (answers answer) [] [first] :=
    FieldTypes.answered_cons.2 ⟨⟨.str "long", rfl⟩, FieldTypes.answered_nil⟩
  have alone : Sorted.stable Text.codes ["b"] = ["b"] := Sorted.stable_of_ascends (List.pairwise_singleton _ _)
  refine ⟨?_, ?_, ?_⟩
  · obtain ⟨clauses, are, -, stop⟩ := (outcome _ (.error (.fault .circular))).2 fine
    obtain rfl : clauses = [level, time] := SortRequest.eq_of_are_clauses are
    have ends := stop [first] second [] (.fault .circular) rfl (answered _) rfl
    rwa [callFailure, Failure.reported, alone] at ends
  · obtain ⟨clauses, are, go, -⟩ := (outcome _ (.ok .null)).2 fine
    obtain rfl : clauses = [level, time] := SortRequest.eq_of_are_clauses are
    exact go (FieldTypes.answered_cons.2 ⟨⟨.str "long", rfl⟩,
      FieldTypes.answered_cons.2 ⟨⟨.null, rfl⟩, FieldTypes.answered_nil⟩⟩)
  · refine (outcome _ (.ok .null)).1 [.clause level] (.unchecked (.str " ") .null) [] rfl ?_ ?_
    · intro y hy
      exact fine y (List.mem_cons.2 (.inl (List.mem_singleton.1 hy)))
    · decide

end QueryBuilder

/-- The calls that the query for some terms needs are all answered, and there is a query, which has a
body and declares the types that were found; or one is the first that fails, and its failure comes
up. -/
theorem SearchTerms.ends_build_of_sortsBy {σ : Type} {types : FieldTypes σ}
    {answers : FieldTypes.Answers} {state : List FieldTypes.Call → σ} {b : QueryBuilder}
    {names : SortNames} (t : SearchTerms) (known : b.SortsBy names)
    (follows : types.Follows t.spec.streams answers state) :
    let run := b.build t.spec types
    let clauses := names.normalized t.sorts
    let needed := QueryBuilder.calls t.spec.streams clauses
    (FieldTypes.Answered answers [] needed ∧ ∃ query body,
        Ends run (state []) (.ok query) (state needed) ∧ query.record = .ok body ∧
        QueryBuilder.Typed answers t.spec.streams [] clauses query.sorts) ∨
      ∃ earlier call later failure, needed = earlier ++ call :: later ∧
        FieldTypes.Answered answers [] earlier ∧ answers earlier call = .error failure ∧
        Ends run (state [])
          (.error (QueryBuilder.callFailure t.streams.eraseDups call failure))
          (state (earlier ++ [call])) := by
  intro run clauses needed
  have checked := t.mapM_check_spec
  let base := QueryBuilder.baseBody t.timeRange t.text t.streams.eraseDups
  have wanted : QueryBuilder.baseQuery t.spec = .ok base :=
    QueryBuilder.baseQuery_of_texts rfl rfl
  rcases FieldTypes.answered_or_failed answers [] needed with
    answered | ⟨earlier, call, later, failure, split, answered, failed⟩
  · refine .inl ⟨answered, ?_⟩
    obtain ⟨sorts, typed, found⟩ := QueryBuilder.ends_lookups_typed follows answered
    have highlighted := QueryBuilder.highlight?_str b t.text
    obtain ⟨body, shown⟩ := QueryBuilder.exists_record_combined t.spec base
      SortNames.normalized_ne_nil typed.forall₂ b.highlighting t.text
    exact ⟨_, body, QueryBuilder.ends_build known checked wanted found highlighted shown, shown, typed⟩
  · refine .inr ⟨earlier, call, later, failure, split, answered, failed, ?_⟩
    have stop := QueryBuilder.ends_lookups_failed_of_follows follows rfl split answered failed
    exact QueryBuilder.ends_build_of_lookup known checked wanted stop

/-- The same for a builder that knows the time and the sequence by their own names. -/
theorem SearchTerms.ends_build_of_follows {σ : Type} {types : FieldTypes σ}
    {answers : FieldTypes.Answers} {state : List FieldTypes.Call → σ} (t : SearchTerms)
    (highlighting : Bool) (follows : types.Follows t.spec.streams answers state) :
    let run := QueryBuilder.build { highlighting } t.spec types
    let needed := QueryBuilder.calls t.spec.streams t.order
    (FieldTypes.Answered answers [] needed ∧ ∃ query body,
        Ends run (state []) (.ok query) (state needed) ∧ query.record = .ok body) ∨
      ∃ earlier call later failure, needed = earlier ++ call :: later ∧
        FieldTypes.Answered answers [] earlier ∧ answers earlier call = .error failure ∧
        Ends run (state [])
          (.error (QueryBuilder.callFailure t.streams.eraseDups call failure))
          (state (earlier ++ [call])) := by
  intro run needed
  have outcome := t.ends_build_of_sortsBy (QueryBuilder.sortsBy_default highlighting) follows
  simp only [t.normalized_sorts] at outcome
  rcases outcome with ⟨answered, query, body, ends, shown, -⟩ | failed
  · exact .inl ⟨answered, query, body, ends, shown⟩
  · exact .inr failed

end LogSearch
