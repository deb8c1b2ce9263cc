import LogSearch.Proofs.Query.Lookup
import LogSearch.Proofs.Sort.Idempotence

/-!
# The type of the sequence

The names of the time and the sequence can be chosen for the sorts of a query, but the field whose type
is known beforehand has one name.  Where the sequence has that name too, sorts by it declare the type
and nobody is asked for it.  Where it has another, it is looked up like any field, and a sort by it
declares what was answered.

Main statement: `build_sequence_type`.
-/

namespace LogSearch

namespace QueryBuilder

open LogSearch.Flow (Ends)
open FieldTypes (Call Answers Answered recording)

variable {answers : Answers} {streams : List Value} {past : List Call} {clauses : List SortClause}
  {sorts : List FieldSort}

/-- The type that a sort declares for an answer: none for an empty one. -/
def declared (answer : Value) : Option Value := if answer.isTrue then some answer else none

/-- Nobody is asked for the field whose type is known. -/
theorem sequenceField_notMem_calls {call : Call} (h : call ∈ calls streams clauses) :
    call.2 ≠ .str sequenceField := by
  obtain ⟨c, hc, rfl⟩ := List.mem_map.1 h
  have other : c.field ≠ sequenceField := by simpa using (List.mem_filter.1 hc).2
  intro same
  exact other (Value.str.inj same)

/-- Each sort with a type is by one of the clauses.  Its type is the known one, or the answer to a call
that was made for its field. -/
theorem Typed.exists_of_mem (h : Typed answers streams past clauses sorts) {s : FieldSort}
    (hs : s ∈ sorts) : ∃ c ∈ clauses, s.field = .str c.field ∧
      ((c.field = sequenceField ∧ s.unmappedType = some (.str sequenceType)) ∨
        (c.field ≠ sequenceField ∧ ∃ before after answer,
          calls streams clauses = before ++ (streams, .str c.field) :: after ∧
          answers (past ++ before) (streams, .str c.field) = .ok answer ∧
          s.unmappedType = declared answer)) := by
  induction h with
  | nil => simp at hs
  | @sequence past c clauses sorts known _ ih =>
    rcases List.mem_cons.1 hs with rfl | hs
    · exact ⟨c, List.mem_cons_self, rfl, .inl ⟨known, rfl⟩⟩
    · obtain ⟨d, hd, shown⟩ := ih hs
      rw [calls_cons_of_sequence known]
      exact ⟨d, List.mem_cons_of_mem c hd, shown⟩
  | @asked past c clauses sorts answer unknown found _ ih =>
    rw [calls_cons_of_ne unknown]
    rcases List.mem_cons.1 hs with rfl | hs
    · refine ⟨c, List.mem_cons_self, rfl, .inr ⟨unknown, [], calls streams clauses, answer, rfl, ?_⟩⟩
      rw [List.append_nil]
      exact ⟨found, rfl⟩
    · obtain ⟨d, hd, on, shown⟩ := ih hs
      refine ⟨d, List.mem_cons_of_mem c hd, on, shown.imp_right ?_⟩
      rintro ⟨other, before, after, later, split, answered, type⟩
      -- The call for `c` comes before those for the sorts behind it.
      refine ⟨other, (streams, .str c.field) :: before, after, later, ?_, ?_, type⟩
      · rw [split, List.cons_append]
      · rwa [List.append_cons]

/-- The sorts that are given types are by the clauses, in their directions. -/
theorem Typed.sorts_by (h : Typed answers streams past clauses sorts) :
    List.Forall₂ (fun c s => FieldSort.field s = .str c.field ∧ s.order = .order c.order)
      clauses sorts := by
  refine h.forall₂.imp ?_
  rintro c s ⟨type, rfl⟩
  exact ⟨rfl, rfl⟩

/-- A query for some terms is built when every call that its sorts need is answered. -/
theorem exists_typed_of_answered {b : QueryBuilder} {names : SortNames} (known : b.SortsBy names)
    (t : SearchTerms)
    (answered : Answered answers [] (calls t.spec.streams (names.normalized t.sorts))) :
    ∃ query, Ends (b.build t.spec (recording answers)) [] (.ok query)
        (calls t.spec.streams (names.normalized t.sorts)) ∧
      Typed answers t.spec.streams [] (names.normalized t.sorts) query.sorts := by
  have follows := FieldTypes.follows_recording answers t.spec.streams
  rcases t.ends_build_of_sortsBy known follows with
    ⟨-, query, -, ends, -, typed⟩ | ⟨earlier, call, later, failure, split, -, failed, -⟩
  · exact ⟨query, ends, typed⟩
  · obtain ⟨type, found⟩ := answered earlier call later split
    rw [List.nil_append, failed] at found
    cases found

/-- A query that is built for some terms has been asked for all that its sorts need, and these have the
types that were found. -/
theorem typed_of_ends_build {b : QueryBuilder} {names : SortNames} (known : b.SortsBy names)
    (t : SearchTerms) {query : BackendQuery} {log : List Call}
    (built : Ends (b.build t.spec (recording answers)) [] (.ok query) log) :
    log = calls t.spec.streams (names.normalized t.sorts) ∧
      Typed answers t.spec.streams [] (names.normalized t.sorts) query.sorts := by
  have follows := FieldTypes.follows_recording answers t.spec.streams
  rcases t.ends_build_of_sortsBy known follows with
    ⟨-, other, -, ends, -, typed⟩ | ⟨_, _, _, _, -, -, -, ends⟩
  · obtain ⟨same, rfl⟩ := built.unique ends
    obtain rfl := Except.ok.inj same
    exact ⟨rfl, typed⟩
  · cases (built.unique ends).1

/-- A query for some terms is built when every call that its sorts need is answered, and then those
are the calls.  There is a sort by the sequence when the time or the sequence is asked for.  It
declares the known type, and the type of the sequence is not asked for, where the sequence has the
name of the field with that type; else it declares what a call for it was answered. -/
theorem build_sequence_type {b : QueryBuilder} {names : SortNames} (known : b.SortsBy names)
    (t : SearchTerms) (answers : Answers) :
    let run := b.build t.spec (recording answers)
    let clauses := names.normalized t.sorts
    let needed := calls t.spec.streams clauses
    (Answered answers [] needed → ∃ query, Ends run [] (.ok query) needed) ∧
    ∀ query log, Ends run [] (.ok query) log →
      log = needed ∧
      List.Forall₂ (fun c s => FieldSort.field s = .str c.field ∧ s.order = .order c.order)
        clauses query.sorts ∧
      ((∃ c ∈ t.sorts, c.field = names.timestamp ∨ c.field = names.sequence) →
        ∃ s ∈ query.sorts, s.field = .str names.sequence) ∧
      (names.sequence = "gl2_message_id" →
        (∀ s ∈ query.sorts, s.field = .str names.sequence →
          s.unmappedType = some (.str "keyword")) ∧
        ∀ call ∈ log, call.2 ≠ .str names.sequence) ∧
      (names.sequence ≠ "gl2_message_id" →
        ∀ s ∈ query.sorts, s.field = .str names.sequence →
          ∃ before after answer, log = before ++ (t.spec.streams, .str names.sequence) :: after ∧
            answers before (t.spec.streams, .str names.sequence) = .ok answer ∧
            s.unmappedType = declared answer) := by
  intro run clauses needed
  refine ⟨?_, ?_⟩
  · intro answered
    obtain ⟨query, ends, -⟩ := exists_typed_of_answered known t answered
    exact ⟨query, ends⟩
  · intro query log built
    obtain ⟨rfl, typed⟩ := typed_of_ends_build known t built
    refine ⟨rfl, typed.sorts_by, ?_, ?_, ?_⟩
    · rintro ⟨c, hc, asked⟩
      have ne : t.sorts ≠ [] := List.ne_nil_of_mem hc
      have kept : c.field ∈ clauses.map SortClause.field :=
        SortNames.mem_fields_normalized (List.mem_map.2 ⟨c, hc, rfl⟩)
      have sequenced : names.sequence ∈ clauses.map SortClause.field := by
        rcases asked with timed | ordered
        · exact (SortNames.isNormal_normalized ne).tied (timed ▸ kept)
        · exact ordered ▸ kept
      obtain ⟨d, hd, on⟩ := List.mem_map.1 sequenced
      obtain ⟨s, hs, field, -⟩ := exists_mem_of_forall₂ typed.sorts_by.flip hd
      exact ⟨s, hs, field.trans (congrArg Value.str on)⟩
    · intro same
      refine ⟨fun s hs on => ?_, fun call member => same ▸ sequenceField_notMem_calls member⟩
      obtain ⟨c, -, field, ⟨-, type⟩ | ⟨other, -⟩⟩ := typed.exists_of_mem hs
      · exact type
      · have named : c.field = names.sequence := Value.str.inj (field.symm.trans on)
        exact absurd (named.trans same) other
    · intro other s hs on
      obtain ⟨c, -, field, shown⟩ := typed.exists_of_mem hs
      obtain named : c.field = names.sequence := Value.str.inj (field.symm.trans on)
      rw [named] at shown
      rcases shown with ⟨same, -⟩ | ⟨-, before, after, answer, split, answered, type⟩
      · exact absurd same other
      · exact ⟨before, after, answer, split, answered, type⟩

/-- The tie-break of a sort by time, with the usual names and no type known to anyone. -/
theorem build_sequence_type_tie_break :
    let start : DateTime := ⟨0, some .utc, by decide⟩
    let range : TimeRange := ⟨start, start, rfl, rfl, Int.le_refl _⟩
    let t : SearchTerms :=
      { id := "s", timeRange := range, sorts := [⟨"timestamp", .desc⟩], named := by decide }
    let answers : Answers := fun _ _ => .ok .null
    SortsBy {} {} ∧ ∃ query log,
      Ends (build {} t.spec (recording answers)) [] (.ok query) log ∧
      (∃ s ∈ query.sorts, s.field = .str "gl2_message_id" ∧
        s.unmappedType = some (.str "keyword")) ∧
      ∀ call ∈ log, call.2 ≠ .str "gl2_message_id" := by
  intro start range t answers
  have known : SortsBy {} {} := sortsBy_default false
  obtain ⟨built, sorted⟩ := build_sequence_type known t answers
  have answered : Answered answers [] (calls t.spec.streams (SortNames.normalized {} t.sorts)) :=
    fun _ _ _ _ => ⟨.null, rfl⟩
  obtain ⟨query, ends⟩ := built answered
  obtain ⟨-, -, present, usual, -⟩ := sorted query _ ends
  obtain ⟨typed, unasked⟩ := usual rfl
  obtain ⟨s, hs, on⟩ := present ⟨⟨"timestamp", .desc⟩, List.mem_cons_self, .inl rfl⟩
  exact ⟨known, query, _, ends, ⟨s, hs, on, typed s hs on⟩, unasked⟩

/-- With another name for the sequence, a tie-break by it declares no type, and it is asked for. -/
theorem build_sequence_type_renamed :
    let start : DateTime := ⟨0, some .utc, by decide⟩
    let range : TimeRange := ⟨start, start, rfl, rfl, Int.le_refl _⟩
    let t : SearchTerms :=
      { id := "s", timeRange := range, sorts := [⟨"timestamp", .desc⟩], named := by decide }
    let names : SortNames := { sequence := "arrival" }
    let b : QueryBuilder := { sortFields := names.fields }
    b.SortsBy names ∧ ∃ query log,
      Ends (b.build t.spec (recording fun _ _ => .ok .null)) [] (.ok query) log ∧
      (∃ s ∈ query.sorts, s.field = .str "arrival" ∧ s.unmappedType = none) ∧
      ([], .str "arrival") ∈ log := by
  intro start range t names b
  have known : b.SortsBy names := ⟨rfl, by decide, by decide⟩
  have sorts : names.normalized t.sorts = [⟨"timestamp", .desc⟩, ⟨"arrival", .desc⟩] := by decide
  have answered : Answered (fun _ _ => .ok .null) [] (calls t.spec.streams (names.normalized t.sorts)) :=
    fun _ _ _ _ => ⟨.null, rfl⟩
  obtain ⟨query, ends, typed⟩ := exists_typed_of_answered known t answered
  rw [sorts] at ends typed
  refine ⟨known, query, _, ends, ?_, List.mem_cons_of_mem _ List.mem_cons_self⟩
  obtain ⟨s, hs, on, -⟩ := exists_mem_of_forall₂ typed.sorts_by.flip
    (List.mem_cons_of_mem _ List.mem_cons_self : (⟨"arrival", .desc⟩ : SortClause) ∈ _)
  refine ⟨s, hs, on, ?_⟩
  obtain ⟨c, -, field, ⟨same, -⟩ | ⟨-, before, after, answer, -, answered, type⟩⟩ :=
    typed.exists_of_mem hs
  · rw [on, same] at field
    exact absurd (Value.str.inj field) (by decide)
  · obtain rfl := Except.ok.inj answered
    exact type

end QueryBuilder

end LogSearch
