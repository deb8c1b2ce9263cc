import LogSearch.Proofs.Flow
import LogSearch.Query.Build

/-!
# How building a query ends

Building checks the sorts, then finds what is searched for, then looks up the type of each sort, and
ends with the body of the query.  `ends_build_of_unchecked` and `ends_build_of_lookup` are its two
failures; `ends_build` is its success.

Going back from a query that is built: it has a body, and what is searched for is a text or bytes.
-/

namespace LogSearch

/-- A sort by a clause. -/
def SortClause.withType (c : SortClause) (type : Option Value) : FieldSort :=
  ⟨.str c.field, .order c.order, type⟩

namespace QueryBuilder

open LogSearch.Flow (Ends)

variable {σ : Type} {b : QueryBuilder} {spec : SearchSpec} {types : FieldTypes σ}
  {query : BackendQuery} {s t : Session σ}

/-- A query that is built is made of its parts, and has a body. -/
theorem exists_parts_of_exec_build (h : Flow.exec (b.build spec types) s = (.ok query, t)) :
    ∃ base sorts highlight, query = combined spec base sorts highlight ∧
      baseQuery spec = .ok base ∧ b.highlight? spec.queryString = .ok highlight ∧
      ∃ body, query.record = .ok body := by
  unfold build at h
  obtain ⟨_, _, -, h⟩ := Flow.exists_of_exec_bind h
  obtain ⟨base, _, hbase, h⟩ := Flow.exists_of_exec_bind h
  obtain ⟨_, _, -, h⟩ := Flow.exists_of_exec_bind h
  obtain ⟨sorts, _, -, h⟩ := Flow.exists_of_exec_bind h
  obtain ⟨highlight, _, hhighlight, h⟩ := Flow.exists_of_exec_bind h
  obtain ⟨body, _, hbody, h⟩ := Flow.exists_of_exec_bind h
  obtain ⟨_, _, -, h⟩ := Flow.exists_of_exec_bind h
  obtain rfl := Except.ok.inj (Prod.mk.inj h).1
  exact ⟨base, sorts, highlight, rfl, (Flow.eq_ok_of_exec_ofFault hbase).1,
    (Flow.eq_ok_of_exec_ofFault hhighlight).1, body, (Flow.eq_ok_of_exec_ofFault hbody).1⟩

/-- What is searched for is known when the query is built, and the query has a body. -/
theorem of_exec_build (h : Flow.exec (b.build spec types) s = (.ok query, t)) :
    (∃ base, baseQuery spec = .ok base) ∧ ∃ body, query.record = .ok body := by
  obtain ⟨base, -, -, -, hbase, -, shown⟩ := exists_parts_of_exec_build h
  exact ⟨⟨base, hbase⟩, shown⟩

/-- A builder that knows the time and the sequence by names that are not blank. -/
structure SortsBy (b : QueryBuilder) (names : SortNames) : Prop where
  fields : b.sortFields = names.fields
  timestamp : Text.allBlank names.timestamp = false
  sequence : Text.allBlank names.sequence = false

theorem sortsBy_default (highlighting : Bool) : SortsBy { highlighting } {} :=
  ⟨rfl, by decide, by decide⟩

section Ends

variable {names : SortNames} {w v : σ} {clauses : List SortClause} {base : Value} {e : Failure}

theorem ends_fieldSort_sequence {c : SortClause} (h : c.field = sequenceField) (w : σ) :
    Ends (fieldSort types spec c) w (.ok (c.withType (some (.str sequenceType)))) w := by
  unfold fieldSort
  rw [if_pos h]
  exact .pure _ w

/-- A type that is found is declared, unless it is empty. -/
theorem ends_fieldSort_found {c : SortClause} {type : Value} (h : c.field ≠ sequenceField)
    (answered : Ends (types.resolve spec.streams (.str c.field)) w (.ok type) v) :
    Ends (fieldSort types spec c) w
      (.ok (c.withType (if type.isTrue then some type else none))) v := by
  unfold fieldSort
  rw [if_neg h]
  exact (answered.handleFault_of_ne nofun).bind (.pure _ v)

/-- A failure of the collaborator that knows the types is reported, with the streams in order. -/
theorem ends_fieldSort_failed {c : SortClause} {failure : Failure} {streams : List Value}
    (h : c.field ≠ sequenceField) (sorted : Sorted.sort spec.streams = .ok streams)
    (failed : Ends (types.resolve spec.streams (.str c.field)) w (.error failure) v) :
    Ends (fieldSort types spec c) w
      (.error (failure.reported fun _ => .unresolvedType (.str c.field) streams)) v := by
  unfold fieldSort
  rw [if_neg h]
  refine Ends.bind_error (failed.handleFault_reported fun fault => ?_)
  refine (Ends.log _ _ _).bind ?_
  exact (Ends.ofFault (congrArg ofFaults sorted) v).bind (.fail _ _)

/-- The sorts of a query are the normal form of those that are asked for. -/
theorem ends_sortClauses (known : b.SortsBy names) (clauses : List SortClause) (w : σ) :
    Ends (b.sortClauses clauses) w (.ok (names.normalized clauses)) w := by
  have checked : b.sortFields.normalizeClauses clauses = .ok (names.normalized clauses) := by
    rw [known.fields]
    exact SortFields.normalizeClauses_of_named known.timestamp known.sequence clauses
  unfold sortClauses
  refine (Ends.ofExcept checked w).bind ?_
  split
  · exact (Ends.log _ _ _).bind (.pure _ _)
  · exact Ends.pure _ _

theorem ends_build_of_unchecked (h : spec.sorts.mapM SortRequest.check = .error e) (w : σ) :
    Ends (b.build spec types) w (.error e) w :=
  (Ends.ofExcept h w).bind_error

theorem ends_build_of_lookup (known : b.SortsBy names)
    (checked : spec.sorts.mapM SortRequest.check = .ok clauses)
    (wanted : baseQuery spec = .ok base)
    (failed : Ends ((names.normalized clauses).mapM (fieldSort types spec)) w (.error e) v) :
    Ends (b.build spec types) w (.error e) v := by
  unfold build
  refine (Ends.ofExcept checked w).bind ?_
  refine (Ends.ofFault (congrArg ofFaults wanted) w).bind ?_
  exact (ends_sortClauses known clauses w).bind failed.bind_error

theorem ends_build {sorts : List FieldSort} {highlight : Option Highlight} {body : Value}
    (known : b.SortsBy names) (checked : spec.sorts.mapM SortRequest.check = .ok clauses)
    (wanted : baseQuery spec = .ok base)
    (found : Ends ((names.normalized clauses).mapM (fieldSort types spec)) w (.ok sorts) v)
    (highlighted : b.highlight? spec.queryString = .ok highlight)
    (shown : (combined spec base sorts highlight).record = .ok body) :
    Ends (b.build spec types) w (.ok (combined spec base sorts highlight)) v := by
  unfold build
  refine (Ends.ofExcept checked w).bind ?_
  refine (Ends.ofFault (congrArg ofFaults wanted) w).bind ?_
  refine (ends_sortClauses known clauses w).bind (found.bind ?_)
  refine (Ends.ofFault (congrArg ofFaults highlighted) v).bind ?_
  refine (Ends.ofFault (congrArg ofFaults shown) v).bind ?_
  exact (Ends.log _ _ _).bind (.pure _ _)

end Ends

/-- What is searched for is a text or bytes. -/
theorem text_or_bytes_of_baseQuery {base : Value} (h : baseQuery spec = .ok base) :
    (∃ s, spec.queryString = .str s) ∨ ∃ octets, spec.queryString = .bytes octets := by
  obtain ⟨_, -, h⟩ := exists_of_bind_eq_ok h
  obtain ⟨_, h, -⟩ := exists_of_bind_eq_ok h
  cases text : spec.queryString with
  | str s => exact .inl ⟨s, rfl⟩
  | bytes octets => exact .inr ⟨octets, rfl⟩
  | _ =>
    rw [text] at h
    cases h

end QueryBuilder

end LogSearch
