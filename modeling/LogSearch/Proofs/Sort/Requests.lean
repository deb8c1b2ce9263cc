import LogSearch.Proofs.Flow
import LogSearch.Sort.Normalize

/-!
# Sorts that are asked for

What is asked for as a sort may be no clause at all, or a clause that nobody checked.  A request is
well formed when it is a clause on a field with a name and in a direction, and then it is one clause.
Checking finds the first request that is not well formed and tells what is wrong with it.
-/

namespace LogSearch

/-- Whether a value is the name of a field: a text that is not blank. -/
def Value.isName : Value → Bool
  | .str s => !Text.allBlank s
  | _ => false

/-- Whether a value is the direction of a sort. -/
def Value.isDirection : Value → Bool
  | .order _ => true
  | _ => false

namespace SortRequest

/-- Whether a request is a clause on a field with a name and in a direction. -/
def isWellFormed (x : SortRequest) : Bool := x.isClause && x.key.isName && x.order.isDirection

/-- What is wrong with a request that is not well formed. -/
def objection (x : SortRequest) : String :=
  if !x.isClause then "not a sort clause"
  else if !x.key.isName then "sort field must not be empty"
  else "sort order must be ASC or DESC"

/-- The report of a request that is not well formed, which shows its field and its direction. -/
def complaint (x : SortRequest) : Failure := (Report.invalidSort x.key x.order x.objection).failure

/-- A request, checked or not, is a clause. -/
structure Is (x : SortRequest) (c : SortClause) : Prop where
  clause : x.isClause = true
  field : x.key = .str c.field
  order : x.order = .order c.order

end SortRequest

namespace SortClause

/-- A field without a name is what is found wrong first. -/
theorem check_of_unnamed {field : Value} (h : field.isName = false) (order : Value) :
    check field order =
      .error (Report.invalidSort field order "sort field must not be empty").failure := by
  cases field with
  | str s =>
    have blank : Text.allBlank s = true := by simpa [Value.isName] using h
    simp [check, blank]
  | _ => rfl

theorem check_of_undirected {field order : Value} (named : field.isName = true)
    (h : order.isDirection = false) :
    check field order =
      .error (Report.invalidSort field order "sort order must be ASC or DESC").failure := by
  cases field with
  | str s =>
    have filled : Text.allBlank s = false := by simpa [Value.isName] using named
    cases order with
    | order o => cases h
    | _ => simp [check, filled]
  | _ => cases named

theorem exists_check {field order : Value} (named : field.isName = true)
    (directed : order.isDirection = true) :
    ∃ c : SortClause, check field order = .ok c ∧ field = .str c.field ∧ order = .order c.order := by
  cases field with
  | str s =>
    cases order with
    | order o =>
      have filled : Text.allBlank s = false := by simpa [Value.isName] using named
      exact ⟨⟨s, o⟩, check_str filled o, rfl, rfl⟩
    | _ => cases directed
  | _ => cases named

end SortClause

namespace SortRequest

theorem check_of_isClause {x : SortRequest} (h : x.isClause = true) :
    x.check = SortClause.check x.key x.order := by
  cases x with
  | other v => cases h
  | _ => rfl

/-- Checking tells what is wrong with a request. -/
theorem check_of_malformed {x : SortRequest} (h : x.isWellFormed = false) :
    x.check = .error x.complaint := by
  cases clause : x.isClause with
  | false =>
    cases x with
    | other v => rfl
    | _ => cases clause
  | true =>
    rw [check_of_isClause clause]
    cases named : x.key.isName with
    | false => simp [SortClause.check_of_unnamed named, complaint, objection, clause, named]
    | true =>
      have undirected : x.order.isDirection = false := by
        simpa [isWellFormed, clause, named] using h
      simp [SortClause.check_of_undirected named undirected, complaint, objection, clause, named]

theorem exists_check_of_isWellFormed {x : SortRequest} (h : x.isWellFormed = true) :
    ∃ c, x.check = .ok c ∧ x.Is c := by
  simp only [isWellFormed, Bool.and_eq_true] at h
  obtain ⟨⟨clause, named⟩, directed⟩ := h
  obtain ⟨c, checked, field, order⟩ := SortClause.exists_check named directed
  exact ⟨c, (check_of_isClause clause).trans checked, clause, field, order⟩

/-- The first request that is not well formed is what checking a list of them finds. -/
theorem mapM_check_of_malformed {before after : List SortRequest} {x : SortRequest}
    (earlier : ∀ y ∈ before, y.isWellFormed = true) (malformed : x.isWellFormed = false) :
    (before ++ x :: after).mapM check = .error x.complaint := by
  apply mapM_eq_error_iff.2
  refine ⟨before, x, after, rfl, ?_, check_of_malformed malformed⟩
  intro y hy
  obtain ⟨c, checked, -⟩ := exists_check_of_isWellFormed (earlier y hy)
  exact ⟨c, checked⟩

/-- Requests that are well formed are clauses, and checking gives them. -/
theorem exists_mapM_check {requests : List SortRequest}
    (h : ∀ x ∈ requests, x.isWellFormed = true) :
    ∃ clauses, requests.mapM check = .ok clauses ∧ List.Forall₂ Is requests clauses := by
  induction requests with
  | nil => exact ⟨[], rfl, .nil⟩
  | cons x rest ih =>
    obtain ⟨c, checked, is⟩ := exists_check_of_isWellFormed (h x List.mem_cons_self)
    obtain ⟨clauses, others, each⟩ := ih fun y hy => h y (List.mem_cons_of_mem x hy)
    refine ⟨c :: clauses, ?_, .cons is each⟩
    rw [mapM_eq_ok_iff] at others ⊢
    exact .cons checked others

theorem eq_of_are_clauses {clauses others : List SortClause}
    (h : List.Forall₂ Is (clauses.map .clause) others) : others = clauses := by
  rw [List.forall₂_map_left_iff] at h
  have same : ∀ c d, Is (.clause c) d → d = c := by
    rintro ⟨field, order⟩ ⟨_, _⟩ is
    obtain rfl := Value.str.inj is.field
    obtain rfl := Value.order.inj is.order
    rfl
  rw [← List.forall₂_eq_eq_eq]
  exact (h.imp same).flip

end SortRequest

end LogSearch
