import LogSearch.Proofs.Sort.Comparison

/-!
# The normal form of sorts

The sorts of a query are those that were asked for without later clauses on a field that came
before, and with the tie-break right behind the clause on the time.  After repeats are dropped there
is at most one such clause, and so `normalized_eq` says where the tie-break goes clause by clause.

Dropping repeats by a key is what `List.eraseDupsBy` does, which keeps the first of equal items.
-/

namespace LogSearch

section Repeats

variable {α κ : Type} {same : κ → κ → Bool} {key : α → κ}

theorem eraseDupsBy_loop_eq (seen xs : List α) :
    List.eraseDupsBy.loop (fun a b => same (key b) (key a)) xs seen =
      seen.reverse ++ firstPerKey same key (seen.map key) xs := by
  induction xs generalizing seen with
  | nil => simp [List.eraseDupsBy.loop, firstPerKey]
  | cons x xs ih =>
    have known : ((seen.map key).any fun k => same k (key x)) =
        seen.any fun b => same (key b) (key x) := by
      simp [List.any_map, Function.comp_def]
    rw [List.eraseDupsBy.loop, firstPerKey, known]
    cases seen.any fun b => same (key b) (key x) with
    | true => exact ih seen
    | false =>
      dsimp only
      rw [ih (x :: seen)]
      simp

/-- The first items of each key are the items without repeats. -/
theorem firstPerKey_eq_eraseDupsBy (xs : List α) :
    firstPerKey same key [] xs = xs.eraseDupsBy fun a b => same (key b) (key a) :=
  (eraseDupsBy_loop_eq [] xs).symm

variable [BEq κ] [LawfulBEq κ] {seen : List κ} {items : List α}

theorem notMem_seen_of_mem_firstPerKey {x : α} (h : x ∈ firstPerKey (· == ·) key seen items) :
    key x ∉ seen := by
  induction items generalizing seen with
  | nil => cases h
  | cons y rest ih =>
    cases known : seen.any fun k => k == key y with
    | true =>
      rw [firstPerKey_cons_of_seen rest known] at h
      exact ih h
    | false =>
      rw [firstPerKey_cons_of_new rest known] at h
      rcases List.mem_cons.1 h with rfl | h
      · intro old
        exact List.any_eq_false.1 known (key x) old (beq_self_eq_true _)
      · intro old
        exact ih h (List.mem_cons_of_mem _ old)

theorem pairwise_firstPerKey :
    (firstPerKey (· == ·) key seen items).Pairwise fun x y => key x ≠ key y := by
  induction items generalizing seen with
  | nil => exact .nil
  | cons y rest ih =>
    cases known : seen.any fun k => k == key y with
    | true =>
      rw [firstPerKey_cons_of_seen rest known]
      exact ih
    | false =>
      rw [firstPerKey_cons_of_new rest known]
      refine .cons (fun x hx eq => ?_) ih
      exact notMem_seen_of_mem_firstPerKey hx (by simp [eq])

theorem nodup_eraseDups (xs : List κ) : xs.eraseDups.Nodup := by
  have firsts : firstPerKey (· == ·) id [] xs = xs.eraseDups := by
    rw [firstPerKey_eq_eraseDupsBy]
    simp only [Bool.beq_comm]
    rfl
  rw [← firsts]
  exact pairwise_firstPerKey

/-- Where nothing is repeated, nothing is dropped. -/
theorem eraseDups_of_nodup {xs : List κ} (distinct : xs.Nodup) : xs.eraseDups = xs := by
  induction xs with
  | nil => rfl
  | cons x rest ih =>
    obtain ⟨new, distinct⟩ := List.nodup_cons.1 distinct
    have others : (rest.filter fun y => !y == x) = rest := by
      rw [List.filter_eq_self]
      intro y member
      have ne : y ≠ x := fun same => new (same ▸ member)
      simpa using ne
    rw [List.eraseDups_cons, others, ih distinct]

/-- Items with the same members differ in their order only, once repeats are dropped. -/
theorem eraseDups_perm {xs ys : List κ} (same : ∀ x, x ∈ xs ↔ x ∈ ys) :
    xs.eraseDups.Perm ys.eraseDups := by
  refine (List.perm_ext_iff_of_nodup (nodup_eraseDups xs) (nodup_eraseDups ys)).2 fun x => ?_
  rw [List.mem_eraseDups, List.mem_eraseDups, same]

end Repeats

namespace SortClause

/-- Clauses without later ones on the same field. -/
def withoutRepeats (clauses : List SortClause) : List SortClause :=
  clauses.eraseDupsBy fun c d => c.field == d.field

theorem firsts_eq (clauses : List SortClause) : firsts clauses = withoutRepeats clauses := by
  unfold firsts withoutRepeats
  rw [firstPerKey_eq_eraseDupsBy]
  simp only [Bool.beq_comm]

theorem pairwise_firsts (clauses : List SortClause) :
    (firsts clauses).Pairwise fun c d => c.field ≠ d.field := pairwise_firstPerKey

theorem firsts_eq_nil_iff {clauses : List SortClause} : firsts clauses = [] ↔ clauses = [] := by
  cases clauses with
  | nil => simp [firsts, firstPerKey]
  | cons c rest => simp [firsts, firstPerKey]

end SortClause

namespace SortNames

variable {names : SortNames} {clauses : List SortClause}

/-- A clause, and behind a clause on the time the tie-break in the same direction. -/
def tied (names : SortNames) (c : SortClause) : List SortClause :=
  if c.field = names.timestamp then [c, ⟨names.sequence, c.order⟩] else [c]

/-- Clauses with a tie-break behind those on the time, unless there is a clause on the sequence. -/
def withTieBreak (names : SortNames) (clauses : List SortClause) : List SortClause :=
  if clauses.any (·.field == names.sequence) then clauses else clauses.flatMap names.tied

theorem flatMap_tied_of_untimed (h : ∀ c ∈ clauses, c.field ≠ names.timestamp) :
    clauses.flatMap names.tied = clauses := by
  induction clauses with
  | nil => rfl
  | cons c rest ih =>
    have untied : names.tied c = [c] := if_neg (h c List.mem_cons_self)
    rw [List.flatMap_cons, untied, ih fun d hd => h d (List.mem_cons_of_mem c hd)]
    rfl

/-- Among clauses on different fields, the tie-break goes behind the only one on the time. -/
theorem insertAfter_eq_flatMap {c : SortClause}
    (different : clauses.Pairwise fun c d => c.field ≠ d.field)
    (found : clauses.find? (·.field == names.timestamp) = some c) :
    insertAfter (·.field == names.timestamp) ⟨names.sequence, c.order⟩ clauses =
      clauses.flatMap names.tied := by
  obtain ⟨timed, before, after, rfl, earlier⟩ := List.find?_eq_some_iff_append.1 found
  have on : c.field = names.timestamp := eq_of_beq timed
  have untimedBefore : ∀ d ∈ before, (d.field == names.timestamp) = false := by
    intro d hd
    simpa using earlier d hd
  have untimedAfter : ∀ d ∈ after, d.field ≠ names.timestamp := by
    intro d hd same
    have rest := (List.pairwise_append.1 different).2.1
    exact (List.pairwise_cons.1 rest).1 d hd (on.trans same.symm)
  have tied : names.tied c = [c, ⟨names.sequence, c.order⟩] := if_pos on
  rw [insertAfter_append untimedBefore timed, List.flatMap_append, List.flatMap_cons, tied,
    flatMap_tied_of_untimed fun d hd => ne_of_beq_false (untimedBefore d hd),
    flatMap_tied_of_untimed untimedAfter]
  rfl

theorem normalized_ne_nil : names.normalized clauses ≠ [] := by
  by_cases none : clauses = []
  · rw [none]
    exact List.cons_ne_nil _ _
  · rw [normalized_of_ne_nil none]
    cases firsts : SortClause.firsts clauses with
    | nil => exact absurd (SortClause.firsts_eq_nil_iff.1 firsts) none
    | cons c rest =>
      split
      · exact List.cons_ne_nil _ _
      · rw [insertAfter]
        split <;> exact List.cons_ne_nil _ _

/-- The sorts that were asked for are sorted by without repeats and with a tie-break. -/
theorem normalized_eq (ne : clauses ≠ []) :
    names.normalized clauses = names.withTieBreak (SortClause.withoutRepeats clauses) := by
  rw [normalized_of_ne_nil ne, ← SortClause.firsts_eq]
  unfold tieBreak? withTieBreak
  cases found : (SortClause.firsts clauses).find? (·.field == names.timestamp) with
  | none =>
    have untimed : ∀ c ∈ SortClause.firsts clauses, c.field ≠ names.timestamp := by
      intro c hc
      simpa using List.find?_eq_none.1 found c hc
    rw [flatMap_tied_of_untimed untimed, ite_self]
  | some c =>
    cases (SortClause.firsts clauses).any (·.field == names.sequence) with
    | true => rfl
    | false => exact insertAfter_eq_flatMap (SortClause.pairwise_firsts clauses) found

end SortNames

end LogSearch
