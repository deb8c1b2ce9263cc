import LogSearch.Proofs.Sort.Normal
import Mathlib.Data.List.Nodup

/-!
# Normalizing sorts again

Sorts are normal when there are some, no two of them are on one field, and a sort by the time comes
with one by the sequence.  Normalizing leaves such sorts as they are, and makes them of any that were
asked for.  The sort that stands in for none is the exception: it is by the time alone, and so it gets
a tie-break the next time.

Main statement: `normalize_again`.
-/

namespace LogSearch

/-- The new item is put somewhere among the others. -/
theorem insertAfter_perm {α : Type} {p : α → Bool} (new : α) {xs : List α} (h : xs.any p = true) :
    (insertAfter p new xs).Perm (new :: xs) := by
  induction xs with
  | nil => simp at h
  | cons x rest ih =>
    by_cases here : p x = true
    · simpa [insertAfter, here] using List.Perm.swap new x rest
    · have later : rest.any p = true := by simpa [here] using h
      simpa [insertAfter, here] using ((ih later).cons x).trans (List.Perm.swap new x rest)

/-- Items of different keys are all first of their key. -/
theorem firstPerKey_of_nodup {α κ : Type} [BEq κ] [LawfulBEq κ] {key : α → κ} {seen : List κ}
    {items : List α} (distinct : (items.map key).Nodup) (new : ∀ x ∈ items, key x ∉ seen) :
    firstPerKey (· == ·) key seen items = items := by
  induction items generalizing seen with
  | nil => rfl
  | cons x rest ih =>
    obtain ⟨notLater, distinct⟩ := List.nodup_cons.1 distinct
    have unseen : (seen.any fun k => k == key x) = false := by
      rw [List.any_eq_false]
      intro k hk same
      exact new x List.mem_cons_self (eq_of_beq same ▸ hk)
    rw [firstPerKey_cons_of_new rest unseen, ih distinct]
    intro y hy
    have notFirst : key y ≠ key x := fun same => notLater (List.mem_map.2 ⟨y, hy, same⟩)
    simp [notFirst, new y (List.mem_cons_of_mem x hy)]

namespace SortNames

variable {names : SortNames} {clauses : List SortClause} {c : SortClause}

/-- Sorts that need no change: there are some, on different fields, and a sort by the time comes with
one by the sequence. -/
structure IsNormal (names : SortNames) (clauses : List SortClause) : Prop where
  ne_nil : clauses ≠ []
  distinct : (clauses.map SortClause.field).Nodup
  tied : names.timestamp ∈ clauses.map SortClause.field →
    names.sequence ∈ clauses.map SortClause.field

theorem nodup_firsts (clauses : List SortClause) :
    ((SortClause.firsts clauses).map SortClause.field).Nodup :=
  List.pairwise_map.2 (SortClause.pairwise_firsts clauses)

/-- The tie-break is on the sequence, which no clause is on, and there is one on the time. -/
theorem tieBreak?_eq_some (h : names.tieBreak? clauses = some c) :
    c.field = names.sequence ∧ names.sequence ∉ clauses.map SortClause.field ∧
      clauses.any (·.field == names.timestamp) = true := by
  unfold tieBreak? at h
  cases found : clauses.find? (·.field == names.timestamp) with
  | none => simp [found] at h
  | some d =>
    have timed : clauses.any (·.field == names.timestamp) = true :=
      List.any_eq_true.2 ⟨d, List.mem_of_find?_eq_some found, by simpa using List.find?_some found⟩
    by_cases sequenced : clauses.any (·.field == names.sequence) = true
    · simp [found, sequenced] at h
    · obtain rfl : ⟨names.sequence, d.order⟩ = c := by simpa [found, sequenced] using h
      refine ⟨rfl, ?_, timed⟩
      simpa using sequenced

/-- Without a tie-break the clauses on the time, if any, come with one on the sequence. -/
theorem tied_of_tieBreak?_eq_none (h : names.tieBreak? clauses = none)
    (timed : names.timestamp ∈ clauses.map SortClause.field) :
    names.sequence ∈ clauses.map SortClause.field := by
  unfold tieBreak? at h
  cases found : clauses.find? (·.field == names.timestamp) with
  | none =>
    obtain ⟨d, hd, on⟩ := List.mem_map.1 timed
    exact absurd (beq_iff_eq.2 on) (List.find?_eq_none.1 found d hd)
  | some d =>
    by_cases sequenced : clauses.any (·.field == names.sequence) = true
    · simpa using sequenced
    · simp [found, sequenced] at h

/-- Sorts that are asked for are made normal. -/
theorem isNormal_normalized (ne : clauses ≠ []) : names.IsNormal (names.normalized clauses) := by
  have shape : names.normalized clauses = _ := normalized_of_ne_nil ne
  have some : names.normalized clauses ≠ [] := normalized_ne_nil
  have distinct := nodup_firsts clauses
  cases broken : names.tieBreak? (SortClause.firsts clauses) with
  | none =>
    rw [broken] at shape
    rw [shape] at some ⊢
    exact ⟨some, distinct, tied_of_tieBreak?_eq_none broken⟩
  | some c =>
    obtain ⟨on, missing, timed⟩ := tieBreak?_eq_some broken
    rw [broken] at shape
    rw [shape] at some ⊢
    have fields := (insertAfter_perm c timed).map SortClause.field
    rw [List.map_cons, on] at fields
    refine ⟨some, ?_, fun _ => fields.mem_iff.2 List.mem_cons_self⟩
    exact fields.nodup_iff.2 (List.nodup_cons.2 ⟨missing, distinct⟩)

/-- Every field that is asked for is sorted by. -/
theorem mem_fields_normalized {name : String} (asked : name ∈ clauses.map SortClause.field) :
    name ∈ (names.normalized clauses).map SortClause.field := by
  obtain ⟨d, hd, on⟩ := List.mem_map.1 asked
  have first : name ∈ (SortClause.firsts clauses).map SortClause.field :=
    List.mem_map.2 ((SortClause.exists_firstPerKey_iff List.not_mem_nil).2 ⟨d, hd, on⟩)
  rw [normalized_of_ne_nil (List.ne_nil_of_mem hd)]
  cases broken : names.tieBreak? (SortClause.firsts clauses) with
  | none => exact first
  | some c =>
    obtain ⟨-, -, timed⟩ := tieBreak?_eq_some broken
    have fields := (insertAfter_perm c timed).map SortClause.field
    exact fields.mem_iff.2 (List.mem_cons_of_mem _ first)

/-- Normal sorts are left as they are. -/
theorem normalized_of_isNormal (h : names.IsNormal clauses) : names.normalized clauses = clauses := by
  have firsts : SortClause.firsts clauses = clauses :=
    firstPerKey_of_nodup h.distinct fun _ _ => List.not_mem_nil
  have kept : (∀ c ∈ clauses, c.field ≠ names.timestamp) ∨
      ∃ c ∈ clauses, c.field = names.sequence := by
    by_cases timed : names.timestamp ∈ clauses.map SortClause.field
    · exact .inr (List.mem_map.1 (h.tied timed))
    · exact .inl fun c hc on => timed (List.mem_map.2 ⟨c, hc, on⟩)
  rw [normalized_of_kept h.ne_nil kept, firsts]

/-- What normalizing leaves as it is are the normal sorts. -/
theorem normalized_eq_self_iff (ne : clauses ≠ []) :
    names.normalized clauses = clauses ↔ names.IsNormal clauses := by
  constructor
  · intro same
    have normal : names.IsNormal (names.normalized clauses) := isNormal_normalized ne
    rwa [same] at normal
  · exact normalized_of_isNormal

theorem normalized_nil (names : SortNames) : names.normalized [] = [⟨names.timestamp, .desc⟩] := rfl

/-- A sort by the time alone is normal when the sequence has the same name. -/
theorem isNormal_singleton : names.IsNormal [⟨names.timestamp, .desc⟩] ↔
    names.timestamp = names.sequence := by
  constructor
  · intro normal
    have same : names.sequence = names.timestamp := by simpa using normal.tied
    exact same.symm
  · intro same
    exact ⟨List.cons_ne_nil _ _, List.nodup_singleton _, fun timed => same ▸ timed⟩

/-- Sorts are normal after normalizing once, unless none were asked for. -/
theorem isNormal_normalized_iff : names.IsNormal (names.normalized clauses) ↔
    clauses ≠ [] ∨ names.timestamp = names.sequence := by
  by_cases none : clauses = []
  · rw [none, normalized_nil, isNormal_singleton]
    simp
  · simp [none, isNormal_normalized none]

theorem nodup_normalized (names : SortNames) (clauses : List SortClause) :
    ((names.normalized clauses).map SortClause.field).Nodup := by
  by_cases none : clauses = []
  · rw [none]
    exact List.nodup_singleton _
  · exact (isNormal_normalized none).distinct

end SortNames

/-- Sorts are normalized to some on different fields.  Normalizing these again changes nothing, unless
no sorts were asked for and the time and the sequence have different names; and once more never changes
anything. -/
theorem normalize_again (names : SortNames) (clauses : List SortClause)
    (timed : Text.allBlank names.timestamp = false)
    (ordered : Text.allBlank names.sequence = false) :
    ∃ once twice : List SortClause,
      names.fields.normalize (clauses.map .clause) = .ok (once.map .clause) ∧
      names.fields.normalize (once.map .clause) = .ok (twice.map .clause) ∧
      names.fields.normalize (twice.map .clause) = .ok (twice.map .clause) ∧
      once ≠ [] ∧ (once.map SortClause.field).Nodup ∧
      (twice = once ↔ clauses ≠ [] ∨ names.timestamp = names.sequence) := by
  have step (given : List SortClause) : names.fields.normalize (given.map .clause) =
      .ok ((names.normalized given).map .clause) := by
    rw [SortFields.normalize_map_clause, SortFields.normalizeClauses_of_named timed ordered]
    rfl
  have some : names.normalized clauses ≠ [] := SortNames.normalized_ne_nil
  refine ⟨names.normalized clauses, names.normalized (names.normalized clauses), step _, step _, ?_,
    some, names.nodup_normalized clauses, ?_⟩
  · rw [step, SortNames.normalized_of_isNormal (SortNames.isNormal_normalized some)]
  · rw [SortNames.normalized_eq_self_iff some, SortNames.isNormal_normalized_iff]

/-- The default sort gets a tie-break when it is normalized, and then stays. -/
theorem normalize_again_default :
    Text.allBlank "timestamp" = false ∧ Text.allBlank "gl2_message_id" = false ∧
    ∃ once twice : List SortClause,
      (SortNames.fields {}).normalize [] = .ok (once.map .clause) ∧
      (SortNames.fields {}).normalize (once.map .clause) = .ok (twice.map .clause) ∧
      (SortNames.fields {}).normalize (twice.map .clause) = .ok (twice.map .clause) ∧
      twice ≠ once := by
  refine ⟨by decide, by decide, ?_⟩
  obtain ⟨once, twice, first, second, third, -, -, same⟩ :=
    normalize_again {} [] (by decide) (by decide)
  refine ⟨once, twice, first, second, third, ?_⟩
  rw [Ne, same]
  decide

end LogSearch
