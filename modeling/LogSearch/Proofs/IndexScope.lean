import LogSearch.IndexScope
import LogSearch.Proofs.Flow
import LogSearch.Proofs.Sort.Normal
import LogSearch.Proofs.Value.Sorted

/-!
# The patterns of a scope

A scope whose names are texts has patterns for all streams, at least one, and each ends in a star.  So
patterns joined to an address are never the address of all indices.  The patterns of a set of streams
do not depend on the order in which the streams are given.
-/

namespace LogSearch.IndexScope

/-- Texts in ascending order, each of them once. -/
def ascending (texts : List String) : List String := Sorted.stable Text.codes texts.eraseDups

theorem mem_ascending {t : String} {texts : List String} : t ∈ ascending texts ↔ t ∈ texts :=
  Sorted.mem_stable.trans List.mem_eraseDups

theorem pairwise_ascending (texts : List String) : (ascending texts).Pairwise Text.Before := by
  have distinct : (ascending texts).Nodup :=
    (Sorted.stable_perm _ _).nodup_iff.2 (nodup_eraseDups texts)
  refine (Sorted.ascends_stable Text.codes texts.eraseDups).imp₂ ?_ distinct
  intro s t below different
  exact lt_of_le_of_ne below fun same => different (Text.eq_of_codes same)

/-- Texts in ascending order are told by their members. -/
theorem eq_of_pairwise_of_mem_iff {texts others : List String} (first : texts.Pairwise Text.Before)
    (second : others.Pairwise Text.Before) (same : ∀ t, t ∈ texts ↔ t ∈ others) : texts = others := by
  have perm : texts.Perm others :=
    (List.perm_ext_iff_of_nodup (first.imp Text.Before.ne) (second.imp Text.Before.ne)).2 same
  exact perm.eq_of_pairwise (fun s t _ _ before behind => absurd behind before.asymm) first second

/-- Texts are put in the one order in which their codes ascend. -/
theorem ascending_eq {texts others : List String} (sorted : others.Pairwise Text.Before)
    (same : ∀ t, t ∈ texts ↔ t ∈ others) : ascending texts = others :=
  eq_of_pairwise_of_mem_iff (pairwise_ascending texts) sorted fun t => mem_ascending.trans (same t)

/-- Every name of a scope is a text. -/
structure HasTextNames (scope : IndexScope) : Prop where
  default : ∃ name, scope.default = .str name
  ofStream : ∀ entry ∈ scope.ofStream, ∃ name, entry.2 = .str name

variable {scope : IndexScope}

theorem names_nil : scope.names [] = .ok [scope.default] := rfl

theorem exists_nameOf (h : scope.HasTextNames) (stream : Value) :
    ∃ name, scope.nameOf stream = .str name := by
  unfold nameOf
  cases found : Entries.get? scope.ofStream stream with
  | none => exact h.default
  | some v =>
    obtain ⟨entry, isEntry, rfl⟩ := Option.map_eq_some_iff.1 found
    exact h.ofStream entry (List.mem_of_find?_eq_some isEntry)

/-- The names of some streams are texts. -/
theorem exists_texts (h : scope.HasTextNames) (streams : List Value) :
    ∃ texts : List String, streams.map scope.nameOf = texts.map .str := by
  induction streams with
  | nil => exact ⟨[], rfl⟩
  | cons stream rest ih =>
    obtain ⟨name, isName⟩ := exists_nameOf h stream
    obtain ⟨texts, areNames⟩ := ih
    refine ⟨name :: texts, ?_⟩
    rw [List.map_cons, isName, areNames, List.map_cons]

theorem texts_ne_nil {streams : List Value} {texts : List String} (some : streams ≠ [])
    (areNames : streams.map scope.nameOf = texts.map .str) : texts ≠ [] := by
  rintro rfl
  exact some (List.map_eq_nil_iff.1 areNames)

theorem inOrder_texts (texts : List String) :
    inOrder (texts.map .str) = .ok ((ascending texts).map .str) := by
  have fixed : (texts.map Value.str).forM Value.fixed = .ok () := by
    induction texts with
    | nil => rfl
    | cons text rest ih => exact ih
  unfold inOrder
  rw [fixed, Value.distinct_texts]
  exact Sorted.sort_texts _

/-- The names for some streams are the names of these streams, put in order. -/
theorem names_of_texts {streams : List Value} {texts : List String} (some : streams ≠ [])
    (areNames : streams.map scope.nameOf = texts.map .str) :
    scope.names streams = .ok ((ascending texts).map .str) := by
  unfold names
  rw [if_neg (by simpa using some), areNames, inOrder_texts]

theorem ascending_ne_nil {texts : List String} (h : texts ≠ []) : ascending texts ≠ [] := by
  obtain ⟨text, rest, rfl⟩ := List.exists_cons_of_ne_nil h
  exact List.ne_nil_of_mem (mem_ascending.2 List.mem_cons_self)

/-- One stream has one pattern. -/
theorem patterns_singleton {stream : Value} {name : String} (isName : scope.nameOf stream = .str name) :
    scope.patterns [stream] = .ok [pattern (.str name)] := by
  have areNames : [stream].map scope.nameOf = [name].map .str := congrArg (List.cons · []) isName
  have alone : ascending [name] = [name] := ascending_eq (List.pairwise_singleton _ name) fun _ => Iff.rfl
  unfold patterns
  rw [names_of_texts (List.cons_ne_nil _ _) areNames, alone]
  rfl

/-- The names for some streams are texts, and there is at least one. -/
theorem exists_names (h : scope.HasTextNames) (streams : List Value) :
    ∃ texts, texts ≠ [] ∧ scope.names streams = .ok (texts.map .str) := by
  by_cases none : streams = []
  · obtain ⟨name, isName⟩ := h.default
    subst none
    refine ⟨[name], List.cons_ne_nil name [], ?_⟩
    rw [names_nil, isName]
    rfl
  · obtain ⟨texts, areNames⟩ := exists_texts h streams
    exact ⟨ascending texts, ascending_ne_nil (texts_ne_nil none areNames), names_of_texts none areNames⟩

/-- A scope whose names are texts has patterns for all streams. -/
theorem exists_patterns (h : scope.HasTextNames) (streams : List Value) :
    ∃ patterns, scope.patterns streams = .ok patterns := by
  obtain ⟨texts, -, named⟩ := exists_names h streams
  exact ⟨_, congrArg (Except.map _) named⟩

theorem patterns_ne_nil {patterns : List String} (h : scope.HasTextNames) {streams : List Value}
    (isPatterns : scope.patterns streams = .ok patterns) : patterns ≠ [] := by
  obtain ⟨texts, some, named⟩ := exists_names h streams
  unfold IndexScope.patterns at isPatterns
  rw [named] at isPatterns
  obtain rfl := Except.ok.inj isPatterns
  simpa using some

/-- Patterns that are joined still end in a star. -/
theorem exists_front_of_joined {names : List Value} (some : names ≠ []) :
    ∃ front, ",".intercalate (names.map pattern) = front ++ "_*" := by
  induction names with
  | nil => exact absurd rfl some
  | cons name rest ih =>
    by_cases last : rest = []
    · subst last
      exact ⟨name.plain, String.intercalate_singleton⟩
    · obtain ⟨front, joined⟩ := ih last
      refine ⟨pattern name ++ "," ++ front, ?_⟩
      have more : rest.map pattern ≠ [] := by simpa using last
      rw [List.map_cons, String.intercalate_cons_of_ne_nil more, joined]
      simp only [String.append_assoc]

/-- The patterns of a scope, joined, are no empty address, and not that of all indices. -/
theorem joined_patterns_ne {patterns : List String} (h : scope.HasTextNames) {streams : List Value}
    (isPatterns : scope.patterns streams = .ok patterns) :
    ",".intercalate patterns ≠ "" ∧ ",".intercalate patterns ≠ "_all" := by
  have filled := patterns_ne_nil h isPatterns
  obtain ⟨names, -, rfl⟩ := exists_of_map_eq_ok isPatterns
  have nonempty : names ≠ [] := by simpa using filled
  obtain ⟨front, joined⟩ := exists_front_of_joined nonempty
  rw [joined]
  have star : (front ++ "_*").toList.getLast? = some '*' := by simp
  constructor
  · intro same
    rw [same] at star
    cases star
  · intro same
    rw [same] at star
    cases star

/-- Streams in any other order have the same patterns. -/
theorem patterns_perm (h : scope.HasTextNames) {streams others : List Value}
    (same : streams.Perm others) : scope.patterns streams = scope.patterns others := by
  by_cases none : streams = []
  · subst none
    rw [same.nil_eq]
  · have noneToo : others ≠ [] := by
      rintro rfl
      exact none same.eq_nil
    obtain ⟨texts, areNames⟩ := exists_texts h streams
    obtain ⟨names, areNamesToo⟩ := exists_texts h others
    have members (t : String) : t ∈ texts ↔ t ∈ names := by
      have named := (same.map scope.nameOf).mem_iff (a := .str t)
      rw [areNames, areNamesToo] at named
      simpa using named
    unfold patterns
    rw [names_of_texts none areNames, names_of_texts noneToo areNamesToo,
      ascending_eq (pairwise_ascending names) fun t => (members t).trans mem_ascending.symm]

end LogSearch.IndexScope
