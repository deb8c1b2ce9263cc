import LogSearch.Proofs.IndexScope

/-!
# The names for a union of streams

The names for a set of streams are those of its streams, each once and in ascending order.  So the
names for two sets together are the names for both, merged: none is lost and none is there twice, also
where streams share a name, or have none of their own.

Main statement: `IndexScope.names_union`.
-/

namespace LogSearch.IndexScope

/-- The indices of a stream have this name: the one that the scope knows for the stream, or else the one
for all others. -/
def Names (scope : IndexScope) (stream : Value) (name : String) : Prop :=
  Entries.get? scope.ofStream stream = some (.str name) ∨
    Entries.get? scope.ofStream stream = none ∧ scope.default = .str name

/-- Two ascending lists of texts as one, in which a text of both stands once. -/
def merged : List String → List String → List String
  | [], ys => ys
  | x :: xs, [] => x :: xs
  | x :: xs, y :: ys =>
    if x = y then x :: merged xs ys
    else if Text.Before x y then x :: merged xs (y :: ys)
    else y :: merged (x :: xs) ys

section Merged

variable {xs ys : List String}

theorem mem_merged {t : String} : t ∈ merged xs ys ↔ t ∈ xs ∨ t ∈ ys := by
  fun_induction merged xs ys with
  | case1 ys => simp
  | case2 x xs => simp
  | case3 x xs ys ih => grind
  | case4 x xs y ys different before ih => grind
  | case5 x xs y ys different behind ih => grind

theorem pairwise_merged (first : xs.Pairwise Text.Before) (second : ys.Pairwise Text.Before) :
    (merged xs ys).Pairwise Text.Before := by
  fun_induction merged xs ys with
  | case1 ys => exact second
  | case2 x xs => exact first
  | case3 x xs ys ih =>
    obtain ⟨lowest, first⟩ := List.pairwise_cons.1 first
    obtain ⟨lowestToo, second⟩ := List.pairwise_cons.1 second
    refine List.pairwise_cons.2 ⟨fun t ht => ?_, ih first second⟩
    rcases mem_merged.1 ht with ht | ht
    · exact lowest t ht
    · exact lowestToo t ht
  | case4 x xs y ys different before ih =>
    obtain ⟨lowest, first⟩ := List.pairwise_cons.1 first
    refine List.pairwise_cons.2 ⟨fun t ht => ?_, ih first second⟩
    rcases mem_merged.1 ht with ht | ht
    · exact lowest t ht
    · rcases List.mem_cons.1 ht with rfl | ht
      · exact before
      · exact before.trans (List.rel_of_pairwise_cons second ht)
  | case5 x xs y ys different behind ih =>
    have before := Text.before_of_not_before different behind
    obtain ⟨lowest, second⟩ := List.pairwise_cons.1 second
    refine List.pairwise_cons.2 ⟨fun t ht => ?_, ih first second⟩
    rcases mem_merged.1 ht with ht | ht
    · rcases List.mem_cons.1 ht with rfl | ht
      · exact before
      · exact before.trans (List.rel_of_pairwise_cons first ht)
    · exact lowest t ht

end Merged

variable {scope : IndexScope} {streams first second both : List Value}

theorem nameOf_eq_iff {stream : Value} {name : String} :
    scope.nameOf stream = .str name ↔ scope.Names stream name := by
  unfold nameOf Names
  cases Entries.get? scope.ofStream stream with
  | none => simp
  | some v => simp

theorem mem_texts_iff {texts : List String} (areNames : streams.map scope.nameOf = texts.map .str)
    (name : String) : name ∈ texts ↔ ∃ stream ∈ streams, scope.Names stream name := by
  have isName : Value.str name ∈ streams.map scope.nameOf ↔ name ∈ texts := by
    rw [areNames]
    simp
  rw [← isName, List.mem_map]
  simp only [nameOf_eq_iff]

/-- The patterns are made of the names, in their order. -/
theorem patterns_of_names {names : List String} (named : scope.names streams = .ok (names.map .str)) :
    scope.patterns streams = .ok (names.map (· ++ "_*")) := by
  unfold patterns
  rw [named]
  change Except.ok ((names.map Value.str).map pattern) = _
  rw [List.map_map]
  rfl

theorem eq_of_texts {names others : List String}
    (same : (Except.ok (names.map Value.str) : Except Fault (List Value)) = .ok (others.map .str)) :
    names = others :=
  List.map_injective_iff.2 (fun _ _ => Value.str.inj) (Except.ok.inj same)

/-- Where each stream is of one set or of the other, the names are those of both sets, merged. -/
theorem names_both (h : scope.HasTextNames) (some : first ≠ []) (others : second ≠ [])
    (union : ∀ stream, stream ∈ both ↔ stream ∈ first ∨ stream ∈ second) :
    ∃ xs ys, scope.names first = .ok ((ascending xs).map .str) ∧
      scope.names second = .ok ((ascending ys).map .str) ∧
      scope.names both = .ok ((merged (ascending xs) (ascending ys)).map .str) := by
  obtain ⟨xs, areNames⟩ := exists_texts h first
  obtain ⟨ys, areOthers⟩ := exists_texts h second
  obtain ⟨zs, areAll⟩ := exists_texts h both
  have any : both ≠ [] := by
    obtain ⟨stream, rest, rfl⟩ := List.exists_cons_of_ne_nil some
    exact List.ne_nil_of_mem ((union stream).2 (.inl List.mem_cons_self))
  have members (name : String) : name ∈ zs ↔ name ∈ xs ∨ name ∈ ys := by
    rw [mem_texts_iff areNames, mem_texts_iff areOthers, mem_texts_iff areAll]
    simp only [union, or_and_right, exists_or]
  have merges : ascending zs = merged (ascending xs) (ascending ys) := by
    refine ascending_eq (pairwise_merged (pairwise_ascending xs) (pairwise_ascending ys)) fun name => ?_
    rw [mem_merged, mem_ascending, mem_ascending, members]
  refine ⟨xs, ys, names_of_texts some areNames, names_of_texts others areOthers, ?_⟩
  rw [names_of_texts any areAll, merges]

/-- A scope whose names are texts has names for every set of streams, at least one and in ascending order
without repeats: all names of the streams and no others, or that for all others where there are no streams.
It has one pattern for each name, in the same order.  The names for two sets together are those for both,
merged. -/
theorem names_union (h : scope.HasTextNames) :
    (∀ streams, ∃ names : List String,
      scope.names streams = .ok (names.map .str) ∧
      scope.patterns streams = .ok (names.map (· ++ "_*")) ∧
      names ≠ [] ∧ names.Pairwise Text.Before ∧
      (streams = [] → ∃ name, scope.default = .str name ∧ names = [name]) ∧
      (streams ≠ [] → ∀ name, name ∈ names ↔ ∃ stream ∈ streams, scope.Names stream name)) ∧
    ∀ (first second both : List Value) (xs ys : List String), first ≠ [] → second ≠ [] →
      (∀ stream, stream ∈ both ↔ stream ∈ first ∨ stream ∈ second) →
      scope.names first = .ok (xs.map .str) → scope.names second = .ok (ys.map .str) →
      scope.names both = .ok ((merged xs ys).map .str) ∧ (merged xs ys).Pairwise Text.Before ∧
        ∀ name, name ∈ merged xs ys ↔ name ∈ xs ∨ name ∈ ys := by
  constructor
  · intro streams
    by_cases none : streams = []
    · obtain ⟨name, isName⟩ := h.default
      have named : scope.names streams = .ok ([name].map .str) := by
        rw [none, names_nil, isName]
        rfl
      exact ⟨[name], named, patterns_of_names named, List.cons_ne_nil name [], List.pairwise_singleton _ name,
        fun _ => ⟨name, isName, rfl⟩, fun some => absurd none some⟩
    · obtain ⟨texts, areNames⟩ := exists_texts h streams
      have named := names_of_texts none areNames
      have some := ascending_ne_nil (texts_ne_nil none areNames)
      refine ⟨ascending texts, named, patterns_of_names named, some, pairwise_ascending texts,
        fun empty => absurd empty none, fun _ name => ?_⟩
      rw [mem_ascending, mem_texts_iff areNames]
  · intro first second both xs ys some others union namedFirst namedSecond
    obtain ⟨texts, names, isFirst, isSecond, isBoth⟩ := names_both h some others union
    obtain rfl := eq_of_texts (isFirst.symm.trans namedFirst)
    obtain rfl := eq_of_texts (isSecond.symm.trans namedSecond)
    exact ⟨isBoth, pairwise_merged (pairwise_ascending texts) (pairwise_ascending names),
      fun _ => mem_merged⟩

/-- Two sets that share a stream, and of which one has a stream whose name is that for all others. -/
theorem names_union_shared :
    let scope : IndexScope :=
      { ofStream := [(.str "audit", .str "trail"), (.str "same", .str "graylog"), (.str "fw", .str "fire")] }
    let first : List Value := [.str "audit", .str "other"]
    let second : List Value := [.str "same", .str "fw", .str "audit"]
    let both : List Value := [.str "fw", .str "audit", .str "other", .str "same"]
    scope.HasTextNames ∧ first ≠ [] ∧ second ≠ [] ∧
      (∀ stream, stream ∈ both ↔ stream ∈ first ∨ stream ∈ second) ∧
      scope.names first = .ok (["graylog", "trail"].map .str) ∧
      scope.names second = .ok (["fire", "graylog", "trail"].map .str) ∧
      scope.names both = .ok (["fire", "graylog", "trail"].map .str) := by
  intro scope first second both
  have named : scope.HasTextNames := by
    refine ⟨⟨_, rfl⟩, fun entry member => ?_⟩
    simp only [scope, List.mem_cons, List.not_mem_nil, or_false] at member
    rcases member with rfl | rfl | rfl <;> exact ⟨_, rfl⟩
  have union : ∀ stream, stream ∈ both ↔ stream ∈ first ∨ stream ∈ second := by
    intro stream
    simp only [first, second, both, List.mem_cons, List.not_mem_nil, or_false]
    tauto
  have some : first ≠ [] := List.cons_ne_nil _ _
  have others : second ≠ [] := List.cons_ne_nil _ _
  have inOrder : ascending ["trail", "graylog"] = ["graylog", "trail"] :=
    ascending_eq (by decide) (by simp [or_comm])
  have inOrderToo : ascending ["graylog", "fire", "trail"] = ["fire", "graylog", "trail"] :=
    ascending_eq (by decide) (by simp [or_left_comm])
  have isFirst : scope.names first = .ok (["graylog", "trail"].map .str) :=
    inOrder ▸ names_of_texts some rfl
  have isSecond : scope.names second = .ok (["fire", "graylog", "trail"].map .str) :=
    inOrderToo ▸ names_of_texts others rfl
  have merges : merged ["graylog", "trail"] ["fire", "graylog", "trail"] = ["fire", "graylog", "trail"] := by
    rw [merged, if_neg (by decide), if_neg (by decide), merged, if_pos rfl, merged, if_pos rfl, merged]
  obtain ⟨isBoth, -, -⟩ := (names_union named).2 first second both _ _ some others union isFirst isSecond
  exact ⟨named, some, others, union, isFirst, isSecond, merges ▸ isBoth⟩

end LogSearch.IndexScope
