import LogSearch.Proofs.FieldType.Table
import LogSearch.Service

/-!
# A search in a set of streams

The streams of a search are a set: a caller may hand them in in any order and with repeats, and each
part of a search puts them in an order of its own.  So the query, its failures, the indices and the
answer are the same for all orders.

Main statement: `search_streams`.
-/

namespace LogSearch

namespace SearchSpec

/-- A request with streams of other names. -/
def inStreams (s : SearchSpec) (streams : List String) : SearchSpec :=
  { s with streams := streams.map .str }

/-- Two requests that no part of a search tells apart, whether it succeeds or fails. -/
structure SearchesAs (s t : SearchSpec) : Prop where
  /-- What is searched for is the same. -/
  query : QueryBuilder.baseQuery s = QueryBuilder.baseQuery t
  /-- A report of a field without a type shows the same streams. -/
  reported : ∃ streams, Sorted.sort s.streams = .ok streams ∧ Sorted.sort t.streams = .ok streams
  patterns : ∀ scope : IndexScope, scope.HasTextNames →
    scope.patterns s.streams = scope.patterns t.streams
  /-- A table has the same types for both. -/
  types : ∀ table : TypeTable, table.HasTextTypes → ∀ field,
    table.resolve s.streams field = table.resolve t.streams field
  lookups : ∀ {σ : Type} (m : MappingLookup) (client : HttpClient σ), m.scope.HasTextNames → ∀ field,
    m.resolve client s.streams field = m.resolve client t.streams field
  built : ∀ {σ : Type} (b : QueryBuilder) (types : FieldTypes σ), types.TakesSets →
    b.build s types = b.build t types
  searched : ∀ {σ : Type} (service : SearchService σ), service.fieldTypes.TakesSets →
    service.scope.HasTextNames → ∀ signal, service.search s signal = service.search t signal

end SearchSpec

namespace QueryBuilder

variable {σ : Type} {spec : SearchSpec} {streams others : List String}

theorem streamFilter_perm (same : streams.Perm others) :
    streamFilter (streams.map .str) = streamFilter (others.map .str) := by
  unfold streamFilter
  rw [(same.map Value.str).isEmpty_eq, Sorted.sort_texts_perm same]

theorem baseQuery_perm (spec : SearchSpec) (same : streams.Perm others) :
    baseQuery (spec.inStreams streams) = baseQuery (spec.inStreams others) := by
  unfold baseQuery
  dsimp only [SearchSpec.inStreams]
  rw [streamFilter_perm same]

/-- A sort has the same type, and a failure to find it is reported alike. -/
theorem fieldSort_perm {types : FieldTypes σ} (takes : types.TakesSets) (spec : SearchSpec)
    (same : streams.Perm others) :
    fieldSort types (spec.inStreams streams) = fieldSort types (spec.inStreams others) := by
  funext c
  unfold fieldSort
  dsimp only [SearchSpec.inStreams]
  rw [takes streams others same, Sorted.sort_texts_perm same]

theorem build_perm (b : QueryBuilder) {types : FieldTypes σ} (takes : types.TakesSets)
    (spec : SearchSpec) (same : streams.Perm others) :
    b.build (spec.inStreams streams) types = b.build (spec.inStreams others) types := by
  unfold build
  rw [baseQuery_perm spec same, fieldSort_perm takes spec same]
  rfl

end QueryBuilder

theorem SearchService.search_perm {σ : Type} (s : SearchService σ) (takes : s.fieldTypes.TakesSets)
    (named : s.scope.HasTextNames) (spec : SearchSpec) {streams others : List String}
    (same : streams.Perm others) (signal : Option (Cancellation σ)) :
    s.search (spec.inStreams streams) signal = s.search (spec.inStreams others) signal := by
  unfold search
  rw [QueryBuilder.build_perm s.builder takes spec same]
  dsimp only [SearchSpec.inStreams]
  rw [IndexScope.patterns_perm named (same.map .str)]
  rfl

namespace SearchSpec

/-- A set of streams is the same in every order. -/
theorem searchesAs_perm (s : SearchSpec) {streams others : List String} (same : streams.Perm others) :
    (s.inStreams streams).SearchesAs (s.inStreams others) where
  query := QueryBuilder.baseQuery_perm s same
  reported := ⟨_, Sorted.sort_texts streams,
    (Sorted.sort_texts_perm same).symm.trans (Sorted.sort_texts streams)⟩
  patterns _ named := IndexScope.patterns_perm named (same.map Value.str)
  types _ texts := TypeTable.resolve_perm texts same
  lookups _ client named := MappingLookup.takesSets client named streams others same
  built b _ takes := b.build_perm takes s same
  searched service takes named := service.search_perm takes named s same

theorem elementSet_of_elements {v : Value} {names : List String}
    (h : v.elements = .ok (names.map .str)) : v.elementSet = .ok (names.eraseDups.map .str) := by
  rw [← Value.elementSet_texts]
  unfold Value.elementSet
  rw [h]
  rfl

/-- A request that is made has its streams as a set, and whether it is made is not up to them. -/
theorem ofDraft_of_elements (draft : SearchDraft) {v : Value} {names : List String}
    (h : v.elements = .ok (names.map .str)) :
    ofDraft { draft with streams := v } =
      (ofDraft { draft with streams := .tuple [] }).map (·.inStreams names.eraseDups) := by
  have none : (Value.tuple []).elementSet = .ok [] := rfl
  unfold ofDraft
  dsimp only
  rw [elementSet_of_elements h, none]
  cases checkCount "limit" draft.limit with
  | error fault => rfl
  | ok =>
    cases checkCount "offset" draft.offset with
    | error fault => rfl
    | ok =>
      cases draft.fields.elementSet with
      | error fault => rfl
      | ok fields => rfl

/-- Streams that are handed in in another order or with other repeats are refused alike or searched
alike, in whatever order the set of them is gone through. -/
theorem search_streams (draft : SearchDraft) {given other : Value} {names others : List String}
    (isGiven : given.elements = .ok (names.map .str)) (isOther : other.elements = .ok (others.map .str))
    (same : ∀ name, name ∈ names ↔ name ∈ others) :
    (∃ fault, ofDraft { draft with streams := given } = .error fault ∧
      ofDraft { draft with streams := other } = .error fault) ∨
    ∃ (s : SearchSpec) (streams again : List String),
      ofDraft { draft with streams := given } = .ok (s.inStreams streams) ∧
      ofDraft { draft with streams := other } = .ok (s.inStreams again) ∧
      ∀ order order', order.Perm streams → order'.Perm again →
        (s.inStreams order).SearchesAs (s.inStreams order') := by
  rw [ofDraft_of_elements draft isGiven, ofDraft_of_elements draft isOther]
  cases ofDraft { draft with streams := .tuple [] } with
  | error fault => exact .inl ⟨fault, rfl, rfl⟩
  | ok s =>
    refine .inr ⟨s, _, _, rfl, rfl, fun order order' isOrder isOrder' => ?_⟩
    exact s.searchesAs_perm (isOrder.trans ((eraseDups_perm same).trans isOrder'.symm))

/-- Two streams, and the same two in the other order with one of them twice. -/
theorem search_streams_two :
    let start : DateTime := ⟨0, some .utc, by decide⟩
    let range : TimeRange := ⟨start, start, rfl, rfl, Int.le_refl _⟩
    let draft : SearchDraft := { id := .str "s", timeRange := range }
    ∃ (s : SearchSpec) (streams again : List String),
      ofDraft { draft with streams := .tuple [.str "a", .str "b"] } = .ok (s.inStreams streams) ∧
      ofDraft { draft with streams := .list [.str "b", .str "a", .str "b"] } =
        .ok (s.inStreams again) ∧
      (s.inStreams streams).SearchesAs (s.inStreams again) := by
  intro start range draft
  have same : ∀ name, name ∈ ["a", "b"] ↔ name ∈ ["b", "a", "b"] := by
    intro name
    simp only [List.mem_cons, List.not_mem_nil, or_false]
    tauto
  have isGiven : (Value.tuple [.str "a", .str "b"]).elements = .ok (["a", "b"].map .str) := rfl
  have isOther : (Value.list [.str "b", .str "a", .str "b"]).elements =
      .ok (["b", "a", "b"].map .str) := rfl
  rcases search_streams draft isGiven isOther same with
    ⟨fault, refused, -⟩ | ⟨s, streams, again, made, madeToo, searches⟩
  · cases refused
  · exact ⟨s, streams, again, made, madeToo, searches _ _ (.refl _) (.refl _)⟩

end SearchSpec

end LogSearch
