import LogSearch.FieldType.Mapping
import LogSearch.Proofs.IndexScope
import LogSearch.Proofs.Sort.Normal
import LogSearch.Proofs.Spec
import LogSearch.Proofs.Value.Entries
import LogSearch.Proofs.Value.Sorted

/-!
# Types of fields in a set of streams

The streams of a search are a set, which may be given in any order.  A collaborator that `TakesSets`
tells the type of a field alike for all orders.  A table whose types are texts does so, and so does a
lookup in the mappings of indices whose names are texts.
-/

namespace LogSearch

/-- The type of a field does not depend on the order in which streams are given. -/
def FieldTypes.TakesSets {σ : Type} (types : FieldTypes σ) : Prop :=
  ∀ (streams others : List String), streams.Perm others → ∀ field,
    types.resolve (streams.map .str) field = types.resolve (others.map .str) field

namespace TypeTable

/-- A table has maps of fields for streams, and texts for the types of fields. -/
def HasTextTypes (t : TypeTable) : Prop :=
  ∃ streams, t.byStream = .map streams ∧ ∀ entry ∈ streams, ∃ fields, entry.2 = .map fields ∧
    ∀ typed ∈ fields, ∃ type, typed.2 = .str type

variable {t : TypeTable} {field : Value}

theorem exists_fields (h : t.HasTextTypes) (stream : String) :
    ∃ fields, t.byStream.getOr (.str stream) (.map []) = .ok (.map fields) ∧
      ∀ typed ∈ fields, ∃ type, typed.2 = .str type := by
  obtain ⟨streams, isMap, each⟩ := h
  have got : (Value.map streams).getOr (.str stream) (.map []) =
      .ok ((Entries.get? streams (.str stream)).getD (.map [])) := rfl
  rw [isMap, got]
  cases found : Entries.get? streams (.str stream) with
  | none => exact ⟨[], rfl, nofun⟩
  | some v =>
    obtain ⟨key, member⟩ := Entries.mem_of_get? found
    obtain ⟨fields, rfl, texts⟩ := each _ member
    exact ⟨fields, rfl, texts⟩

/-- What a stream has for a field that can be a key is a text, or nothing. -/
theorem exists_typeIn? (h : t.HasTextTypes) (fixed : field.fixed = .ok ()) (stream : String) :
    ∃ type : Option String, t.typeIn? field (.str stream) = .ok (type.map .str) := by
  obtain ⟨fields, found, texts⟩ := exists_fields h stream
  unfold typeIn?
  rw [found]
  simp only [Value.holds, Value.index, fixed, bind, Except.bind, pure, Except.pure,
    Entries.has_eq_isSome_get?]
  cases given : Entries.get? fields field with
  | none => exact ⟨none, rfl⟩
  | some v =>
    obtain ⟨key, member⟩ := Entries.mem_of_get? given
    obtain ⟨type, rfl⟩ := texts _ member
    exact ⟨some type, rfl⟩

theorem typeIn?_of_not_fixed {fault : Fault} (h : t.HasTextTypes)
    (changing : field.fixed = .error fault) (stream : String) :
    t.typeIn? field (.str stream) = .error fault := by
  obtain ⟨fields, found, -⟩ := exists_fields h stream
  unfold typeIn?
  rw [found]
  simp only [Value.holds, changing, bind, Except.bind]

theorem theOnly_perm {types others : List Value} (h : types.Perm others) :
    theOnly types = theOnly others := by
  match types, others, h.length_eq with
  | [], [], _ => rfl
  | [type], [other], _ => rw [List.perm_singleton.1 h]
  | _ :: _ :: _, _ :: _ :: _, _ => rfl

/-- The type of a field in streams for which a table has texts. -/
theorem resolve_of_typeIn? {type : String → Option String}
    (each : ∀ stream, t.typeIn? field (.str stream) = .ok ((type stream).map .str))
    (streams : List String) :
    t.resolve (streams.map .str) field =
      .ok (theOnly ((streams.filterMap type).eraseDups.map .str)) := by
  have found : (streams.map Value.str).mapM (t.typeIn? field) =
      .ok (streams.map fun stream => (type stream).map .str) := by
    rw [mapM_eq_ok_iff, List.forall₂_map_left_iff, List.forall₂_map_right_iff, List.forall₂_same]
    exact fun stream _ => each stream
  have texts : (streams.map fun stream => (type stream).map Value.str).filterMap id =
      (streams.filterMap type).map .str := by
    rw [List.filterMap_map, List.map_filterMap]
    rfl
  unfold resolve
  rw [found]
  change Except.ok (theOnly (Value.distinct _)) = _
  rw [texts, Value.distinct_texts]

theorem resolve_of_error {fault : Fault}
    (each : ∀ stream, t.typeIn? field (.str stream) = .error fault) (first : String)
    (rest : List String) : t.resolve ((first :: rest).map .str) field = .error fault := by
  unfold resolve
  rw [List.map_cons, List.mapM_cons, each]
  rfl

/-- Streams in any other order have the same types. -/
theorem resolve_perm (h : t.HasTextTypes) {streams others : List String} (same : streams.Perm others)
    (field : Value) : t.resolve (streams.map .str) field = t.resolve (others.map .str) field := by
  cases fixed : field.fixed with
  | ok =>
    choose type each using exists_typeIn? h fixed
    have members (τ : String) : τ ∈ streams.filterMap type ↔ τ ∈ others.filterMap type :=
      (same.filterMap type).mem_iff
    rw [resolve_of_typeIn? each, resolve_of_typeIn? each,
      theOnly_perm ((eraseDups_perm members).map .str)]
  | error fault =>
    have each := typeIn?_of_not_fixed h fixed
    match streams, others, same.length_eq with
    | [], [], _ => rfl
    | first :: rest, other :: more, _ =>
      rw [resolve_of_error each first rest, resolve_of_error each other more]

theorem takesSets {σ : Type} (h : t.HasTextTypes) : (t.fieldTypes : FieldTypes σ).TakesSets :=
  fun _ _ same field => congrArg Flow.ofFault (resolve_perm h same field)

end TypeTable

/-- A lookup names the indices of streams, and the streams in its report, in an order of its own. -/
theorem MappingLookup.takesSets {σ : Type} {m : MappingLookup} (client : HttpClient σ)
    (h : m.scope.HasTextNames) : (m.fieldTypes client).TakesSets := by
  intro streams others same field
  change m.resolve client _ field = m.resolve client _ field
  unfold resolve target
  rw [IndexScope.patterns_perm h (same.map .str), Sorted.sort_texts_perm same]

end LogSearch
