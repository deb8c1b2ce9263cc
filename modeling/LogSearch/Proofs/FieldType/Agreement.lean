import LogSearch.Proofs.FieldType.Mapping
import LogSearch.Proofs.FieldType.Table
import LogSearch.Proofs.Value.Access
import Mathlib.Data.List.DropRight

/-!
# The type that is agreed on

A field has a type where all who know it agree.  Those who are asked are the streams of a table, or the
indices of a backend; some of them claim a type for the field, and the others have no say.  An index
claims the type that it has for the field under the last part of the field's full name.

The answer is worked out from the list of all types that are claimed.  `tellsAgreement_of_claimed` says
what follows from that for any sources, and each collaborator has a lemma that says which types its
sources claim.

Main statement: `resolve_agreement`, for both collaborators.
-/

namespace LogSearch

open LogSearch.Flow (Ends)

section Claims

variable {α : Type}

/-- A source that claims a type. -/
def IsClaimant (claims : α → String → Prop) (s : α) : Prop := ∃ type, claims s type

/-- At least one source claims a type, and every source that claims one claims this. -/
def AgreedOn (claims : α → String → Prop) (sources : List α) (type : String) : Prop :=
  (∃ s ∈ sources, IsClaimant claims s) ∧ ∀ s ∈ sources, IsClaimant claims s → claims s type

/-- A way to answer which type a field has, by the claims of sources. -/
structure TellsAgreement (IsSource : α → Prop) (claims : α → String → Prop)
    (answer : List α → Except Fault Value) : Prop where
  /-- The answer is the type that is agreed on, and nothing where there is none. -/
  tells : ∀ sources, (∀ s ∈ sources, IsSource s) → ∃ told, answer sources = .ok told ∧
    (∀ type, told = .str type ↔ AgreedOn claims sources type) ∧
    ((∀ type, ¬ AgreedOn claims sources type) → told = .null)
  /-- Neither the sequence of sources counts, nor a source that claims nothing. -/
  same : ∀ sources others, (∀ s ∈ sources, IsSource s) → (∀ s ∈ others, IsSource s) →
    (∀ s, IsClaimant claims s → (s ∈ sources ↔ s ∈ others)) → answer sources = answer others
  /-- More claims leave the answer as it is, or leave none. -/
  enlarged : ∀ sources others type, (∀ s ∈ sources, IsSource s) → (∀ s ∈ others, IsSource s) →
    (∀ s ∈ sources, IsClaimant claims s → s ∈ others) → answer sources = .ok (.str type) →
    answer others = .ok (.str type) ∨ answer others = .ok .null

variable {IsSource : α → Prop} {claims : α → String → Prop} {claimed : α → Option String}
  {answer : List α → Except Fault Value} {sources : List α} {type : String}

/-- A type is agreed on when it is the only one of those that are claimed. -/
theorem agreedOn_iff (each : ∀ s type, claims s type ↔ claimed s = some type) :
    AgreedOn claims sources type ↔
      sources.filterMap claimed ≠ [] ∧ ∀ other ∈ sources.filterMap claimed, other = type := by
  constructor
  · rintro ⟨⟨s, hs, first, claims⟩, all⟩
    refine ⟨List.ne_nil_of_mem (List.mem_filterMap.2 ⟨s, hs, (each s first).1 claims⟩), ?_⟩
    intro other member
    obtain ⟨r, hr, found⟩ := List.mem_filterMap.1 member
    have this := (each r type).1 (all r hr ⟨other, (each r other).2 found⟩)
    exact Option.some.inj (found.symm.trans this)
  · rintro ⟨some, only⟩
    obtain ⟨first, member⟩ := List.exists_mem_of_ne_nil _ some
    obtain ⟨s, hs, found⟩ := List.mem_filterMap.1 member
    refine ⟨⟨s, hs, first, (each s first).2 found⟩, ?_⟩
    rintro r hr ⟨other, claims⟩
    have found := (each r other).1 claims
    rw [← only other (List.mem_filterMap.2 ⟨r, hr, found⟩)]
    exact claims

namespace TypeTable

/-- There is just one value among texts when all of them are the same. -/
theorem theOnly_texts_iff {types : List String} :
    theOnly (types.eraseDups.map .str) = .str type ↔ types ≠ [] ∧ ∀ other ∈ types, other = type := by
  have distinct := nodup_eraseDups types
  have members (other : String) : other ∈ types ↔ other ∈ types.eraseDups := List.mem_eraseDups.symm
  simp only [members]
  cases shape : types.eraseDups with
  | nil =>
    have none : types = [] := List.eq_nil_iff_forall_not_mem.2 fun other h => by
      rw [members, shape] at h
      cases h
    exact ⟨nofun, fun h => absurd none h.1⟩
  | cons first rest =>
    rw [shape] at distinct
    have some : types ≠ [] := List.ne_nil_of_mem ((members first).2 (shape ▸ List.mem_cons_self))
    cases rest with
    | nil =>
      constructor
      · intro only
        exact ⟨some, fun other h => (List.mem_singleton.1 h).trans (Value.str.inj only)⟩
      · rintro ⟨-, only⟩
        exact congrArg Value.str (only first List.mem_cons_self)
    | cons second rest =>
      refine ⟨nofun, ?_⟩
      rintro ⟨-, only⟩
      have same : first = second :=
        (only first List.mem_cons_self).trans (only second (by simp)).symm
      exact absurd (same ▸ List.mem_cons_self) (List.nodup_cons.1 distinct).1

theorem theOnly_texts (types : List String) :
    theOnly (types.map .str) = .null ∨ ∃ type, theOnly (types.map .str) = .str type := by
  match types with
  | [] => exact .inl rfl
  | [type] => exact .inr ⟨type, rfl⟩
  | _ :: _ :: _ => exact .inl rfl

end TypeTable

/-- An answer that is worked out from all types that are claimed tells what is agreed on. -/
theorem tellsAgreement_of_claimed (each : ∀ s type, claims s type ↔ claimed s = some type)
    (answered : ∀ sources, (∀ s ∈ sources, IsSource s) →
      answer sources = .ok (TypeTable.theOnly ((sources.filterMap claimed).eraseDups.map .str))) :
    TellsAgreement IsSource claims answer := by
  have told {sources : List α} {type : String} (valid : ∀ s ∈ sources, IsSource s) :
      answer sources = .ok (.str type) ↔ AgreedOn claims sources type := by
    rw [answered sources valid, agreedOn_iff each, ← TypeTable.theOnly_texts_iff, Except.ok.injEq]
  have untold {sources : List α} (valid : ∀ s ∈ sources, IsSource s) :
      answer sources = .ok .null ∨ ∃ type, answer sources = .ok (.str type) := by
    rw [answered sources valid]
    rcases TypeTable.theOnly_texts (sources.filterMap claimed).eraseDups with none | ⟨type, only⟩
    · exact .inl (congrArg _ none)
    · exact .inr ⟨type, congrArg _ only⟩
  refine ⟨?_, ?_, ?_⟩
  · intro sources valid
    refine ⟨_, answered sources valid, fun type => ?_, fun disagreed => ?_⟩
    · rw [← told valid, answered sources valid, Except.ok.injEq]
    · rcases untold valid with none | ⟨type, only⟩
      · exact Except.ok.inj ((answered sources valid).symm.trans none)
      · exact absurd ((told valid).1 only) (disagreed type)
  · intro sources others valid valid' alike
    have members (type : String) :
        type ∈ sources.filterMap claimed ↔ type ∈ others.filterMap claimed := by
      rw [List.mem_filterMap, List.mem_filterMap]
      refine exists_congr fun s => and_congr_left fun found => alike s ⟨type, (each s type).2 found⟩
    rw [answered sources valid, answered others valid',
      TypeTable.theOnly_perm ((eraseDups_perm members).map .str)]
  · intro sources others type valid valid' larger only
    obtain ⟨⟨s, hs, claimant⟩, all⟩ := (told valid).1 only
    rcases untold valid' with none | ⟨other, answer⟩
    · exact .inr none
    · -- A source that claims the one type is among those that claim the other.
      have claims := ((told valid').1 answer).2 s (larger s hs claimant) claimant
      have same : type = other :=
        Option.some.inj (((each s type).1 (all s hs claimant)).symm.trans ((each s other).1 claims))
      exact .inl (same ▸ answer)

end Claims

namespace Value

/-- A map that has nothing but a text under a name tells that text as a type. -/
theorem typeOf_isMap {v : Value} {name : String} (isMap : v.IsMap)
    (text : ∀ w ∈ v.under? [name], ∃ s, w = .str s) :
    (do if ← v.holds (.str name) then
          let type ← v.item name
          type.fixed
          return some type
        else return none : Except Fault (Option Value)) =
      .ok (((v.under? [name]).bind text?).map .str) := by
  obtain ⟨entries, rfl⟩ := isMap
  rw [under?_map] at text ⊢
  have holds : (map entries).holds (.str name) = .ok (Entries.get? entries (.str name)).isSome := by
    rw [← Entries.has_eq_isSome_get?]
    rfl
  rw [holds, item_map]
  cases found : Entries.get? entries (.str name) with
  | none => rfl
  | some w =>
    obtain ⟨s, rfl⟩ := text w (by rw [found]; rfl)
    rfl

theorem bind_text?_eq_some_iff {found : Option Value} {s : String} :
    found.bind text? = some s ↔ found = some (.str s) := by
  constructor
  · intro h
    obtain ⟨v, rfl, text⟩ := Option.bind_eq_some_iff.1 h
    cases v with
    | str t => rw [Option.some.inj text]
    | _ => cases text
  · rintro rfl
    rfl

end Value

namespace TypeTable

variable {t : TypeTable}

/-- A stream claims the type that a table has for the field in it. -/
def Claims (t : TypeTable) (field stream type : String) : Prop :=
  t.byStream.under? [stream, field] = some (.str type)

theorem fields_of_under? (h : t.HasTextTypes) {stream : String} {w : Value}
    (found : t.byStream.under? [stream] = some w) :
    ∃ fields, w = .map fields ∧ ∀ typed ∈ fields, ∃ type, typed.2 = .str type := by
  obtain ⟨streams, isMap, each⟩ := h
  rw [isMap, Value.under?_map] at found
  obtain ⟨v, got, same⟩ := Option.bind_eq_some_iff.1 found
  obtain rfl := Option.some.inj same
  obtain ⟨key, member⟩ := Entries.mem_of_get? got
  exact each _ member

theorem text_of_under? (h : t.HasTextTypes) {stream field : String} {w : Value}
    (found : t.byStream.under? [stream, field] = some w) : ∃ type, w = .str type := by
  rw [show [stream, field] = [stream] ++ [field] from rfl, Value.under?_append] at found
  obtain ⟨v, inStream, found⟩ := Option.bind_eq_some_iff.1 found
  obtain ⟨fields, rfl, texts⟩ := fields_of_under? h inStream
  rw [Value.under?_map] at found
  obtain ⟨v, got, same⟩ := Option.bind_eq_some_iff.1 found
  obtain rfl := Option.some.inj same
  obtain ⟨key, member⟩ := Entries.mem_of_get? got
  exact texts _ member

/-- What a stream has for a field is the type that it claims. -/
theorem typeIn?_eq (h : t.HasTextTypes) (field stream : String) :
    t.typeIn? (.str field) (.str stream) =
      .ok (((t.byStream.under? [stream, field]).bind Value.text?).map .str) := by
  have maps : ∀ w ∈ t.byStream.under? [stream], w.IsMap := by
    intro w found
    obtain ⟨fields, rfl, -⟩ := fields_of_under? h found
    exact ⟨fields, rfl⟩
  obtain ⟨streams, isMap, -⟩ := id h
  obtain ⟨fields, got, isMap', along⟩ := Value.exists_section ⟨streams, isMap⟩ maps
  have texts : ∀ w ∈ fields.under? [field], ∃ s, w = .str s := by
    intro w found
    rw [along] at found
    exact text_of_under? h found
  unfold typeIn?
  rw [show t.byStream.getOr (.str stream) (.map []) = .ok fields from got, ← along]
  exact Value.typeOf_isMap isMap' texts

theorem tellsAgreement (h : t.HasTextTypes) (field : String) :
    TellsAgreement (fun _ => True) (t.Claims field)
      fun streams => t.resolve (streams.map .str) (.str field) :=
  tellsAgreement_of_claimed (fun _ _ => Value.bind_text?_eq_some_iff.symm)
    fun streams _ => resolve_of_typeIn? (typeIn?_eq h field) streams

end TypeTable

namespace MappingLookup

/-- A name ends in a part without dots, behind its last dot if it has one. -/
def IsLastPart (name part : String) : Prop :=
  '.' ∉ part.toList ∧ (name = part ∨ ∃ before, name = before ++ "." ++ part)

/-- The full name of a field in an index, which is the field's own if none is given. -/
def fullName (field : String) (index : Value) : String :=
  ((index.under? ["mappings", field, "full_name"]).bind Value.text?).getD field

/-- An index claims the type that its mapping of the field has under the last part of the full name. -/
def Claims (field : String) (index : Value) (type : String) : Prop :=
  ∃ leaf, IsLastPart (fullName field index) leaf ∧
    index.under? ["mappings", field, "mapping", leaf, "type"] = some (.str type)

/-- The mappings of an index are well-formed: sections are maps, and names and types are texts. -/
structure IsIndexMapping (field : String) (index : Value) : Prop where
  isMap : index.IsMap
  mappings : ∀ v ∈ index.under? ["mappings"], v.IsMap
  /-- An index that does not map the field may have something in its place that counts as nothing. -/
  mapped : ∀ v ∈ index.under? ["mappings", field], v.isTrue = true → v.IsMap
  name : ∀ v ∈ index.under? ["mappings", field, "full_name"], ∃ s, v = .str s
  mapping : ∀ v ∈ index.under? ["mappings", field, "mapping"], v.IsMap
  leaf : ∀ leaf, ∀ v ∈ index.under? ["mappings", field, "mapping", leaf], v.IsMap
  type : ∀ leaf, ∀ v ∈ index.under? ["mappings", field, "mapping", leaf, "type"], ∃ s, v = .str s

theorem dot_notMem_lastPart (name : List Char) : '.' ∉ lastPart name := by
  intro h
  have passed : ('.' != '.') = true := List.mem_rtakeWhile_imp (p := (· != '.')) h
  cases passed

/-- A name is its last part, or ends in it behind a dot. -/
theorem lastPart_cases (name : List Char) :
    name = lastPart name ∨ ∃ before, name = before ++ '.' :: lastPart name := by
  have whole : name.rdropWhile (· != '.') ++ lastPart name = name :=
    List.rdropWhile_append_rtakeWhile
  by_cases none : name.rdropWhile (· != '.') = []
  · rw [none, List.nil_append] at whole
    exact .inl whole.symm
  · have isDot : (name.rdropWhile (· != '.')).getLast none = '.' := by
      simpa using List.rdropWhile_last_not (· != '.') name none
    have split := List.dropLast_append_getLast none
    rw [isDot] at split
    refine .inr ⟨(name.rdropWhile (· != '.')).dropLast, ?_⟩
    rw [List.append_cons, split, whole]

theorem lastPart_append {before part : List Char} (h : '.' ∉ part) :
    lastPart (before ++ '.' :: part) = part := by
  have passed : ∀ c ∈ part.reverse, (c != '.') = true := by
    intro c member
    rw [bne_iff_ne]
    rintro rfl
    exact h (List.mem_reverse.1 member)
  rw [lastPart, List.reverse_append, List.reverse_cons, List.append_assoc,
    List.takeWhile_append_of_pos passed]
  simp

theorem lastPart_of_notMem {name : List Char} (h : '.' ∉ name) : lastPart name = name := by
  rcases lastPart_cases name with same | ⟨before, split⟩
  · exact same.symm
  · exact absurd (split ▸ by simp) h

theorem isLastPart_iff {name part : String} :
    IsLastPart name part ↔ part = String.ofList (lastPart name.toList) := by
  have dotted (before part : String) :
      (before ++ "." ++ part).toList = before.toList ++ '.' :: part.toList := by simp
  constructor
  · rintro ⟨noDot, rfl | ⟨before, rfl⟩⟩
    · rw [lastPart_of_notMem noDot, String.ofList_toList]
    · rw [dotted, lastPart_append noDot, String.ofList_toList]
  · rintro rfl
    rw [IsLastPart, String.toList_ofList]
    refine ⟨dot_notMem_lastPart _, ?_⟩
    rcases lastPart_cases name.toList with same | ⟨before, split⟩
    · exact .inl (by rw [← same, String.ofList_toList])
    · refine .inr ⟨String.ofList before, String.toList_inj.1 ?_⟩
      rw [dotted, String.toList_ofList, String.toList_ofList]
      exact split

/-- The type that an index claims, if there is one. -/
def claimed? (field : String) (index : Value) : Option String :=
  let leaf := String.ofList (lastPart (fullName field index).toList)
  (index.under? ["mappings", field, "mapping", leaf, "type"]).bind Value.text?

theorem claims_iff {field : String} {index : Value} {type : String} :
    Claims field index type ↔ claimed? field index = some type := by
  unfold Claims claimed?
  rw [Value.bind_text?_eq_some_iff]
  constructor
  · rintro ⟨leaf, last, found⟩
    rwa [isLastPart_iff.1 last] at found
  · intro found
    exact ⟨_, isLastPart_iff.2 rfl, found⟩

section Mapped

variable {field : String} {index mapped : Value} (h : IsIndexMapping field index)

theorem under?_mapped (inPlace : index.under? ["mappings", field] = some mapped) (name : String)
    (path : List String) :
    index.under? ("mappings" :: field :: name :: path) = mapped.under? (name :: path) := by
  rw [show "mappings" :: field :: name :: path = ["mappings", field] ++ name :: path from rfl,
    Value.under?_append, inPlace, Option.bind_some]

include h

theorem IsIndexMapping.exists_fields : ∃ fields, index.field "mappings" (.map []) = .ok fields ∧
    fields.getOr (.str field) .null = .ok ((index.under? ["mappings", field]).getD .null) := by
  obtain ⟨fields, got, isMap, along⟩ := Value.exists_section h.isMap h.mappings
  rw [← along]
  exact ⟨fields, got, Value.field_of_isMap isMap field .null⟩

variable (inPlace : index.under? ["mappings", field] = some mapped) (isTrue : mapped.isTrue = true)

include inPlace isTrue

theorem IsIndexMapping.field_fullName :
    mapped.field "full_name" (.str field) = .ok (.str (fullName field index)) := by
  unfold fullName
  rw [Value.field_of_isMap (h.mapped mapped inPlace isTrue), under?_mapped inPlace]
  cases given : mapped.under? ["full_name"] with
  | none => rfl
  | some v =>
    obtain ⟨name, rfl⟩ := h.name v (by rw [under?_mapped inPlace]; exact given)
    rfl

theorem IsIndexMapping.exists_options (leaf : String) :
    ∃ parts options, mapped.field "mapping" (.map []) = .ok parts ∧
      parts.getOr (.str leaf) (.map []) = .ok options ∧ options.IsMap ∧
      options.under? ["type"] = index.under? ["mappings", field, "mapping", leaf, "type"] := by
  have sections : ∀ v ∈ mapped.under? ["mapping"], v.IsMap := by
    rw [← under?_mapped inPlace]
    exact h.mapping
  obtain ⟨parts, gotParts, isParts, inParts⟩ :=
    Value.exists_section (h.mapped mapped inPlace isTrue) sections
  have leaves : ∀ v ∈ parts.under? [leaf], v.IsMap := by
    rw [inParts, ← under?_mapped inPlace]
    exact h.leaf leaf
  obtain ⟨options, gotOptions, isOptions, inOptions⟩ := Value.exists_section isParts leaves
  refine ⟨parts, options, gotParts, gotOptions, isOptions, ?_⟩
  rw [inOptions, inParts, under?_mapped inPlace]

end Mapped

/-- What an index has for a field is the type that it claims. -/
theorem mappedType?_eq {field : String} {index : Value} (h : IsIndexMapping field index) :
    mappedType? (.str field) index = .ok ((claimed? field index).map .str) := by
  obtain ⟨fields, gotFields, gotMapped⟩ := h.exists_fields
  have nothing (h : ∀ leaf, index.under? ["mappings", field, "mapping", leaf, "type"] = none) :
      claimed? field index = none := by
    unfold claimed?
    dsimp only
    rw [h]
    rfl
  unfold mappedType?
  simp only [gotFields, gotMapped, bind, Except.bind]
  cases inPlace : index.under? ["mappings", field] with
  | none =>
    have missing : claimed? field index = none := nothing fun leaf => by
      rw [show ["mappings", field, "mapping", leaf, "type"] =
        ["mappings", field] ++ ["mapping", leaf, "type"] from rfl, Value.under?_append, inPlace]
      rfl
    rw [missing]
    rfl
  | some mapped =>
    cases isTrue : mapped.isTrue with
    | false =>
      have missing : claimed? field index = none := nothing fun leaf => by
        rw [under?_mapped inPlace, Value.under?_of_not_isTrue isTrue]
      rw [missing, Option.getD_some, isTrue]
      rfl
    | true =>
      obtain ⟨parts, options, gotParts, gotOptions, isOptions, type⟩ :=
        h.exists_options inPlace isTrue (String.ofList (lastPart (fullName field index).toList))
      have texts : ∀ w ∈ options.under? ["type"], ∃ s, w = .str s := by
        rw [type]
        exact h.type _
      unfold claimed?
      simp only [Option.getD_some, isTrue, h.field_fullName inPlace isTrue, leafName, gotParts,
        gotOptions, ← type]
      exact Value.typeOf_isMap isOptions texts

theorem agreed_texts (types : List String) :
    agreed (types.map .str) = .ok (TypeTable.theOnly (types.map .str)) := by
  unfold agreed
  rw [Sorted.sort_texts]
  split <;> rfl

/-- What the mappings of indices agree on is worked out from the types that these claim. -/
theorem typeIn_eq {field : String} {indices : Entries}
    (each : ∀ index ∈ indices, IsIndexMapping field index.2) :
    typeIn (.str field) (.map indices) = .ok (TypeTable.theOnly
      ((indices.filterMap fun index => claimed? field index.2).eraseDups.map .str)) := by
  have found : (indices.map Prod.snd).mapM (mappedType? (.str field)) =
      .ok (indices.map fun index => (claimed? field index.2).map .str) := by
    rw [mapM_eq_ok_iff, List.forall₂_map_left_iff, List.forall₂_map_right_iff, List.forall₂_same]
    exact fun index member => mappedType?_eq (each index member)
  have texts : (indices.map fun index => (claimed? field index.2).map Value.str).filterMap id =
      (indices.filterMap fun index => claimed? field index.2).map .str := by
    rw [List.filterMap_map, List.map_filterMap]
    rfl
  have types : mappedTypes (.str field) (.map indices) =
      .ok ((indices.filterMap fun index => claimed? field index.2).eraseDups.map .str) := by
    rw [← Value.distinct_texts, ← texts]
    unfold mappedTypes
    simp only [Value.values, bind, Except.bind, found]
    rfl
  unfold typeIn
  rw [types]
  exact agreed_texts _

theorem tellsAgreement (field : String) :
    TellsAgreement (fun index => IsIndexMapping field index.2) (fun index => Claims field index.2)
      fun indices => typeIn (.str field) (.map indices) :=
  tellsAgreement_of_claimed (fun _ _ => claims_iff) fun _ each => typeIn_eq each

/-- An answer of status 200 whose body is JSON holds mappings. -/
theorem mappingsIn_of_json {r : HttpResponse} {body : Value} (status : r.status = .int 200)
    (json : r.json = .ok body) : mappingsIn r = .ok (some body) := by
  have known : r.hasStatus 404 = false := by
    rw [HttpResponse.hasStatus, status]
    rfl
  have fine : r.raiseForStatus = .ok () := by
    unfold HttpResponse.raiseForStatus HttpResponse.isStatusFrom
    rw [status]
    rfl
  unfold mappingsIn
  rw [known, fine, json]
  rfl

/-- A lookup tells what the mappings agree on that it is sent. -/
theorem ends_resolve_of_json {σ : Type} {m : MappingLookup} {client : HttpClient σ} {target : String}
    {streams : List String} {field : Value} {r : HttpResponse} {body : Value} {w v : σ}
    (isTarget : m.target (streams.map .str) = .ok target) (status : r.status = .int 200)
    (json : r.json = .ok body) (sent : Ends (client.send (m.request target field)) w (.ok r) v) :
    Ends (m.resolve client (streams.map .str) field) w (ofFaults (typeIn field body)) v := by
  have asked : Ends (m.mappings client target field) w (ofFaults (mappingsIn r)) v :=
    ends_mappings sent
  rw [mappingsIn_of_json status json] at asked
  exact ends_resolve_mapped isTarget asked

end MappingLookup

/-- A lookup in the mappings of indices, and a table, tell which type a field has by the claims of the
indices that are sent, and of the streams that are given: the type that all claimants claim, if there is
a claimant.  The sequence of indices or streams and those that claim nothing make no difference, and more
claims may leave no type, but never another. -/
theorem resolve_agreement (field : String) :
    (∀ (m : MappingLookup) (streams : List String), m.scope.HasTextNames →
      ∃ target, m.target (streams.map .str) = .ok target ∧
        ∀ (σ : Type) (client : HttpClient σ) (w v : σ) (r : HttpResponse) (indices : Entries),
          r.status = .int 200 → r.json = .ok (.map indices) →
          Ends (client.send (m.request target (.str field))) w (.ok r) v →
          Ends (m.resolve client (streams.map .str) (.str field)) w
            (ofFaults (MappingLookup.typeIn (.str field) (.map indices))) v) ∧
    TellsAgreement (fun index => MappingLookup.IsIndexMapping field index.2)
      (fun index => MappingLookup.Claims field index.2)
      (fun indices => MappingLookup.typeIn (.str field) (.map indices)) ∧
    ∀ t : TypeTable, t.HasTextTypes →
      TellsAgreement (fun _ => True) (t.Claims field)
        fun streams => t.resolve (streams.map .str) (.str field) := by
  refine ⟨?_, MappingLookup.tellsAgreement field, fun t texts => TypeTable.tellsAgreement texts field⟩
  intro m streams named
  obtain ⟨patterns, isPatterns⟩ := IndexScope.exists_patterns named (streams.map .str)
  refine ⟨",".intercalate patterns, congrArg (Except.map _) isPatterns, ?_⟩
  intro σ client w v r indices status json sent
  exact MappingLookup.ends_resolve_of_json (congrArg (Except.map _) isPatterns) status json sent

/-- The mappings of two indices, of which one maps a field with a dotted name. -/
def addressMappings : String :=
  "\x7b\"g_0\":\x7b\"mappings\":\x7b\"source.ip\":\x7b\"full_name\":\"source.ip\"," ++
    "\"mapping\":\x7b\"ip\":\x7b\"type\":\"ip\"\x7d\x7d\x7d\x7d\x7d,\"g_1\":\x7b\"mappings\":\x7b\x7d\x7d\x7d"

/-- Of two indices and of two streams one claims that the field holds addresses, and the other claims
nothing. -/
theorem resolve_agreement_address :
    let m : MappingLookup := ⟨"http://es:9200", {}, .float (.ofInt 10)⟩
    let client : HttpClient Unit := ⟨fun _ => pure ⟨.int 200, addressMappings, .null, ""⟩⟩
    let t : TypeTable := ⟨.map [(.str "s", .map [(.str "source.ip", .str "ip")]), (.str "r", .map [])]⟩
    Ends (m.resolve client [.str "s", .str "r"] (.str "source.ip")) () (.ok (.str "ip")) () ∧
      t.resolve [.str "s", .str "r"] (.str "source.ip") = .ok (.str "ip") := by
  intro m client t
  let parts : Entries := [(.str "ip", .map [(.str "type", .str "ip")])]
  let mapped : Value := .map [(.str "full_name", .str "source.ip"), (.str "mapping", .map parts)]
  let first : Value := .map [(.str "mappings", .map [(.str "source.ip", mapped)])]
  let second : Value := .map [(.str "mappings", .map [])]
  let indices : Entries := [(.str "g_0", first), (.str "g_1", second)]
  have read : Json.read addressMappings = .ok (.map indices) := by cbv
  have scope : m.scope.HasTextNames := ⟨⟨_, rfl⟩, fun entry member => (List.not_mem_nil member).elim⟩
  obtain ⟨lookup, mappings, tables⟩ := resolve_agreement "source.ip"
  constructor
  · have part {leaf : String} {v : Value} (h : Entries.get? parts (.str leaf) = some v) :
        v = .map [(.str "type", .str "ip")] := by
      obtain ⟨key, member⟩ := Entries.mem_of_get? h
      exact (Prod.mk.inj (List.mem_singleton.1 member)).2
    have claims : MappingLookup.Claims "source.ip" first "ip" :=
      ⟨"ip", ⟨by decide, .inr ⟨"source", rfl⟩⟩, rfl⟩
    have silent (type : String) : ¬ MappingLookup.Claims "source.ip" second type := by
      rintro ⟨leaf, -, found⟩
      cases found
    have valid : ∀ index ∈ indices, MappingLookup.IsIndexMapping "source.ip" index.2 := by
      have inFirst {name : String} {path : List String} :
          first.under? ("mappings" :: "source.ip" :: "mapping" :: name :: path) =
            (Entries.get? parts (.str name)).bind (Value.under? · path) := rfl
      intro index member
      rcases List.mem_pair.1 member with rfl | rfl
      · refine ⟨⟨_, rfl⟩, ?_, ?_, ?_, ?_, ?_, ?_⟩
        · rintro v ⟨⟩
          exact ⟨_, rfl⟩
        · rintro v ⟨⟩ -
          exact ⟨_, rfl⟩
        · rintro v ⟨⟩
          exact ⟨_, rfl⟩
        · rintro v ⟨⟩
          exact ⟨_, rfl⟩
        · intro leaf v found
          rw [inFirst] at found
          obtain ⟨w, inParts, same⟩ := Option.bind_eq_some_iff.1 found
          obtain rfl := Option.some.inj same
          exact ⟨_, part inParts⟩
        · intro leaf v found
          rw [inFirst] at found
          obtain ⟨w, inParts, typed⟩ := Option.bind_eq_some_iff.1 found
          rw [part inParts] at typed
          exact ⟨_, (Option.some.inj typed).symm⟩
      · refine ⟨⟨_, rfl⟩, ?_, nofun, nofun, nofun, nofun, nofun⟩
        rintro v ⟨⟩
        exact ⟨_, rfl⟩
    obtain ⟨told, typed, agreed, -⟩ := mappings.tells indices valid
    have isType : told = .str "ip" := by
      refine (agreed "ip").2 ⟨⟨_, List.mem_cons_self, "ip", claims⟩, ?_⟩
      rintro index member ⟨type, claimed⟩
      rcases List.mem_pair.1 member with rfl | rfl
      · exact claims
      · exact absurd claimed (silent type)
    let response : HttpResponse := ⟨.int 200, addressMappings, .null, ""⟩
    obtain ⟨target, -, ends⟩ := lookup m ["s", "r"] scope
    have ends := ends Unit client () () response indices rfl (congrArg (Except.mapError _) read)
      (.pure _ ())
    rwa [typed, isType] at ends
  · have texts : t.HasTextTypes := by
      refine ⟨_, rfl, fun entry member => ?_⟩
      rcases List.mem_pair.1 member with rfl | rfl
      · refine ⟨_, rfl, fun typed member => ?_⟩
        obtain rfl := List.mem_singleton.1 member
        exact ⟨_, rfl⟩
      · exact ⟨[], rfl, nofun⟩
    obtain ⟨told, typed, agreed, -⟩ := (tables t texts).tells ["s", "r"] fun _ _ => trivial
    have isType : told = .str "ip" := by
      refine (agreed "ip").2 ⟨⟨_, List.mem_cons_self, "ip", rfl⟩, ?_⟩
      rintro stream member ⟨type, claimed⟩
      rcases List.mem_pair.1 member with rfl | rfl
      · rfl
      · cases claimed
    rwa [isType] at typed

end LogSearch
