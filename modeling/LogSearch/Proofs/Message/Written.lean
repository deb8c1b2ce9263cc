import LogSearch.Proofs.Failure
import LogSearch.Proofs.Message.Highlights

/-!
# Hits and messages as JSON

The hits that a remote backend finds are parts of JSON text.  What is made of such a hit can be written as
JSON again: its message, and the report that it is none.

Main statements: `Hit.read_cases_of_isJson` and `Envelope.badKey?_record`.
-/

namespace LogSearch

namespace Json

variable {v u default : Value}

theorem badKey?_of_field {name : String} (h : v.field name default = .ok u) (written : badKey? v = none)
    (other : badKey? default = none) : badKey? u = none := by
  by_cases isMap : v.IsMap
  · obtain ⟨entries, rfl⟩ := isMap
    rw [Value.field_map] at h
    obtain rfl := Except.ok.inj h
    cases found : Entries.get? entries (.str name) with
    | none => exact other
    | some w => exact badKey?_of_get? written found
  · rw [Value.field_of_other isMap] at h
    cases h

theorem badKey?_of_elements {items : List Value} (h : v.elements = .ok items) (written : badKey? v = none) :
    ∀ w ∈ items, badKey? w = none := by
  intro w hw
  cases v with
  | list vs | tuple vs =>
    obtain rfl := Except.ok.inj h
    rw [badKey?] at written
    exact (badKeyOfItems?_eq_none_iff vs).1 written w hw
  | map entries =>
    obtain rfl := Except.ok.inj h
    obtain ⟨entry, member, rfl⟩ := List.mem_map.1 hw
    exact badKey?_of_isKey (badKey?_map.1 written entry member).1
  | str s =>
    obtain rfl := Except.ok.inj h
    obtain ⟨c, -, rfl⟩ := List.mem_map.1 hw
    rfl
  | bytes octets =>
    obtain rfl := Except.ok.inj h
    obtain ⟨b, -, rfl⟩ := List.mem_map.1 hw
    rfl
  | _ => cases h

end Json

namespace Hit

/-- A hit that is told in JSON: its parts can be written as JSON. -/
structure IsJson (h : Hit) : Prop where
  id : Json.badKey? h.id = none
  index : Json.badKey? h.index = none
  source : Json.badKey? h.source = none
  highlights : Json.badKey? h.highlights = none

/-- What is wrong with a hit and is not told: its time leaves the calendar, or its highlights are no map. -/
inductive Misfit (h : Hit) : Fault → Prop
  | time (leaves : h.LeavesCalendar) : Misfit h .outsideCalendar
  | highlights (isTrue : h.highlights.isTrue = true) (isOther : ¬ h.highlights.IsMap) :
    Misfit h (.noAttribute h.highlights.fullKind "items")

variable {h : Hit}

/-- The highlights of a hit are read last. -/
theorem read_eq_bind (h : Hit) :
    h.read = (do
      let m ← { h with highlights := .null }.read
      return { m with highlights := ← h.readHighlights }) := by
  unfold read
  cases nonempty? h.id with
  | none => rfl
  | some id =>
    cases nonempty? h.index with
    | none => rfl
    | some index =>
      cases isSource : h.source with
      | map source =>
        -- Of a hit only its name is needed to read the fields of a source.
        have same : Hit.fields ⟨h.id, h.index, .map source, .null⟩ source = h.fields source := rfl
        dsimp only
        rw [same]
        cases h.fields source <;> rfl
      | _ => rfl

theorem toldUnless_of_isReport {P : Fault → Prop} {e : Failure} (json : h.IsJson) (report : h.IsReport e) :
    e.ToldUnless P := by
  obtain ⟨reason, cause, rfl⟩ := report
  exact Failure.hasText_unparsedHit reason cause json.id json.index

theorem readHighlights_of_other (isOther : ¬ h.highlights.IsMap) :
    h.readHighlights = if h.highlights.isTrue then
        .error (.fault (.noAttribute h.highlights.fullKind "items"))
      else .ok [] := by
  unfold readHighlights
  cases h.highlights.isTrue with
  | false => rfl
  | true =>
    rw [Value.items_of_other isOther]
    rfl

/-- A hit that is told in JSON gives a message, or a report that has a text, unless it is unfit. -/
theorem read_cases_of_isJson (json : h.IsJson) :
    (∃ m, h.read = .ok m) ∨ ∃ e, h.read = .error e ∧ e.ToldUnless h.Misfit := by
  by_cases isMap : h.highlights.IsMap
  · rcases read_cases h (.inr isMap) with read | ⟨e, failed, report⟩ | ⟨failed, leaves⟩ | ⟨failed, -⟩
    · exact .inl read
    · exact .inr ⟨e, failed, toldUnless_of_isReport json report⟩
    · exact .inr ⟨_, failed, .inr (.time leaves)⟩
    · exact .inr ⟨_, failed, .inl rfl⟩
  · have last := h.read_eq_bind
    rw [readHighlights_of_other isMap] at last
    rcases read_cases { h with highlights := .null } (.inl rfl) with
      ⟨m, read⟩ | ⟨e, failed, report⟩ | ⟨failed, leaves⟩ | ⟨failed, -⟩
    · rw [read] at last
      by_cases isTrue : h.highlights.isTrue = true
      · rw [if_pos isTrue] at last
        exact .inr ⟨_, last, .inr (.highlights isTrue isMap)⟩
      · rw [if_neg isTrue] at last
        exact .inl ⟨_, last⟩
    · rw [failed] at last
      exact .inr ⟨e, last, toldUnless_of_isReport json report⟩
    · rw [failed] at last
      exact .inr ⟨_, last, .inr (.time leaves)⟩
    · rw [failed] at last
      exact .inr ⟨_, last, .inl rfl⟩

/-- The fields of a message are fields of the source, or its time. -/
theorem badKey?_of_fields {source fields : Entries} (hf : h.fields source = .ok fields)
    (written : Json.badKey? (.map source) = none) : Json.badKey? (.map fields) = none := by
  have dropped : Json.badKey? (.map (Entries.drop source idField)) = none := by
    refine Json.badKey?_map.2 fun e he => Json.badKey?_map.1 written e ?_
    exact List.mem_of_mem_filter he
  rw [fields_eq] at hf
  split at hf
  · obtain rfl := Except.ok.inj hf
    exact dropped
  · obtain ⟨t, -, rfl⟩ := exists_of_map_eq_ok hf
    exact Json.badKey?_put dropped rfl

theorem isKey_of_mem_entries {v key w : Value} (written : Json.badKey? v = none)
    (member : (key, w) ∈ v.entries) : Json.IsKey key := by
  cases v with
  | map entries => exact (Json.badKey?_map.1 written _ member).1
  | _ => cases member

/-- The message of a hit that is told in JSON can be written as JSON. -/
theorem badKey?_of_read {m : Message} (json : h.IsJson) (hm : h.read = .ok m) :
    Json.badKey? m.summary.record = none := by
  obtain ⟨source, isSource, isFields, -⟩ := exists_of_read hm
  have fields : Json.badKey? (.map m.summary.fields) = none :=
    Json.badKey?_put (badKey?_of_fields isFields (isSource ▸ json.source)) rfl
  obtain ⟨shown, isShown, each⟩ := showsHighlights_of_read hm
  have highlights : Json.badKey? m.summary.highlights = none := by
    rw [isShown]
    refine Json.badKey?_map.2 fun entry member => ?_
    obtain ⟨given, isGiven, same, vs, -, texts⟩ := exists_mem_of_forall₂ each member
    rw [same, texts]
    exact ⟨isKey_of_mem_entries json.highlights isGiven, Json.badKey?_texts _⟩
  have message : Json.badKey? (.map (m.summary.fields.map fun field => (field.1, Summary.shown field.2))) =
      none := by
    refine Json.badKey?_map.2 fun entry member => ?_
    obtain ⟨⟨k, v⟩, isField, rfl⟩ := List.mem_map.1 member
    obtain ⟨isKey, written⟩ := Json.badKey?_map.1 fields _ isField
    refine ⟨isKey, ?_⟩
    cases v <;> first | rfl | exact written
  refine Json.badKey?_record fun field member => ?_
  simp only [List.mem_cons, List.not_mem_nil, or_false] at member
  rcases member with rfl | rfl | rfl
  · exact highlights
  · exact message
  · rfl

end Hit

/-- An answer of messages that can be written as JSON can be written itself. -/
theorem Envelope.badKey?_record {e : Envelope} (id : Json.badKey? e.id = none)
    (messages : ∀ m ∈ e.messages, Json.badKey? m.record = none) (total : Json.badKey? e.total = none)
    (name : Json.badKey? e.name = none) : Json.badKey? e.record = none := by
  have listed : Json.badKey? (.list (e.messages.map Summary.record)) = none := by
    refine Json.badKey?_list.2 fun v hv => ?_
    obtain ⟨m, hm, rfl⟩ := List.mem_map.1 hv
    exact messages m hm
  refine Json.badKey?_record fun field member => ?_
  simp only [List.mem_append, List.mem_cons, List.not_mem_nil, or_false] at member
  rcases member with (rfl | rfl | rfl | rfl | rfl) | member
  · exact id
  · rfl
  · exact listed
  · rfl
  · exact total
  · split at member
    · cases member
    · rw [List.mem_singleton.1 member]
      exact name

namespace RemoteBackend

theorem isJson_of_hit {v : Value} {found : Hit} (h : hit v = .ok found) (written : Json.badKey? v = none) :
    found.IsJson := by
  unfold hit at h
  obtain ⟨id, isId, h⟩ := exists_of_bind_eq_ok h
  obtain ⟨index, isIndex, h⟩ := exists_of_bind_eq_ok h
  obtain ⟨source, isSource, h⟩ := exists_of_bind_eq_ok h
  obtain ⟨highlights, isHighlights, h⟩ := exists_of_bind_eq_ok h
  obtain rfl := Except.ok.inj h
  exact ⟨Json.badKey?_of_field isId written rfl, Json.badKey?_of_field isIndex written rfl,
    Json.badKey?_of_field isSource written rfl, Json.badKey?_of_field isHighlights written rfl⟩

/-- The hits that are found in JSON are told in it. -/
theorem isJson_of_hits {body : Value} {found : List Hit} {n : Int} (h : hits body = .ok (found, n))
    (written : Json.badKey? body = none) : ∀ hit ∈ found, hit.IsJson := by
  unfold hits at h
  obtain ⟨listing, isListing, h⟩ := exists_of_bind_eq_ok h
  obtain ⟨items, isItems, h⟩ := exists_of_bind_eq_ok h
  obtain ⟨elements, isElements, h⟩ := exists_of_bind_eq_ok h
  obtain ⟨all, isAll, h⟩ := exists_of_bind_eq_ok h
  obtain ⟨total, -, h⟩ := exists_of_bind_eq_ok h
  obtain ⟨number, -, h⟩ := exists_of_bind_eq_ok h
  obtain ⟨rfl, -⟩ := Prod.mk.inj (Except.ok.inj h)
  have listed := Json.badKey?_of_field isListing written rfl
  have each := Json.badKey?_of_elements isElements (Json.badKey?_of_field isItems listed rfl)
  intro found member
  obtain ⟨v, hv, isHit⟩ := exists_mem_of_forall₂ (mapM_eq_ok_iff.1 isAll) member
  exact isJson_of_hit isHit (each v hv)

end RemoteBackend

end LogSearch
