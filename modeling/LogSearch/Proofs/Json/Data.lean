import LogSearch.Proofs.Json.Keys
import LogSearch.Proofs.Value.Access

/-!
# Values that are JSON data

JSON data are nothing, truth values, numbers, texts, lists of JSON data, and maps of JSON data whose keys
are texts.  Every text holds such data only, and so do the parts of it and what is made of them under
names.

Main statements: `Json.isJson_of_read`, and `Value.isJson_record` for records.
-/

namespace LogSearch

namespace Value

mutual

/-- Whether a value is JSON data. -/
def isJson : Value → Bool
  | null | bool _ | int _ | float _ | str _ => true
  | list items => areJson items
  | map entries => entriesJson entries
  | _ => false

/-- Whether all values of a list are. -/
def areJson : List Value → Bool
  | [] => true
  | v :: r => isJson v && areJson r

/-- Whether the values of some entries are, and their keys are texts. -/
def entriesJson : List (Value × Value) → Bool
  | [] => true
  | (k, v) :: r => k.text?.isSome && isJson v && entriesJson r

end

variable {v u default : Value} {entries : Entries} {name : String}

theorem areJson_iff (vs : List Value) : areJson vs = true ↔ ∀ v ∈ vs, v.isJson = true := by
  induction vs with
  | nil => simp [areJson]
  | cons v r ih => simp [areJson, ih]

theorem isSome_text?_iff : v.text?.isSome = true ↔ ∃ name, v = .str name := by
  cases v <;> simp [text?]

theorem isJson_list {items : List Value} : (list items).isJson = true ↔ ∀ v ∈ items, v.isJson = true := by
  rw [isJson, areJson_iff]

theorem isJson_map :
    (map entries).isJson = true ↔ ∀ e ∈ entries, (∃ name, e.1 = .str name) ∧ e.2.isJson = true := by
  rw [isJson]
  induction entries with
  | nil => simp [entriesJson]
  | cons e r ih =>
    obtain ⟨k, v⟩ := e
    simp only [entriesJson, Bool.and_eq_true, isSome_text?_iff, ih, List.forall_mem_cons]

theorem isJson_texts (items : List String) : (texts items).isJson = true := by
  refine isJson_list.2 fun v hv => ?_
  obtain ⟨s, -, rfl⟩ := List.mem_map.1 hv
  rfl

/-- A record is JSON data when its parts are. -/
theorem isJson_record {fields : List (String × Value)} (h : ∀ f ∈ fields, f.2.isJson = true) :
    (record fields).isJson = true := by
  refine isJson_map.2 fun e he => ?_
  obtain ⟨f, hf, rfl⟩ := List.mem_map.1 he
  exact ⟨⟨f.1, rfl⟩, h f hf⟩

theorem isJson_of_get? {key : Value} (h : (map entries).isJson = true)
    (found : Entries.get? entries key = some v) : v.isJson = true := by
  obtain ⟨k, member⟩ := Entries.mem_of_get? found
  exact (isJson_map.1 h _ member).2

theorem isJson_of_field (h : v.field name default = .ok u) (json : v.isJson = true)
    (other : default.isJson = true) : u.isJson = true := by
  by_cases isMap : v.IsMap
  · obtain ⟨entries, rfl⟩ := isMap
    rw [field_map] at h
    obtain rfl := Except.ok.inj h
    cases found : Entries.get? entries (.str name) with
    | none => exact other
    | some w => exact isJson_of_get? json found
  · rw [field_of_other isMap] at h
    cases h

end Value

namespace Json

variable {v : Value}

theorem isJson_of_isKey (h : IsKey v) : v.isJson = true := by
  cases v <;> first | rfl | cases h

/-- What a text holds is JSON data. -/
theorem isJson_of_read {text : String} (h : read text = .ok v) : v.isJson = true := by
  refine read_induction (P := fun v => v.isJson = true) (fun s => rfl)
    (fun _ _ _ h => isJson_of_isKey (isKey_of_scalar h)) (fun vs hvs => Value.isJson_list.2 hvs)
    (fun pairs hpairs => ?_) h
  refine Value.isJson_map.2 (Entries.forall_mem_ofPairs (K := fun k => ∃ name, k = .str name)
    (P := fun v => v.isJson = true) ?_)
  rintro e he
  obtain ⟨isText, json⟩ := hpairs e he
  exact ⟨isText, json⟩

end Json

end LogSearch
