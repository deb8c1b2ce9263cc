import LogSearch.Proofs.Value.Entries
import LogSearch.Value.Access

/-!
# What access to a value gives

Only a map has parts under names.  What is found there, or else the default, is what access to a map
gives; any other value has a fault that names its kind.

Maps hold maps.  `Value.under?` follows a path of names through them, and `exists_section` says what it
is to go one step along it when nothing counts as an empty map.
-/

namespace LogSearch.Value

/-- A value is a map. -/
def IsMap (v : Value) : Prop := ∃ entries, v = .map entries

variable {entries : Entries} {v default : Value} {name : String}

theorem field_map (entries : Entries) (name : String) (default : Value) :
    (map entries).field name default = .ok ((Entries.get? entries (.str name)).getD default) := rfl

theorem field_of_get? (h : Entries.get? entries (.str name) = some v) :
    (map entries).field name default = .ok v := by
  rw [field_map, h]
  rfl

theorem field_of_missing (h : Entries.get? entries (.str name) = none) :
    (map entries).field name default = .ok default := by
  rw [field_map, h]
  rfl

theorem field_of_other (h : ¬ v.IsMap) :
    v.field name default = .error (.noAttribute v.fullKind "get") := by
  cases v with
  | map entries => exact absurd ⟨entries, rfl⟩ h
  | _ => rfl

theorem items_of_other (h : ¬ v.IsMap) : v.items = .error (.noAttribute v.fullKind "items") := by
  cases v with
  | map entries => exact absurd ⟨entries, rfl⟩ h
  | _ => rfl

/-- What a value has at the end of a path of names, each of which leads from a map to what is under it. -/
def under? : Value → List String → Option Value
  | v, [] => some v
  | map entries, name :: path => (Entries.get? entries (.str name)).bind (under? · path)
  | _, _ :: _ => none

theorem under?_map (entries : Entries) (name : String) (path : List String) :
    (map entries).under? (name :: path) = (Entries.get? entries (.str name)).bind (under? · path) := rfl

/-- A record has under a name its first part of that name. -/
theorem under?_record (parts : List (String × Value)) (name : String) (path : List String) :
    (record parts).under? (name :: path) = (parts.lookup name).bind (under? · path) := by
  induction parts with
  | nil => rfl
  | cons part rest ih =>
    obtain ⟨other, v⟩ := part
    change (map ((.str other, v) :: _)).under? _ = _
    rw [under?_map, Entries.get?_cons, alike_str, List.lookup_cons]
    by_cases same : other = name
    · simp [same]
    · rw [if_neg (by simpa using same), beq_false_of_ne (Ne.symm same)]
      exact ih

theorem under?_of_other (h : ¬ v.IsMap) (name : String) (path : List String) :
    v.under? (name :: path) = none := by
  cases v with
  | map entries => exact absurd ⟨entries, rfl⟩ h
  | _ => rfl

theorem under?_append (v : Value) (path rest : List String) :
    v.under? (path ++ rest) = (v.under? path).bind (under? · rest) := by
  induction path generalizing v with
  | nil => rfl
  | cons name path ih =>
    by_cases isMap : v.IsMap
    · obtain ⟨entries, rfl⟩ := isMap
      rw [List.cons_append, under?_map, under?_map, Option.bind_assoc]
      simp only [ih]
    · rw [List.cons_append, under?_of_other isMap, under?_of_other isMap]
      rfl

/-- What counts as nothing has nothing under any name. -/
theorem under?_of_not_isTrue (h : v.isTrue = false) (name : String) (path : List String) :
    v.under? (name :: path) = none := by
  cases v with
  | map entries =>
    cases entries with
    | nil => rfl
    | cons entry rest => cases h
  | _ => rfl

/-- A map has what is under a name, or the default. -/
theorem field_of_isMap (h : v.IsMap) (name : String) (default : Value) :
    v.field name default = .ok ((v.under? [name]).getD default) := by
  obtain ⟨entries, rfl⟩ := h
  rw [field_map, under?_map]
  cases Entries.get? entries (.str name) <;> rfl

/-- What is a map wherever it stands, and an empty map in place of nothing, has under all names what is
there along the longer path. -/
theorem exists_section (h : v.IsMap) (each : ∀ w ∈ v.under? [name], w.IsMap) :
    ∃ w, v.field name (.map []) = .ok w ∧ w.IsMap ∧
      ∀ next path, w.under? (next :: path) = v.under? (name :: next :: path) := by
  have path (next : String) (path : List String) :
      v.under? (name :: next :: path) = (v.under? [name]).bind (under? · (next :: path)) :=
    under?_append v [name] (next :: path)
  rw [field_of_isMap h]
  cases found : v.under? [name] with
  | none => exact ⟨.map [], rfl, ⟨[], rfl⟩, fun next rest => by rw [path, found]; rfl⟩
  | some w => exact ⟨w, rfl, each w found, fun next rest => by rw [path, found]; rfl⟩

theorem item_map (entries : Entries) (name : String) :
    (map entries).item name =
      match Entries.get? entries (.str name) with
      | some w => .ok w
      | none => .error (.missingKey (.str name)) := rfl

/-- What is no map has no item under a name, whatever else it is. -/
theorem item_of_other (h : ¬ v.IsMap) (name : String) :
    ∃ fault, v.item name = .error fault ∧ fault.kind = .type := by
  have noIndex : (Value.str name).int? = none := rfl
  unfold item index
  split
  · rename_i entries
    exact absurd ⟨entries, rfl⟩ h
  · rw [noIndex]
    cases v.elements with
    | ok vs => exact ⟨_, rfl, rfl⟩
    | error e => exact ⟨_, rfl, rfl⟩

theorem exists_of_item {w : Value} (h : v.item name = .ok w) :
    ∃ entries, v = .map entries ∧ Entries.get? entries (.str name) = some w := by
  by_cases isMap : v.IsMap
  · obtain ⟨entries, rfl⟩ := isMap
    rw [item_map] at h
    cases found : Entries.get? entries (.str name) with
    | none => rw [found] at h; cases h
    | some x =>
      rw [found] at h
      obtain rfl := Except.ok.inj h
      exact ⟨entries, rfl, found⟩
  · obtain ⟨fault, failed, -⟩ := item_of_other isMap name
    rw [failed] at h
    cases h

end LogSearch.Value
