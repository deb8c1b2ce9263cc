import LogSearch.Failure
import LogSearch.Proofs.Json.Reader
import LogSearch.Proofs.Value.Entries

/-!
# Values that JSON text can hold

A value can be written as JSON when none of its keys is bad.  What was read from JSON can be, and so
can what is made of such values under names.

Main statements: `badKey?_of_read`, and `badKey?_record` for records.
-/

namespace LogSearch.Json

/-- A key that has a form in JSON text. -/
def IsKey : Value → Prop
  | .null | .bool _ | .int _ | .float _ | .str _ => True
  | _ => False

variable {v : Value} {entries : Entries}

theorem badKeyOfItems?_eq_none_iff (items : List Value) :
    badKeyOfItems? items = none ↔ ∀ v ∈ items, badKey? v = none := by
  induction items with
  | nil => simp [badKeyOfItems?]
  | cons v rest ih => simp [badKeyOfItems?, ih, Option.or_eq_none_iff]

theorem badKeyOfEntries?_eq_none_iff (entries : Entries) :
    badKeyOfEntries? entries = none ↔ ∀ e ∈ entries, IsKey e.1 ∧ badKey? e.2 = none := by
  induction entries with
  | nil => simp [badKeyOfEntries?]
  | cons e rest ih =>
    obtain ⟨k, v⟩ := e
    cases k <;> simp [badKeyOfEntries?, IsKey, ih, Option.or_eq_none_iff]

theorem badKey?_map : badKey? (.map entries) = none ↔ ∀ e ∈ entries, IsKey e.1 ∧ badKey? e.2 = none := by
  rw [badKey?, badKeyOfEntries?_eq_none_iff]

theorem badKey?_list {items : List Value} :
    badKey? (.list items) = none ↔ ∀ v ∈ items, badKey? v = none := by
  rw [badKey?, badKeyOfItems?_eq_none_iff]

theorem badKey?_texts (items : List String) : badKey? (.texts items) = none := by
  refine badKey?_list.2 fun v hv => ?_
  obtain ⟨s, -, rfl⟩ := List.mem_map.1 hv
  rfl

/-- A record can be written when its parts can. -/
theorem badKey?_record {fields : List (String × Value)} (h : ∀ f ∈ fields, badKey? f.2 = none) :
    badKey? (.record fields) = none := by
  refine badKey?_map.2 fun e he => ?_
  obtain ⟨f, hf, rfl⟩ := List.mem_map.1 he
  exact ⟨trivial, h f hf⟩

theorem badKey?_pair {first second : String} {v w : Value} (hv : badKey? v = none)
    (hw : badKey? w = none) : badKey? (.record [(first, v), (second, w)]) = none := by
  refine badKey?_record fun f hf => ?_
  rcases List.mem_cons.1 hf with rfl | hf
  · exact hv
  · rw [List.mem_singleton.1 hf]
    exact hw

theorem badKey?_of_get? {key : Value} (h : badKey? (.map entries) = none)
    (found : Entries.get? entries key = some v) : badKey? v = none := by
  obtain ⟨k, member⟩ := Entries.mem_of_get? found
  exact (badKey?_map.1 h _ member).2

theorem badKey?_put {name : String} (h : badKey? (.map entries) = none) (hv : badKey? v = none) :
    badKey? (.map (Entries.put entries (.str name) v)) = none := by
  refine badKey?_map.2 fun e he => ?_
  rcases Entries.mem_put he with old | ⟨value, isKey | ⟨f, hf, isKey⟩⟩
  · exact badKey?_map.1 h e old
  · exact ⟨by rw [isKey]; trivial, by rw [value]; exact hv⟩
  · exact ⟨by rw [isKey]; exact (badKey?_map.1 h f hf).1, by rw [value]; exact hv⟩

theorem isKey_of_numberRest {negative : Bool} {left : Nat} {whole cs rest : List Char}
    (h : numberRest negative left whole cs = .ok (v, rest)) : IsKey v := by
  unfold numberRest at h
  dsimp only at h
  split at h
  · cases h
  · split at h
    · split at h
      · cases h
      · obtain ⟨rfl, -⟩ := Prod.mk.inj (Except.ok.inj h)
        trivial
    · split at h
      · cases h
      · obtain ⟨rfl, -⟩ := Prod.mk.inj (Except.ok.inj h)
        trivial

/-- Names and numbers have a form as keys. -/
theorem isKey_of_scalar {cs rest : List Char} (h : scalar cs = .ok (v, rest)) : IsKey v := by
  unfold scalar at h
  split at h
  · rename_i name w found
    obtain ⟨rfl, -⟩ := Prod.mk.inj (Except.ok.inj h)
    have all : ∀ e ∈ names, IsKey e.2 := by simp [names, IsKey]
    exact all _ (List.mem_of_find?_eq_some found)
  · exact isKey_of_numberRest h

theorem badKey?_of_isKey (h : IsKey v) : badKey? v = none := by
  cases v <;> first | rfl | cases h

/-- What a text holds can be written again. -/
theorem badKey?_of_read {text : String} (h : read text = .ok v) : badKey? v = none := by
  refine read_induction (P := fun v => badKey? v = none) (fun s => rfl)
    (fun _ _ _ h => badKey?_of_isKey (isKey_of_scalar h)) (fun vs hvs => badKey?_list.2 hvs)
    (fun pairs hpairs => ?_) h
  refine badKey?_map.2 (Entries.forall_mem_ofPairs (K := IsKey) (P := fun v => badKey? v = none) ?_)
  rintro e he
  obtain ⟨⟨s, hs⟩, hv⟩ := hpairs e he
  exact ⟨by rw [hs]; trivial, hv⟩

end LogSearch.Json
