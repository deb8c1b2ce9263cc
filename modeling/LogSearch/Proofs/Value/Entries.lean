import LogSearch.Value.Equal

/-!
# Looking up entries

What is found under a text after an entry has been put into a map or dropped from it.
-/

namespace LogSearch

/-- Only a text is like that text. -/
theorem Value.alike_str_iff {v : Value} {s : String} : v.alike (.str s) = true ↔ v = .str s := by
  constructor
  · intro h
    cases v with
    | str t =>
      rw [alike_str, beq_iff_eq] at h
      rw [h]
    | float x => cases x <;> simp [alike, atomAlike, atomSame] at h
    | _ => simp [alike, atomAlike, atomSame] at h
  · rintro rfl
    rw [alike_str, beq_self_eq_true]

/-- A text is like that text only. -/
theorem Value.str_alike_iff {v : Value} {s : String} : (Value.str s).alike v = true ↔ v = .str s := by
  constructor
  · intro h
    cases v with
    | str t =>
      rw [alike_str, beq_iff_eq] at h
      rw [h]
    | _ => simp [alike, atomAlike, atomSame] at h
  · rintro rfl
    rw [alike_str, beq_self_eq_true]

@[simp] theorem Value.alike_str_self (s : String) : (Value.str s).alike (.str s) = true :=
  Value.alike_str_iff.2 rfl

/-- What is like a text is like nothing else. -/
theorem Value.alike_ne {k key : Value} {s : String} (hk : k.alike (.str s) = true)
    (h : key ≠ .str s) : k.alike key = false := by
  rw [Value.alike_str_iff.1 hk, ← Bool.not_eq_true, Value.str_alike_iff]
  exact h

namespace Entries

variable {entries : Entries} {s : String} {key v : Value}

theorem get?_cons (k v : Value) (entries : Entries) (key : Value) :
    get? ((k, v) :: entries) key = if k.alike key then some v else get? entries key := by
  by_cases h : k.alike key = true
  · simp [get?, h]
  · simp [get?, h]

theorem drop_cons (k v : Value) (entries : Entries) (key : Value) :
    drop ((k, v) :: entries) key =
      if k.alike key then drop entries key else (k, v) :: drop entries key := by
  by_cases h : k.alike key = true
  · simp [drop, h]
  · simp [drop, h]

theorem put_cons (k w : Value) (entries : Entries) (key v : Value) :
    put ((k, w) :: entries) key v =
      if k.alike key then (k, v) :: entries else (k, w) :: put entries key v := rfl

/-- Dropping the entry under a text leaves what is found under any other key. -/
theorem get?_drop_ne (h : key ≠ .str s) : get? (drop entries (.str s)) key = get? entries key := by
  induction entries with
  | nil => rfl
  | cons entry rest ih =>
    obtain ⟨k, v⟩ := entry
    rw [drop_cons, get?_cons]
    by_cases hk : k.alike (.str s) = true
    · rw [if_pos hk, ih, Value.alike_ne hk h, if_neg Bool.false_ne_true]
    · rw [if_neg hk, get?_cons, ih]

/-- What is put under a text is found there. -/
theorem get?_put_self : get? (put entries (.str s) v) (.str s) = some v := by
  induction entries with
  | nil =>
    change get? [(.str s, v)] (.str s) = some v
    rw [get?_cons, if_pos (Value.alike_str_self s)]
  | cons entry rest ih =>
    obtain ⟨k, w⟩ := entry
    rw [put_cons]
    by_cases hk : k.alike (.str s) = true
    · rw [if_pos hk, get?_cons, if_pos hk]
    · rw [if_neg hk, get?_cons, if_neg hk, ih]

/-- Putting a value under a text leaves what is found under any other key. -/
theorem get?_put_ne (h : key ≠ .str s) : get? (put entries (.str s) v) key = get? entries key := by
  induction entries with
  | nil =>
    change get? [(.str s, v)] key = get? [] key
    rw [get?_cons, Value.alike_ne (Value.alike_str_self s) h, if_neg Bool.false_ne_true]
  | cons entry rest ih =>
    obtain ⟨k, w⟩ := entry
    rw [put_cons, get?_cons]
    by_cases hk : k.alike (.str s) = true
    · rw [if_pos hk, get?_cons, Value.alike_ne hk h, if_neg Bool.false_ne_true,
        if_neg Bool.false_ne_true]
    · rw [if_neg hk, get?_cons, ih]

/-- Putting a value under any other key leaves what is found under a text. -/
theorem get?_str_put_ne (h : key ≠ .str s) : get? (put entries key v) (.str s) = get? entries (.str s) := by
  have unlike : key.alike (.str s) = false := by
    rw [← Bool.not_eq_true, Value.alike_str_iff]
    exact h
  induction entries with
  | nil =>
    change get? [(key, v)] (.str s) = get? [] (.str s)
    rw [get?_cons, unlike, if_neg Bool.false_ne_true]
  | cons entry rest ih =>
    obtain ⟨k, w⟩ := entry
    rw [put_cons]
    by_cases hk : k.alike key = true
    · have other : k ≠ .str s := by
        rintro rfl
        exact h (Value.str_alike_iff.1 hk)
      rw [if_pos hk, get?_cons, get?_cons, if_neg (mt Value.alike_str_iff.1 other),
        if_neg (mt Value.alike_str_iff.1 other)]
    · rw [if_neg hk, get?_cons, get?_cons, ih]

/-- There is a value under a key when there is a key like it. -/
theorem has_eq_any_keys (entries : Entries) (key : Value) :
    has entries key = (keys entries).any (·.alike key) := by
  rw [has, keys, List.any_map]
  rfl

theorem has_eq_isSome_get? (entries : Entries) (key : Value) :
    has entries key = (get? entries key).isSome := by
  rw [has, get?, Option.isSome_map, List.isSome_find?]

theorem has_of_get? (h : get? entries key = some v) : has entries key = true := by
  obtain ⟨entry, found, -⟩ := Option.map_eq_some_iff.1 h
  have present := List.mem_of_find?_eq_some found
  have like := List.find?_some found
  exact List.any_eq_true.2 ⟨entry, present, like⟩

theorem keys_drop (entries : Entries) (key : Value) :
    keys (drop entries key) = (keys entries).filter fun k => !k.alike key := by
  rw [keys, drop, keys, List.filter_map]
  rfl

/-- What is dropped is not there. -/
theorem has_drop_self (entries : Entries) (key : Value) : has (drop entries key) key = false := by
  rw [has, List.any_eq_false]
  rintro ⟨k, v⟩ h like
  have unlike : (!k.alike key) = true := (List.mem_filter.1 h).2
  rw [show k.alike key = true from like] at unlike
  cases unlike

/-- Nothing changes when what is not there is dropped. -/
theorem drop_eq_self_iff : drop entries key = entries ↔ has entries key = false := by
  rw [drop, List.filter_eq_self, has, List.any_eq_false]
  simp

/-- What is found in a map is one of its values. -/
theorem mem_of_get? (h : get? entries key = some v) : ∃ k, (k, v) ∈ entries := by
  obtain ⟨⟨k, w⟩, found, rfl⟩ := Option.map_eq_some_iff.1 h
  exact ⟨k, List.mem_of_find?_eq_some found⟩

end Entries

end LogSearch
