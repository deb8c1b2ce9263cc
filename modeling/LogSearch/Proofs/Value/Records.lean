import LogSearch.Proofs.Value.Entries
import Mathlib.Data.List.Perm.Subperm
import Mathlib.Data.Option.Basic

/-!
# Equal records

Maps are equal when each entry of one is one of the other and there are as many of both.  When the keys
are distinct texts this is so just when the two have the same under each name: both nothing, or values
that count as one.  A record is often made of parts of which some may be absent, and then it tells for
each part whether it is there, and what it is.

Main statements: `Entries.map_alike_iff` and `Entries.ofParts_alike_iff`.
-/

namespace LogSearch

namespace Value

/-- Two values count as one. -/
def IsAlike (v w : Value) : Prop := v.alike w = true

theorem isAlike_str {s t : String} : (str s).IsAlike (str t) ↔ s = t := by
  rw [IsAlike, alike_str, beq_iff_eq]

theorem isAlike_int {n m : Int} : (int n).IsAlike (int m) ↔ n = m := by
  simp [IsAlike, alike, atomAlike, atomSame]

/-- Lists count as one when their items do, one by one. -/
theorem alikeItems_iff {vs ws : List Value} : alikeItems vs ws = true ↔ List.Forall₂ IsAlike vs ws := by
  induction vs generalizing ws with
  | nil => cases ws <;> simp [alikeItems]
  | cons v vs ih => cases ws <;> simp [alikeItems, ih, IsAlike]

theorem isAlike_list {vs ws : List Value} : (list vs).IsAlike (list ws) ↔ List.Forall₂ IsAlike vs ws :=
  alikeItems_iff

theorem isAlike_texts {names others : List String} :
    (texts names).IsAlike (texts others) ↔ names = others := by
  rw [texts, texts, isAlike_list, List.forall₂_map_left_iff, List.forall₂_map_right_iff]
  simp only [isAlike_str, List.forall₂_eq_eq_eq]

theorem entriesIn_iff {a b : List (Value × Value)} :
    entriesIn a b = true ↔ ∀ e ∈ a, ∃ f ∈ b, e.1.IsAlike f.1 ∧ e.2.IsAlike f.2 := by
  induction a with
  | nil => simp [entriesIn]
  | cons e r ih =>
    obtain ⟨k, v⟩ := e
    simp [entriesIn, ih, IsAlike]

theorem isAlike_map {a b : List (Value × Value)} : (map a).IsAlike (map b) ↔
    a.length = b.length ∧ ∀ e ∈ a, ∃ f ∈ b, e.1.IsAlike f.1 ∧ e.2.IsAlike f.2 := by
  rw [IsAlike, alike, Bool.and_eq_true, beq_iff_eq, entriesIn_iff]

end Value

open Value (IsAlike)

namespace Entries

/-- The keys of a map are some texts, each once. -/
structure HasNames (entries : Entries) (names : List String) : Prop where
  keys : keys entries = names.map .str
  distinct : names.Nodup

variable {entries others : Entries} {names : List String} {name : String} {v : Value}

theorem HasNames.exists_of_cons {k : Value} (named : HasNames ((k, v) :: entries) names) :
    ∃ first rest, names = first :: rest ∧ k = .str first ∧ first ∉ rest ∧ entries.HasNames rest := by
  obtain ⟨keys, distinct⟩ := named
  cases names with
  | nil => cases keys
  | cons first rest =>
    obtain ⟨key, keys⟩ := List.cons.inj keys
    obtain ⟨new, distinct⟩ := List.nodup_cons.1 distinct
    exact ⟨first, rest, rfl, key, new, keys, distinct⟩

theorem HasNames.mem_of_mem (named : entries.HasNames names) {k : Value} (member : (k, v) ∈ entries) :
    ∃ name ∈ names, k = .str name := by
  have isKey : k ∈ Entries.keys entries := List.mem_map.2 ⟨_, member, rfl⟩
  rw [named.keys] at isKey
  obtain ⟨name, isName, rfl⟩ := List.mem_map.1 isKey
  exact ⟨name, isName, rfl⟩

/-- Under a name there is the value of the one entry with that key. -/
theorem get?_eq_some_iff (named : entries.HasNames names) :
    get? entries (.str name) = some v ↔ (.str name, v) ∈ entries := by
  induction entries generalizing names with
  | nil => exact ⟨nofun, nofun⟩
  | cons entry rest ih =>
    obtain ⟨k, w⟩ := entry
    obtain ⟨first, others, -, rfl, new, named⟩ := named.exists_of_cons
    rw [get?_cons, List.mem_cons, Prod.mk.injEq, Value.str.injEq]
    by_cases here : first = name
    · subst here
      have missing : (Value.str first, v) ∉ rest := by
        intro member
        obtain ⟨name, isName, same⟩ := named.mem_of_mem member
        exact new (Value.str.inj same ▸ isName)
      rw [if_pos (Value.alike_str_self first)]
      simp [missing, eq_comm]
    · have unlike : ¬ (Value.str first).alike (.str name) = true := mt Value.isAlike_str.1 here
      rw [if_neg unlike, ih named]
      simp [Ne.symm here]

theorem get?_eq_none_iff (named : entries.HasNames names) :
    get? entries (.str name) = none ↔ name ∉ names := by
  rw [← Option.not_isSome_iff_eq_none, ← has_eq_isSome_get?, has_eq_any_keys, named.keys]
  simp [Value.alike_str]

theorem length_eq_of_hasNames (named : entries.HasNames names) : entries.length = names.length := by
  have keys := congrArg List.length named.keys
  rwa [Entries.keys, List.length_map, List.length_map] at keys

/-- What is under a name in two maps counts as one, or there is nothing in both. -/
def AgreeAt (entries others : Entries) (name : String) : Prop :=
  Option.Rel IsAlike (get? entries (.str name)) (get? others (.str name))

theorem mem_iff_of_agreeAt {names' : List String} (named : entries.HasNames names)
    (named' : others.HasNames names') (agree : AgreeAt entries others name) :
    name ∈ names ↔ name ∈ names' := by
  rw [← not_iff_not, ← get?_eq_none_iff named, ← get?_eq_none_iff named']
  unfold AgreeAt at agree
  generalize get? entries (.str name) = x at agree ⊢
  generalize get? others (.str name) = y at agree ⊢
  cases agree <;> simp

theorem agreeAt_of_map_alike {names' : List String} (named : entries.HasNames names)
    (named' : others.HasNames names') (like : (Value.map entries).IsAlike (.map others))
    (name : String) : AgreeAt entries others name := by
  rw [Value.isAlike_map, length_eq_of_hasNames named, length_eq_of_hasNames named'] at like
  obtain ⟨lengths, each⟩ := like
  have found {name : String} {v : Value} (here : get? entries (.str name) = some v) :
      ∃ w, get? others (.str name) = some w ∧ v.IsAlike w := by
    obtain ⟨⟨key, w⟩, member, sameKey, like⟩ := each _ ((get?_eq_some_iff named).1 here)
    obtain rfl := Value.str_alike_iff.1 sameKey
    exact ⟨w, (get?_eq_some_iff named').2 member, like⟩
  -- Each name of the first is one of the second, and there are equally many.
  have subset : names ⊆ names' := by
    intro name isName
    by_contra missing
    cases here : get? entries (.str name) with
    | none => exact (get?_eq_none_iff named).1 here isName
    | some v =>
      obtain ⟨w, there, -⟩ := found here
      rw [(get?_eq_none_iff named').2 missing] at there
      cases there
  have same := (named.distinct.subperm subset).perm_of_length_le (Nat.le_of_eq lengths.symm)
  unfold AgreeAt
  cases here : get? entries (.str name) with
  | none =>
    rw [get?_eq_none_iff named, same.mem_iff, ← get?_eq_none_iff named'] at here
    rw [here]
    exact .none
  | some v =>
    obtain ⟨w, there, like⟩ := found here
    rw [there]
    exact .some like

/-- Maps with distinct texts for keys are equal just when they have the same under each name. -/
theorem map_alike_iff {names' : List String} (named : entries.HasNames names)
    (named' : others.HasNames names') :
    (Value.map entries).IsAlike (.map others) ↔ ∀ name, AgreeAt entries others name := by
  refine ⟨agreeAt_of_map_alike named named', fun agree => Value.isAlike_map.2 ⟨?_, ?_⟩⟩
  · rw [length_eq_of_hasNames named, length_eq_of_hasNames named']
    refine ((List.perm_ext_iff_of_nodup named.distinct named'.distinct).2 fun name => ?_).length_eq
    exact mem_iff_of_agreeAt named named' (agree name)
  · rintro ⟨key, v⟩ member
    obtain ⟨name, -, rfl⟩ := named.mem_of_mem member
    have here := agree name
    unfold AgreeAt at here
    rw [(get?_eq_some_iff named).2 member] at here
    cases there : get? others (.str name) with
    | none =>
      rw [there] at here
      cases here
    | some w =>
      rw [there, Option.rel_some_some] at here
      exact ⟨_, (get?_eq_some_iff named').1 there, Value.alike_str_self name, here⟩

section Constant

variable {names' : List String}

theorem hasNames_const (distinct : names.Nodup) (v : Value) :
    HasNames (names.map fun name => (.str name, v)) names :=
  ⟨List.map_map, distinct⟩

theorem get?_const (distinct : names.Nodup) (v : Value) (name : String) :
    get? (names.map fun name => (.str name, v)) (.str name) = if name ∈ names then some v else none := by
  have named := hasNames_const distinct v
  by_cases member : name ∈ names
  · rw [if_pos member, get?_eq_some_iff named]
    exact List.mem_map.2 ⟨name, member, rfl⟩
  · rw [if_neg member, get?_eq_none_iff named]
    exact member

/-- Maps with one value under all their names, of which there are some, are equal just when they have the
same names and their values count as one. -/
theorem map_const_alike_iff (some : names ≠ []) (distinct : names.Nodup) (distinct' : names'.Nodup)
    {v w : Value} :
    (Value.map (names.map fun name => (.str name, v))).IsAlike
        (.map (names'.map fun name => (.str name, w))) ↔
      (∀ name, name ∈ names ↔ name ∈ names') ∧ v.IsAlike w := by
  have named := hasNames_const distinct v
  have named' := hasNames_const distinct' w
  rw [map_alike_iff named named']
  constructor
  · intro agree
    have same (name : String) : name ∈ names ↔ name ∈ names' :=
      mem_iff_of_agreeAt named named' (agree name)
    obtain ⟨name, member⟩ := List.exists_mem_of_ne_nil names some
    have here := agree name
    rw [AgreeAt, get?_const distinct, get?_const distinct', if_pos member,
      if_pos ((same name).1 member), Option.rel_some_some] at here
    exact ⟨same, here⟩
  · rintro ⟨same, like⟩ name
    rw [AgreeAt, get?_const distinct, get?_const distinct']
    by_cases member : name ∈ names
    · rw [if_pos member, if_pos ((same name).1 member)]
      exact .some like
    · rw [if_neg member, if_neg (mt (same name).2 member)]
      exact .none

end Constant

/-- The entries for the parts of a record that are there. -/
def ofParts (parts : List (String × Option Value)) : Entries :=
  parts.filterMap fun (name, v?) => v?.map fun v => (.str name, v)

variable {parts parts' : List (String × Option Value)}

@[simp] theorem ofParts_none (name : String) : ofParts ((name, none) :: parts) = ofParts parts := rfl

@[simp] theorem ofParts_some (name : String) (v : Value) :
    ofParts ((name, some v) :: parts) = (.str name, v) :: ofParts parts := rfl

theorem exists_hasNames_ofParts (distinct : (parts.map Prod.fst).Nodup) :
    ∃ names, (ofParts parts).HasNames names ∧ names.Sublist (parts.map Prod.fst) := by
  induction parts with
  | nil => exact ⟨[], ⟨rfl, List.nodup_nil⟩, .slnil⟩
  | cons part rest ih =>
    obtain ⟨name, v?⟩ := part
    obtain ⟨new, distinct⟩ := List.nodup_cons.1 distinct
    obtain ⟨names, named, sublist⟩ := ih distinct
    cases v? with
    | none => exact ⟨names, named, sublist.cons name⟩
    | some v =>
      refine ⟨name :: names, ⟨congrArg (Value.str name :: ·) named.keys, ?_⟩, sublist.cons_cons name⟩
      exact List.nodup_cons.2 ⟨fun member => new (sublist.subset member), named.distinct⟩

theorem get?_ofParts_ne (v? : Option Value) {other : String} (ne : name ≠ other) :
    get? (ofParts ((name, v?) :: parts)) (.str other) = get? (ofParts parts) (.str other) := by
  cases v? with
  | none => rfl
  | some v =>
    have unlike : ¬ (Value.str name).alike (.str other) = true := mt Value.isAlike_str.1 ne
    rw [ofParts_some, get?_cons, if_neg unlike]

theorem get?_ofParts_of_notMem (missing : name ∉ parts.map Prod.fst) :
    get? (ofParts parts) (.str name) = none := by
  induction parts with
  | nil => rfl
  | cons part rest ih =>
    rw [List.map_cons, List.mem_cons, not_or] at missing
    obtain ⟨ne, missing⟩ := missing
    exact (get?_ofParts_ne part.2 (Ne.symm ne)).trans (ih missing)

theorem get?_ofParts_self (v? : Option Value) (new : name ∉ parts.map Prod.fst) :
    get? (ofParts ((name, v?) :: parts)) (.str name) = v? := by
  cases v? with
  | none => rw [ofParts_none, get?_ofParts_of_notMem new]
  | some v => rw [ofParts_some, get?_cons, if_pos (Value.alike_str_self name)]

/-- Two parts with the same name, and the others, decide on all names. -/
theorem forall_agreeAt_cons {v? w? : Option Value} (new : name ∉ parts.map Prod.fst)
    (new' : name ∉ parts'.map Prod.fst) :
    (∀ other, AgreeAt (ofParts ((name, v?) :: parts)) (ofParts ((name, w?) :: parts')) other) ↔
      Option.Rel IsAlike v? w? ∧ ∀ other, AgreeAt (ofParts parts) (ofParts parts') other := by
  have here : AgreeAt (ofParts ((name, v?) :: parts)) (ofParts ((name, w?) :: parts')) name ↔
      Option.Rel IsAlike v? w? := by
    rw [AgreeAt, get?_ofParts_self v? new, get?_ofParts_self w? new']
  have there {other : String} (ne : name ≠ other) :
      AgreeAt (ofParts ((name, v?) :: parts)) (ofParts ((name, w?) :: parts')) other ↔
        AgreeAt (ofParts parts) (ofParts parts') other := by
    rw [AgreeAt, get?_ofParts_ne v? ne, get?_ofParts_ne w? ne, AgreeAt]
  constructor
  · intro agree
    refine ⟨here.1 (agree name), fun other => ?_⟩
    by_cases same : name = other
    · subst same
      rw [AgreeAt, get?_ofParts_of_notMem new, get?_ofParts_of_notMem new']
      exact .none
    · exact (there same).1 (agree other)
  · rintro ⟨first, rest⟩ other
    by_cases same : name = other
    · subst same
      exact here.2 first
    · exact (there same).2 (rest other)

/-- Records of parts with the same names are equal just when each part is absent in both, or is there in
both and counts as one. -/
theorem ofParts_alike_iff (distinct : (parts.map Prod.fst).Nodup)
    (same : parts.map Prod.fst = parts'.map Prod.fst) :
    (Value.map (ofParts parts)).IsAlike (.map (ofParts parts')) ↔
      List.Forall₂ (fun part part' => Option.Rel IsAlike part.2 part'.2) parts parts' := by
  obtain ⟨names, named, -⟩ := exists_hasNames_ofParts distinct
  obtain ⟨names', named', -⟩ := exists_hasNames_ofParts (same ▸ distinct)
  rw [map_alike_iff named named']
  clear named named'
  induction parts generalizing parts' with
  | nil =>
    obtain rfl := List.map_eq_nil_iff.1 same.symm
    exact ⟨fun _ => .nil, fun _ _ => .none⟩
  | cons part rest ih =>
    cases parts' with
    | nil => cases same
    | cons part' rest' =>
      obtain ⟨name, v?⟩ := part
      obtain ⟨name', w?⟩ := part'
      obtain ⟨first, others⟩ := List.cons.inj same
      obtain rfl : name = name' := first
      obtain ⟨new, distinct⟩ := List.nodup_cons.1 distinct
      have new' : name ∉ rest'.map Prod.fst := others ▸ new
      rw [forall_agreeAt_cons new new', ih distinct others, List.forall₂_cons]

end Entries

end LogSearch
