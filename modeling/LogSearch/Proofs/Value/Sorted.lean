import LogSearch.Proofs.Value.Runs
import LogSearch.Value.Sorted
import Mathlib.Data.List.Lex
import Mathlib.Data.List.Sort

/-!
# What sorting does

A stable sort by a key is known by two things: its keys ascend, and among items of one key nothing
has moved.  `eq_of_ascends_of_withKey_eq` says that there is only one such list, and so sorting two
lists gives the same when they agree on the items of each key, and sorting a list behind another
gives the one behind the other when no key of it is smaller.

Sorting by keys that are all integers or all texts is such a sort, and cannot fail.  For other keys it
may fail, and keeps all items if it does not.
-/

namespace LogSearch.Sorted

section Stable

variable {α κ : Type} [LinearOrder κ] {key : α → κ} {xs ys : List α}

/-- Sorts by a key, keeping the order of items with equal ones. -/
def stable (key : α → κ) (xs : List α) : List α := xs.mergeSort fun a b => decide (key a ≤ key b)

/-- The keys of a list ascend. -/
def Ascends (key : α → κ) (xs : List α) : Prop := xs.Pairwise fun a b => key a ≤ key b

/-- The items of one key, in order. -/
def withKey (key : α → κ) (k : κ) (xs : List α) : List α := xs.filter fun x => decide (key x = k)

theorem mem_withKey {k : κ} {x : α} : x ∈ withKey key k xs ↔ x ∈ xs ∧ key x = k := by
  simp [withKey]

theorem withKey_cons (k : κ) (x : α) (xs : List α) :
    withKey key k (x :: xs) = if key x = k then x :: withKey key k xs else withKey key k xs := by
  by_cases h : key x = k <;> simp [withKey, h]

theorem withKey_append (k : κ) (xs ys : List α) :
    withKey key k (xs ++ ys) = withKey key k xs ++ withKey key k ys := by
  simp [withKey]

theorem mem_stable {x : α} : x ∈ stable key xs ↔ x ∈ xs := by simp [stable]

theorem mem_of_stable_eq {before after : List α} {x : α} (h : stable key xs = before ++ x :: after) :
    x ∈ xs := by
  have member : x ∈ stable key xs := by
    rw [h]
    exact List.mem_append_right _ List.mem_cons_self
  exact mem_stable.1 member

theorem stable_perm (key : α → κ) (xs : List α) : (stable key xs).Perm xs :=
  List.mergeSort_perm xs _

theorem le_trans_decide (a b c : α) (hab : decide (key a ≤ key b) = true)
    (hbc : decide (key b ≤ key c) = true) : decide (key a ≤ key c) = true := by
  rw [decide_eq_true_eq] at hab hbc ⊢
  exact le_trans hab hbc

theorem le_total_decide (a b : α) : (decide (key a ≤ key b) || decide (key b ≤ key a)) = true := by
  simpa using le_total (key a) (key b)

theorem ascends_stable (key : α → κ) (xs : List α) : Ascends key (stable key xs) := by
  have sorted : (stable key xs).Pairwise fun a b => decide (key a ≤ key b) = true :=
    List.pairwise_mergeSort le_trans_decide le_total_decide xs
  simpa [Ascends] using sorted

theorem stable_of_ascends (h : Ascends key xs) : stable key xs = xs := by
  apply List.mergeSort_of_pairwise
  simpa [Ascends] using h

/-- Sorting moves nothing among the items of one key. -/
theorem withKey_stable (key : α → κ) (k : κ) (xs : List α) :
    withKey key k (stable key xs) = withKey key k xs := by
  have alike : (withKey key k xs).Pairwise fun a b => decide (key a ≤ key b) = true := by
    apply List.pairwise_of_forall_mem_list
    intro a ha b hb
    rw [decide_eq_true_eq, (mem_withKey.1 ha).2, (mem_withKey.1 hb).2]
  -- The items of one key are a part of the sorted list too, and no other items have that key.
  have part : (withKey key k xs).Sublist (stable key xs) :=
    List.sublist_mergeSort le_trans_decide le_total_decide alike List.filter_sublist
  have whole : withKey key k (withKey key k xs) = withKey key k xs := by simp [withKey]
  have inside : (withKey key k xs).Sublist (withKey key k (stable key xs)) := by
    rw [← whole]
    exact part.filter _
  have count : (withKey key k (stable key xs)).length = (withKey key k xs).length :=
    ((stable_perm key xs).filter _).length_eq
  exact (inside.eq_of_length count.symm).symm

/-- The first item of a list whose keys ascend has the smallest key. -/
theorem Ascends.le_of_mem {x y : α} (h : Ascends key (x :: xs)) (hy : y ∈ x :: xs) :
    key x ≤ key y := by
  rcases List.mem_cons.1 hy with rfl | hy
  · exact le_refl _
  · exact (List.pairwise_cons.1 h).1 y hy

/-- A list whose keys ascend is known by its items of each key. -/
theorem eq_of_ascends_of_withKey_eq (hx : Ascends key xs) (hy : Ascends key ys)
    (same : ∀ k, withKey key k xs = withKey key k ys) : xs = ys := by
  have among {xs ys : List α} (same : ∀ k, withKey key k xs = withKey key k ys) {x : α}
      (h : x ∈ xs) : x ∈ ys := by
    have found : x ∈ withKey key (key x) xs := mem_withKey.2 ⟨h, rfl⟩
    rw [same] at found
    exact (mem_withKey.1 found).1
  induction xs generalizing ys with
  | nil =>
    cases ys with
    | nil => rfl
    | cons y ys => exact (List.not_mem_nil (among (fun k => (same k).symm) List.mem_cons_self)).elim
  | cons x xs ih =>
    cases ys with
    | nil => exact (List.not_mem_nil (among same List.mem_cons_self)).elim
    | cons y ys =>
      -- Each first item has the smallest key of both lists, and so they have the same key and are
      -- the first items of that key.
      have keys : key x = key y := le_antisymm
        (hx.le_of_mem (among (fun k => (same k).symm) List.mem_cons_self))
        (hy.le_of_mem (among same List.mem_cons_self))
      have firsts := same (key x)
      rw [withKey_cons, withKey_cons, if_pos rfl, if_pos keys.symm] at firsts
      obtain ⟨rfl, -⟩ := List.cons.inj firsts
      have rest : ∀ k, withKey key k xs = withKey key k ys := by
        intro k
        have here := same k
        rw [withKey_cons, withKey_cons] at here
        by_cases h : key x = k
        · rw [if_pos h, if_pos h] at here
          exact (List.cons.inj here).2
        · rwa [if_neg h, if_neg h] at here
      rw [ih (List.Pairwise.of_cons hx) (List.Pairwise.of_cons hy) rest]

/-- Lists that agree on the items of each key are sorted alike. -/
theorem stable_eq_of_withKey_eq (same : ∀ k, withKey key k xs = withKey key k ys) :
    stable key xs = stable key ys := by
  apply eq_of_ascends_of_withKey_eq (ascends_stable key xs) (ascends_stable key ys)
  intro k
  rw [withKey_stable, withKey_stable, same]

/-- A list without smaller keys behind another is sorted behind it. -/
theorem stable_append (h : ∀ x ∈ xs, ∀ y ∈ ys, key x ≤ key y) :
    stable key (xs ++ ys) = stable key xs ++ stable key ys := by
  apply eq_of_ascends_of_withKey_eq (ascends_stable key _)
  · apply List.pairwise_append.2 ⟨ascends_stable key xs, ascends_stable key ys, ?_⟩
    intro x hx y hy
    exact h x (mem_stable.1 hx) y (mem_stable.1 hy)
  · intro k
    rw [withKey_stable, withKey_append, withKey_append, withKey_stable, withKey_stable]

end Stable

variable {α : Type} {key : α → Value} {xs : List α}

/-- The integer that a value counts as; zero for any other value. -/
def number (v : Value) : Int := v.int?.getD 0

/-- Sorting by integers is stable and does not fail. -/
theorem sortBy_of_integers (h : ∀ x ∈ xs, (key x).int?.isSome = true) :
    sortBy key xs = .ok (stable (fun x => number (key x)) xs) :=
  if_pos (List.all_eq_true.2 h)

theorem perm_of_sortBy {ys : List α} (h : sortBy key xs = .ok ys) : ys.Perm xs := by
  unfold sortBy at h
  split at h
  · obtain rfl := Except.ok.inj h
    exact List.mergeSort_perm xs _
  · split at h
    · obtain rfl := Except.ok.inj h
      exact List.mergeSort_perm xs _
    · exact Runs.perm_of_sort h

theorem sortBy_singleton (key : α → Value) (x : α) : sortBy key [x] = .ok [x] := by
  unfold sortBy
  split
  · simp
  · split
    · simp
    · exact Runs.sort_singleton _ x

/-- Texts are sorted by their codes. -/
theorem sort_texts (names : List String) :
    sort (names.map .str) = .ok ((stable Text.codes names).map .str) := by
  cases names with
  | nil => simp [sort, sortBy, stable]
  | cons name rest =>
    unfold sort sortBy
    rw [if_neg (by simp [Value.int?]), if_pos (by simp [Value.text?])]
    apply congrArg Except.ok
    unfold stable
    rw [List.map_mergeSort]
    intro a _ b _
    have before : ¬ Text.Before b a ↔ Text.codes a ≤ Text.codes b := by
      rw [← not_lt]
      exact Iff.rfl
    rw [← decide_not]
    exact decide_eq_decide.2 before.symm

/-- Texts stand in one order only in which their codes ascend. -/
theorem stable_codes_eq {names others : List String} (same : names.Perm others)
    (ascends : Ascends Text.codes others) : stable Text.codes names = others :=
  ((stable_perm _ names).trans same).eq_of_pairwise
    (fun _ _ _ _ below above => Text.eq_of_codes (le_antisymm below above)) (ascends_stable _ names) ascends

/-- Texts are sorted alike in whatever order they are given. -/
theorem sort_texts_perm {names others : List String} (h : names.Perm others) :
    sort (names.map .str) = sort (others.map .str) := by
  rw [sort_texts, sort_texts, stable_codes_eq (h.trans (stable_perm _ others).symm) (ascends_stable _ others)]

end LogSearch.Sorted
