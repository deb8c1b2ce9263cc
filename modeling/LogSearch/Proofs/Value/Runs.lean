import LogSearch.Proofs.Flow
import LogSearch.Value.Runs
import Mathlib.Data.List.Perm.Basic

/-!
# Sorting keeps all items

Whatever the comparisons say, and however little sense they make, sorting that succeeds gives the
items it was given, each as many times.  Cutting into runs, extending a run and merging each keep the
items that they work on, and so each proof here follows the recursion of one step of the sort.

Main statement: `perm_of_sort`.
-/

namespace LogSearch.Runs

variable {ε α : Type} {less below : α → α → Except ε Bool} {xs ys : List α}

theorem perm_of_splitRun {run rest : List α} (h : splitRun less xs = .ok (run, rest)) :
    (run ++ rest).Perm xs := by
  match xs with
  | [] =>
    obtain ⟨rfl, rfl⟩ := Prod.mk.inj (Except.ok.inj h)
    exact .refl _
  | [x] =>
    obtain ⟨rfl, rfl⟩ := Prod.mk.inj (Except.ok.inj h)
    exact .refl _
  | x :: y :: r =>
    obtain ⟨falling, -, h⟩ := exists_of_bind_eq_ok h
    obtain ⟨more, -, h⟩ := exists_of_bind_eq_ok h
    obtain ⟨rfl, rfl⟩ := Prod.mk.inj (Except.ok.inj h)
    have whole : (x :: y :: r).take (more + 2) ++ r.drop more = x :: y :: r := by simp
    cases falling with
    | false => rw [if_neg Bool.false_ne_true, whole]
    | true =>
      rw [if_pos rfl]
      exact ((List.reverse_perm _).append_right _).trans (.of_eq whole)

theorem length_le_of_splitRun {x : α} {run rest : List α}
    (h : splitRun less (x :: xs) = .ok (run, rest)) : rest.length ≤ xs.length := by
  cases xs with
  | nil =>
    obtain ⟨-, rfl⟩ := Prod.mk.inj (Except.ok.inj h)
    exact Nat.le_refl _
  | cons y r =>
    obtain ⟨falling, -, h⟩ := exists_of_bind_eq_ok h
    obtain ⟨more, -, h⟩ := exists_of_bind_eq_ok h
    obtain ⟨-, rfl⟩ := Prod.mk.inj (Except.ok.inj h)
    rw [List.length_drop, List.length_cons]
    omega

theorem perm_of_extend {run items whole : List α} (h : extend less run items = .ok whole) :
    whole.Perm (run ++ items) := by
  unfold extend at h
  induction items generalizing run with
  | nil =>
    obtain rfl := Except.ok.inj h
    rw [List.append_nil]
  | cons x rest ih =>
    rw [List.foldlM_cons] at h
    obtain ⟨longer, placed, h⟩ := exists_of_bind_eq_ok h
    obtain ⟨place, -, placed⟩ := exists_of_bind_eq_ok placed
    obtain rfl := Except.ok.inj placed
    have one : (run.take place ++ x :: run.drop place).Perm (x :: run) := by
      refine List.perm_middle.trans ?_
      rw [List.take_append_drop]
    exact (ih h).trans ((one.append_right rest).trans List.perm_middle.symm)

namespace Merging

variable {m n : Merging α}

theorem all_takeLower (m : Merging α) (k : Nat) : (m.takeLower k).all = m.all := by
  simp [all, takeLower]

theorem perm_takeUpper (m : Merging α) (k : Nat) : (m.takeUpper k).all.Perm m.all := by
  have moved : (m.upper.take k ++ (m.lower ++ m.upper.drop k)).Perm (m.lower ++ m.upper) := by
    rw [← List.append_assoc]
    refine (List.perm_append_comm.append_right _).trans (.of_eq ?_)
    rw [List.append_assoc, List.take_append_drop]
  simpa [all, takeUpper] using moved.append_left m.taken.reverse

theorem perm_of_oneByOne {fuel streak : Nat} {lowerWon : Bool}
    (h : oneByOne below fuel streak lowerWon m = .ok n) : n.all.Perm m.all := by
  induction fuel generalizing m streak lowerWon with
  | zero =>
    obtain rfl := Except.ok.inj h
    exact .refl _
  | succ fuel ih =>
    unfold oneByOne at h
    split at h
    · obtain ⟨won, -, h⟩ := exists_of_bind_eq_ok h
      have taken : (if won then m.takeLower 1 else m.takeUpper 1).all.Perm m.all := by
        cases won with
        | true => exact .of_eq (m.all_takeLower 1)
        | false => exact m.perm_takeUpper 1
      dsimp only at h
      generalize (if won then m.takeLower 1 else m.takeUpper 1) = next at h taken
      generalize (if won == lowerWon then streak + 1 else 1) = longer at h
      split at h
      · obtain rfl := Except.ok.inj h
        exact taken
      · exact (ih h).trans taken
    · obtain rfl := Except.ok.inj h
      exact .refl _

theorem perm_of_takeUpperLead {back : Bool} {k : Nat}
    (h : m.takeUpperLead below back = .ok (k, n)) : n.all.Perm m.all := by
  unfold takeUpperLead at h
  split at h
  · obtain ⟨-, rfl⟩ := Prod.mk.inj (Except.ok.inj h)
    exact .refl _
  · obtain ⟨lead, -, h⟩ := exists_of_bind_eq_ok h
    obtain ⟨-, rfl⟩ := Prod.mk.inj (Except.ok.inj h)
    split
    · exact m.perm_takeUpper lead
    · rw [all_takeLower]
      exact m.perm_takeUpper lead

theorem perm_of_takeLowerLead {back : Bool} {k : Nat}
    (h : m.takeLowerLead below back = .ok (k, n)) : n.all.Perm m.all := by
  unfold takeLowerLead at h
  split at h
  · obtain ⟨-, rfl⟩ := Prod.mk.inj (Except.ok.inj h)
    exact .refl _
  · obtain ⟨lead, -, h⟩ := exists_of_bind_eq_ok h
    obtain ⟨-, rfl⟩ := Prod.mk.inj (Except.ok.inj h)
    split
    · exact .of_eq (m.all_takeLower lead)
    · exact (perm_takeUpper _ 1).trans (.of_eq (m.all_takeLower lead))

/-- The lead that is taken by turns: that of one run, and then that of the other. -/
def takeLead (below : α → α → Except ε Bool) (back upper : Bool) (m : Merging α) :
    Except ε (Nat × Merging α) :=
  if upper then m.takeUpperLead below back else m.takeLowerLead below back

theorem perm_of_takeLead {back upper : Bool} {k : Nat}
    (h : m.takeLead below back upper = .ok (k, n)) : n.all.Perm m.all := by
  cases upper with
  | true => exact perm_of_takeUpperLead h
  | false => exact perm_of_takeLowerLead h

theorem byLeads_succ (back : Bool) (fuel : Nat) (m : Merging α) :
    byLeads below back (fuel + 1) m = (do
      let m := { m with patience := if 1 < m.patience then m.patience - 1 else m.patience }
      let (n, m) ← m.takeLead below back !back
      if m.isFinished then return m
      let (k, m) ← m.takeLead below back back
      if m.isFinished then return m
      if longLead ≤ n || longLead ≤ k then byLeads below back fuel m
      else return { m with patience := m.patience + 1 }) := by
  cases back <;> rfl

theorem perm_of_byLeads {back : Bool} {fuel : Nat} (h : byLeads below back fuel m = .ok n) :
    n.all.Perm m.all := by
  induction fuel generalizing m with
  | zero =>
    obtain rfl := Except.ok.inj h
    exact .refl _
  | succ fuel ih =>
    rw [byLeads_succ] at h
    obtain ⟨⟨i, first⟩, hfirst, h⟩ := exists_of_bind_eq_ok h
    have firstPerm : first.all.Perm m.all := by
      have leads := perm_of_takeLead hfirst
      exact leads
    dsimp only at h
    split at h
    · obtain rfl := Except.ok.inj h
      exact firstPerm
    · obtain ⟨⟨j, second⟩, hsecond, h⟩ := exists_of_bind_eq_ok h
      have secondPerm := (perm_of_takeLead hsecond).trans firstPerm
      dsimp only at h
      split at h
      · obtain rfl := Except.ok.inj h
        exact secondPerm
      · split at h
        · exact (ih h).trans secondPerm
        · obtain rfl := Except.ok.inj h
          exact secondPerm

theorem perm_of_finish {back : Bool} {fuel : Nat} (h : finish below back fuel m = .ok n) :
    n.all.Perm m.all := by
  induction fuel generalizing m with
  | zero =>
    obtain rfl := Except.ok.inj h
    exact .refl _
  | succ fuel ih =>
    unfold finish at h
    split at h
    · obtain rfl := Except.ok.inj h
      exact .refl _
    · obtain ⟨stopped, one, h⟩ := exists_of_bind_eq_ok h
      split at h
      · obtain rfl := Except.ok.inj h
        exact perm_of_oneByOne one
      · obtain ⟨led, leads, h⟩ := exists_of_bind_eq_ok h
        have patient : ({ stopped with patience := stopped.patience + 1 } : Merging α).all =
            stopped.all := rfl
        have ledPerm := perm_of_byLeads leads
        rw [patient] at ledPerm
        exact (ih h).trans (ledPerm.trans (perm_of_oneByOne one))

end Merging

/-- What is merged lies between a part of the first run and a part of the second that are in place. -/
theorem perm_between {first second middle : List α} {i j : Nat}
    (h : middle.Perm (first.drop i ++ second.take j)) :
    (first.take i ++ middle ++ second.drop j).Perm (first ++ second) := by
  refine ((h.append_left _).append_right _).trans (.of_eq ?_)
  rw [← List.append_assoc, List.take_append_drop, List.append_assoc, List.take_append_drop]

theorem perm_of_merge {patience next : Nat} {first second items : List α}
    (h : merge less patience first second = .ok (items, next)) : items.Perm (first ++ second) := by
  cases second with
  | nil =>
    obtain ⟨rfl, -⟩ := Prod.mk.inj (Except.ok.inj h)
    rw [List.append_nil]
  | cons start tail =>
    obtain ⟨i, -, h⟩ := exists_of_bind_eq_ok h
    dsimp only at h
    split at h
    · rename_i none
      obtain ⟨rfl, -⟩ := Prod.mk.inj (Except.ok.inj h)
      have whole : first.take i = first := by
        have dropped : first.drop i = [] := List.getLast?_eq_none_iff.1 none
        exact List.take_of_length_le (List.drop_eq_nil_iff.1 dropped)
      rw [whole]
    · obtain ⟨k, -, h⟩ := exists_of_bind_eq_ok h
      generalize (start :: tail).length - k = j at h
      split at h
      · rename_i empty
        obtain ⟨rfl, -⟩ := Prod.mk.inj (Except.ok.inj h)
        apply perm_between
        rw [List.isEmpty_iff.1 empty, List.append_nil]
      · split at h
        · obtain ⟨m, finished, h⟩ := exists_of_bind_eq_ok h
          obtain ⟨rfl, -⟩ := Prod.mk.inj (Except.ok.inj h)
          have merged := Merging.perm_of_finish finished
          rw [Merging.all_takeLower] at merged
          exact perm_between (merged.trans List.perm_append_comm)
        · obtain ⟨m, finished, h⟩ := exists_of_bind_eq_ok h
          obtain ⟨rfl, -⟩ := Prod.mk.inj (Except.ok.inj h)
          have merged := Merging.perm_of_finish finished
          rw [Merging.all_takeLower] at merged
          refine perm_between ((List.reverse_perm _).trans (merged.trans ?_))
          exact (List.reverse_perm _).append (List.reverse_perm _)

/-- The items of some runs. -/
def itemsOf (runs : List (Run α)) : List α := runs.flatMap Run.items

theorem perm_itemsOf_of_merge {patience next : Nat} {first second whole : Run α} {items : List α}
    {before : List (Run α)} (h : merge less patience first.items second.items = .ok (items, next))
    (hold : whole.items = items) :
    (itemsOf (whole :: before)).Perm (itemsOf (second :: first :: before)) := by
  simp only [itemsOf, List.flatMap_cons, hold, ← List.append_assoc]
  exact ((perm_of_merge h).trans List.perm_append_comm).append_right _

theorem perm_of_mergeAbove {power patience next : Nat} {runs merged : List (Run α)}
    (h : mergeAbove less power patience runs = .ok (merged, next)) :
    (itemsOf merged).Perm (itemsOf runs) := by
  fun_induction mergeAbove less power patience runs with
  | case1 patience second first before above ih =>
    obtain ⟨⟨items, between⟩, one, h⟩ := exists_of_bind_eq_ok h
    exact (ih _ _ h).trans (perm_itemsOf_of_merge one rfl)
  | case2 =>
    obtain ⟨rfl, -⟩ := Prod.mk.inj (Except.ok.inj h)
    exact .refl _
  | case3 =>
    obtain ⟨rfl, -⟩ := Prod.mk.inj (Except.ok.inj h)
    exact .refl _

theorem perm_of_mergeAll {patience : Nat} {runs : List (Run α)} {items : List α}
    (h : mergeAll less patience runs = .ok items) : items.Perm (itemsOf runs) := by
  fun_induction mergeAll less patience runs with
  | case1 =>
    obtain rfl := Except.ok.inj h
    exact .refl _
  | case2 patience run =>
    obtain rfl := Except.ok.inj h
    simp [itemsOf]
  | case3 patience second first =>
    obtain ⟨⟨merged, next⟩, one, rfl⟩ := exists_of_map_eq_ok h
    have whole : (itemsOf [{ first with items := merged }]).Perm (itemsOf [second, first]) :=
      perm_itemsOf_of_merge one rfl
    simpa [itemsOf] using whole
  | case4 patience third second first before shorter ih =>
    obtain ⟨⟨merged, next⟩, one, h⟩ := exists_of_bind_eq_ok h
    refine (ih _ _ h).trans ?_
    rw [itemsOf, List.flatMap_cons]
    exact (perm_itemsOf_of_merge one rfl).append_left third.items
  | case5 patience third second first before longer ih =>
    obtain ⟨⟨merged, next⟩, one, h⟩ := exists_of_bind_eq_ok h
    exact (ih _ _ h).trans (perm_itemsOf_of_merge one rfl)

theorem perm_of_sortRest {n fuel start patience : Nat} {runs : List (Run α)} {rest : List α}
    (enough : rest.length ≤ fuel) (h : sortRest less n fuel start patience runs rest = .ok ys) :
    ys.Perm (itemsOf runs ++ rest) := by
  induction fuel generalizing start patience runs rest with
  | zero =>
    obtain rfl := List.length_eq_zero_iff.1 (Nat.le_zero.1 enough)
    rw [List.append_nil]
    exact perm_of_mergeAll h
  | succ fuel ih =>
    cases rest with
    | nil =>
      rw [List.append_nil]
      exact perm_of_mergeAll h
    | cons x r =>
      unfold sortRest at h
      obtain ⟨⟨run, others⟩, split, h⟩ := exists_of_bind_eq_ok h
      obtain ⟨longer, extended, h⟩ := exists_of_bind_eq_ok h
      dsimp only at extended h
      generalize leastRun n - run.length = missing at extended h
      have cut : (longer ++ others.drop missing).Perm (x :: r) := by
        refine .trans ?_ (perm_of_splitRun split)
        refine ((perm_of_extend extended).append_right _).trans (.of_eq ?_)
        rw [List.append_assoc, List.take_append_drop]
      have fewer : (others.drop missing).length ≤ fuel := by
        have shorter := length_le_of_splitRun split
        rw [List.length_cons] at enough
        rw [List.length_drop]
        omega
      cases runs with
      | nil => exact (ih fewer h).trans (by simpa [itemsOf] using cut)
      | cons last before =>
        obtain ⟨⟨merged, next⟩, above, h⟩ := exists_of_bind_eq_ok h
        refine (ih fewer h).trans ?_
        have kept : (itemsOf merged).Perm (itemsOf (last :: before)) := perm_of_mergeAbove above
        have pushed (runs : List (Run α)) (same : itemsOf runs = itemsOf merged) :
            (itemsOf ({ start, items := longer } :: runs) ++ others.drop missing).Perm
              (itemsOf (last :: before) ++ x :: r) := by
          rw [itemsOf, List.flatMap_cons, ← itemsOf, same]
          refine (List.perm_append_comm.append_right _).trans ?_
          rw [List.append_assoc]
          exact kept.append cut
        cases merged with
        | nil => exact pushed [] rfl
        | cons last before => exact pushed _ rfl

/-- Sorting keeps all items. -/
theorem perm_of_sort (h : sort less xs = .ok ys) : ys.Perm xs :=
  perm_of_sortRest (Nat.le_refl _) h

end LogSearch.Runs
