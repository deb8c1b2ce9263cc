import LogSearch.Flow
import Mathlib.Data.List.Forall2

/-!
# How steps end

A step that is done for each item of a list gives a result for each, in order, or the failure of the
first item that has one.  `mapM_eq_ok_iff` and `mapM_eq_error_iff` say so for steps without effects, and
`foldlM_eq_error_iff` for steps that each start from what the one before leaves.

For steps with effects `Flow.Ends x w r v` says that `x`, started when the collaborators are in state
`w`, ends with `r` and leaves them in `v`, whatever was logged before.  There is one rule for each way
of joining steps, and so the run of a long step is put together from the runs of its parts.
-/

namespace LogSearch

/-- How the failure of a part comes up: a report as it is, and a fault as the cause of one. -/
def Failure.reported (report : Fault → Report) : Failure → Failure
  | .fault f => .search (report f) (some (.fault f))
  | .search r cause => .search r cause

section Except

variable {ε α β : Type} {f : α → Except ε β}

/-- The result of a function that is applied to the outcome of a step. -/
theorem exists_of_map_eq_ok {x : Except ε α} {g : α → β} {b : β} (h : x.map g = .ok b) :
    ∃ a, x = .ok a ∧ g a = b := by
  cases x with
  | error e => cases h
  | ok a => exact ⟨a, rfl, Except.ok.inj h⟩

/-- Two steps that succeed one after the other. -/
theorem exists_of_bind_eq_ok {x : Except ε α} {b : β} (h : (x >>= f) = .ok b) :
    ∃ a, x = .ok a ∧ f a = .ok b := by
  cases x with
  | error e => cases h
  | ok a => exact ⟨a, rfl, h⟩

/-- A step that succeeds, as one that may fail otherwise, succeeds by itself. -/
theorem eq_ok_of_ofFaults {x : Except Fault α} {a : α} (h : ofFaults x = .ok a) : x = .ok a := by
  cases x with
  | error fault => cases h
  | ok b => exact congrArg Except.ok (Except.ok.inj h)

/-- A list of steps succeeds with the results of its steps, in order. -/
theorem mapM_eq_ok_iff {xs : List α} {ys : List β} :
    xs.mapM f = .ok ys ↔ List.Forall₂ (fun x y => f x = .ok y) xs ys := by
  induction xs generalizing ys with
  | nil =>
    rw [List.mapM_nil, List.forall₂_nil_left_iff]
    exact ⟨fun h => (Except.ok.inj h).symm, fun h => h ▸ rfl⟩
  | cons x xs ih =>
    rw [List.mapM_cons, List.forall₂_cons_left_iff]
    constructor
    · intro h
      cases hx : f x with
      | error e => rw [hx] at h; cases h
      | ok y =>
        cases hxs : xs.mapM f with
        | error e => rw [hx, hxs] at h; cases h
        | ok rest =>
          rw [hx, hxs] at h
          exact ⟨y, rest, rfl, ih.1 hxs, (Except.ok.inj h).symm⟩
    · rintro ⟨y, rest, hy, hrest, rfl⟩
      rw [hy, ih.2 hrest]
      rfl

/-- Each item of the second list stands beside one of the first. -/
theorem exists_mem_of_forall₂ {P : α → β → Prop} {as : List α} {bs : List β} {b : β}
    (h : List.Forall₂ P as bs) (hb : b ∈ bs) : ∃ a ∈ as, P a b := by
  induction h with
  | nil => cases hb
  | cons p _ ih =>
    rcases List.mem_cons.1 hb with rfl | hb
    · exact ⟨_, List.mem_cons_self, p⟩
    · obtain ⟨a, ha, pa⟩ := ih hb
      exact ⟨a, List.mem_cons_of_mem _ ha, pa⟩

/-- A list of steps fails with the failure of its first step that fails. -/
theorem mapM_eq_error_iff {xs : List α} {e : ε} :
    xs.mapM f = .error e ↔ ∃ before x after, xs = before ++ x :: after ∧
      (∀ y ∈ before, ∃ b, f y = .ok b) ∧ f x = .error e := by
  induction xs with
  | nil =>
    constructor
    · intro h; cases h
    · rintro ⟨before, x, after, h, -⟩
      cases before <;> cases h
  | cons x xs ih =>
    rw [List.mapM_cons]
    cases hx : f x with
    | error d =>
      constructor
      · intro h
        obtain rfl : d = e := Except.error.inj h
        exact ⟨[], x, xs, rfl, by simp, hx⟩
      · rintro ⟨before, y, after, h, hb, hy⟩
        cases before with
        | nil =>
          obtain ⟨rfl, -⟩ := List.cons.inj h
          rw [hx] at hy
          exact congrArg Except.error (Except.error.inj hy)
        | cons z before =>
          obtain ⟨rfl, -⟩ := List.cons.inj h
          obtain ⟨b, hz⟩ := hb x List.mem_cons_self
          rw [hx] at hz
          cases hz
    | ok b =>
      have rest : (do let ys ← xs.mapM f; return b :: ys : Except ε (List β)) = .error e ↔
          xs.mapM f = .error e := by
        cases xs.mapM f with
        | error d => exact Iff.rfl
        | ok ys => exact ⟨nofun, nofun⟩
      refine rest.trans (ih.trans ⟨?_, ?_⟩)
      · rintro ⟨before, y, after, rfl, hb, hy⟩
        refine ⟨x :: before, y, after, rfl, ?_, hy⟩
        intro z hz
        rcases List.mem_cons.1 hz with rfl | hz
        · exact ⟨b, hx⟩
        · exact hb z hz
      · rintro ⟨before, y, after, h, hb, hy⟩
        cases before with
        | nil =>
          obtain ⟨rfl, -⟩ := List.cons.inj h
          rw [hx] at hy
          cases hy
        | cons z before =>
          obtain ⟨-, rfl⟩ := List.cons.inj h
          exact ⟨before, y, after, rfl, fun w hw => hb w (List.mem_cons_of_mem _ hw), hy⟩

/-- Steps that each start from what the one before leaves fail with the first that fails. -/
theorem foldlM_eq_error_iff {σ : Type} {g : σ → α → Except ε σ} {s : σ} {xs : List α} {e : ε} :
    xs.foldlM g s = .error e ↔ ∃ before x after t, xs = before ++ x :: after ∧
      before.foldlM g s = .ok t ∧ g t x = .error e := by
  constructor
  · intro h
    induction xs generalizing s with
    | nil => cases h
    | cons x xs ih =>
      rw [List.foldlM_cons] at h
      cases hx : g s x with
      | error d =>
        rw [hx] at h
        obtain rfl : d = e := Except.error.inj h
        exact ⟨[], x, xs, s, rfl, rfl, hx⟩
      | ok t =>
        rw [hx] at h
        obtain ⟨before, y, after, u, rfl, hb, hy⟩ := ih h
        refine ⟨x :: before, y, after, u, rfl, ?_, hy⟩
        rw [List.foldlM_cons, hx]
        exact hb
  · rintro ⟨before, x, after, t, rfl, hb, hx⟩
    rw [List.foldlM_append, hb]
    change (x :: after).foldlM g t = .error e
    rw [List.foldlM_cons, hx]
    rfl

end Except

namespace Flow

variable {σ α β : Type}

/-- Two steps that succeed one after the other. -/
theorem exists_of_exec_bind {x : Flow σ α} {f : α → Flow σ β} {s t : Session σ} {b : β}
    (h : exec (x >>= f) s = (.ok b, t)) :
    ∃ a u, exec x s = (.ok a, u) ∧ exec (f a) u = (.ok b, t) := by
  rw [exec_bind] at h
  split at h
  · rename_i a u first
    exact ⟨a, u, first, h⟩
  · cases h

/-- What a step without effects gives is what it is made of, if it succeeds. -/
theorem eq_ok_of_exec_ofFault {x : Except Fault α} {s t : Session σ} {a : α}
    (h : exec (ofFault x) s = (.ok a, t)) : x = .ok a ∧ s = t := by
  rw [exec_ofFault] at h
  obtain ⟨value, state⟩ := Prod.mk.inj h
  exact ⟨eq_ok_of_ofFaults value, state⟩

/-- Started when the collaborators are in state `w`, the step `x` ends with `r` and leaves them in
state `v`, whatever was logged before. -/
def Ends (x : Flow σ α) (w : σ) (r : Except Failure α) (v : σ) : Prop :=
  ∀ log, ∃ log', exec x ⟨w, log⟩ = (r, ⟨v, log'⟩)

namespace Ends

variable {x : Flow σ α} {f : α → Flow σ β} {w v u : σ} {a : α} {e : Failure}

theorem pure (a : α) (w : σ) : Ends (Pure.pure a : Flow σ α) w (.ok a) w :=
  fun log => ⟨log, rfl⟩

theorem log (level : LogLevel) (text : String) (w : σ) : Ends (Flow.log level text) w (.ok ()) w :=
  fun log => ⟨log ++ [⟨level, text⟩], rfl⟩

theorem fail (e : Failure) (w : σ) : Ends (Flow.fail e : Flow σ α) w (.error e) w :=
  fun log => ⟨log, rfl⟩

theorem ofExcept {given r : Except Failure α} (h : given = r) (w : σ) :
    Ends (Flow.ofExcept given) w r w :=
  fun log => ⟨log, by rw [exec_ofExcept, h]⟩

theorem ofFault {given : Except Fault α} {r : Except Failure α} (h : ofFaults given = r) (w : σ) :
    Ends (Flow.ofFault given) w r w :=
  fun log => ⟨log, by rw [exec_ofFault, h]⟩

/-- A step ends in one way only. -/
theorem unique {r r' : Except Failure α} {v' : σ} (h : Ends x w r v) (h' : Ends x w r' v') :
    r = r' ∧ v = v' := by
  obtain ⟨_, once⟩ := h []
  obtain ⟨_, again⟩ := h' []
  rw [once] at again
  obtain ⟨result, session⟩ := Prod.mk.inj again
  exact ⟨result, congrArg Session.world session⟩

/-- A step that succeeds is followed by the next. -/
theorem bind {r : Except Failure β} (first : Ends x w (.ok a) v) (next : Ends (f a) v r u) :
    Ends (x >>= f) w r u := by
  intro log
  obtain ⟨log', hx⟩ := first log
  obtain ⟨log'', hf⟩ := next log'
  exact ⟨log'', by rw [exec_bind, hx]; exact hf⟩

/-- A step that fails ends the whole. -/
theorem bind_error (first : Ends x w (.error e) v) : Ends (x >>= f) w (.error e) v := by
  intro log
  obtain ⟨log', hx⟩ := first log
  exact ⟨log', by rw [exec_bind, hx]⟩

/-- The steps for the items of a list succeed, and none changes the collaborators. -/
theorem mapM {g : α → β} {xs : List α} (each : ∀ x ∈ xs, Ends (f x) w (.ok (g x)) w) :
    Ends (xs.mapM f) w (.ok (xs.map g)) w := by
  induction xs with
  | nil => exact .pure _ w
  | cons x rest ih =>
    have others := ih fun y hy => each y (List.mem_cons_of_mem x hy)
    rw [List.mapM_cons]
    exact (each x List.mem_cons_self).bind (others.bind (.pure _ w))

/-- A step that ends with anything but a fault needs no handler. -/
theorem handleFault_of_ne {handler : Fault → Flow σ α} {r : Except Failure α}
    (first : Ends x w r v) (hr : ∀ fault, r ≠ .error (.fault fault)) :
    Ends (handleFault x handler) w r v := by
  intro log
  obtain ⟨log', hx⟩ := first log
  refine ⟨log', ?_⟩
  rw [exec_handleFault, hx]
  match r with
  | .ok _ => rfl
  | .error (.search _ _) => rfl
  | .error (.fault fault) => exact absurd rfl (hr fault)

/-- A fault is handled in the state in which it comes up. -/
theorem handleFault_fault {handler : Fault → Flow σ α} {r : Except Failure α} {fault : Fault}
    (first : Ends x w (.error (.fault fault)) v) (next : Ends (handler fault) v r u) :
    Ends (handleFault x handler) w r u := by
  intro log
  obtain ⟨log', hx⟩ := first log
  obtain ⟨log'', hh⟩ := next log'
  exact ⟨log'', by rw [exec_handleFault, hx]; exact hh⟩

/-- A handler that reports a fault makes a report of every failure. -/
theorem handleFault_reported {handler : Fault → Flow σ α} {report : Fault → Report}
    (first : Ends x w (.error e) v)
    (next : ∀ fault,
      Ends (handler fault) v (.error (.search (report fault) (some (.fault fault)))) v) :
    Ends (handleFault x handler) w (.error (e.reported report)) v := by
  cases e with
  | search r cause => exact first.handleFault_of_ne nofun
  | fault fault => exact first.handleFault_fault (next fault)

end Ends

/-- Started when the collaborators are in state `w`, the step `x` leaves them in state `v`, however it
ends. -/
def Leaves (x : Flow σ α) (w v : σ) : Prop := ∃ r, Ends x w r v

/-- The step `x` changes no collaborator. -/
def IsQuiet (x : Flow σ α) : Prop := ∀ w, Leaves x w w

section Quiet

variable {x : Flow σ α} {f : α → Flow σ β} {w v u : σ}

theorem Ends.leaves {r : Except Failure α} (h : Ends x w r v) : Leaves x w v := ⟨r, h⟩

theorem Ends.bind_leaves {a : α} (first : Ends x w (.ok a) u) (next : Leaves (f a) u v) :
    Leaves (x >>= f) w v := by
  obtain ⟨r, next⟩ := next
  exact ⟨r, first.bind next⟩

/-- What is quiet may follow a step without being seen, and it is no matter whether it does. -/
theorem Leaves.bind (first : Leaves x w v) (next : ∀ a, IsQuiet (f a)) : Leaves (x >>= f) w v := by
  obtain ⟨r, first⟩ := first
  cases r with
  | error e => exact ⟨.error e, first.bind_error⟩
  | ok a =>
    obtain ⟨r, next⟩ := next a v
    exact ⟨r, first.bind next⟩

theorem Leaves.handleFault {handler : Fault → Flow σ α} (first : Leaves x w v)
    (next : ∀ fault, IsQuiet (handler fault)) : Leaves (handleFault x handler) w v := by
  obtain ⟨r, first⟩ := first
  match r with
  | .ok _ => exact ⟨_, first.handleFault_of_ne nofun⟩
  | .error (.search _ _) => exact ⟨_, first.handleFault_of_ne nofun⟩
  | .error (.fault fault) =>
    obtain ⟨r, next⟩ := next fault v
    exact ⟨r, first.handleFault_fault next⟩

namespace IsQuiet

theorem pure (a : α) : IsQuiet (Pure.pure a : Flow σ α) := fun w => ⟨_, .pure a w⟩

theorem log (level : LogLevel) (text : String) : IsQuiet (Flow.log level text : Flow σ Unit) :=
  fun w => ⟨_, .log level text w⟩

theorem fail (e : Failure) : IsQuiet (Flow.fail e : Flow σ α) := fun w => ⟨_, .fail e w⟩

theorem fail_bind (e : Failure) : IsQuiet (Flow.fail e >>= f) :=
  fun w => (Ends.fail e w).bind_error.leaves

theorem ofExcept (given : Except Failure α) : IsQuiet (Flow.ofExcept given : Flow σ α) :=
  fun w => ⟨_, .ofExcept rfl w⟩

theorem ofFault (given : Except Fault α) : IsQuiet (Flow.ofFault given : Flow σ α) :=
  fun w => ⟨_, .ofFault rfl w⟩

theorem bind (first : IsQuiet x) (next : ∀ a, IsQuiet (f a)) : IsQuiet (x >>= f) :=
  fun w => (first w).bind next

theorem handleFault {handler : Fault → Flow σ α} (first : IsQuiet x)
    (next : ∀ fault, IsQuiet (handler fault)) : IsQuiet (Flow.handleFault x handler) :=
  fun w => (first w).handleFault next

theorem mapM {xs : List α} (each : ∀ a, IsQuiet (f a)) : IsQuiet (xs.mapM f) := by
  induction xs with
  | nil => exact .pure []
  | cons x rest ih =>
    rw [List.mapM_cons]
    exact (each x).bind fun _ => ih.bind fun _ => .pure _

end IsQuiet

end Quiet

end Flow

end LogSearch
