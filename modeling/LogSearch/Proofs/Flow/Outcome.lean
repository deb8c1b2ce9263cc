import LogSearch.Proofs.Flow

/-!
# What holds when a step ends

`Flow.Yields x w P E` says that the step `x`, started when the collaborators are in state `w`, succeeds
with a result, and leaves them in a state, of which `P` holds, or fails with a failure and a state of
which `E` holds.  It is `Flow.Ends` for results that need not be told in full, and there is again one
rule for each way of joining steps.
-/

namespace LogSearch.Flow

variable {σ α β : Type} {x : Flow σ α} {f : α → Flow σ β} {w v : σ}

/-- Started when the collaborators are in state `w`, the step `x` ends so that `P` holds of its result,
or `E` of its failure, and of the state in which it leaves them. -/
def Yields (x : Flow σ α) (w : σ) (P : α → σ → Prop) (E : Failure → σ → Prop) : Prop :=
  (∃ a v, Ends x w (.ok a) v ∧ P a v) ∨ ∃ e v, Ends x w (.error e) v ∧ E e v

namespace Ends

/-- A step that succeeds needs no handler. -/
theorem handle_ok {handler : Failure → Flow σ α} {a : α} (first : Ends x w (.ok a) v) :
    Ends (handle x handler) w (.ok a) v := by
  intro log
  obtain ⟨log', hx⟩ := first log
  exact ⟨log', by rw [exec_handle, hx]⟩

/-- A failure is handled in the state in which it comes up. -/
theorem handle_error {handler : Failure → Flow σ α} {e : Failure} {r : Except Failure α} {u : σ}
    (first : Ends x w (.error e) v) (next : Ends (handler e) v r u) : Ends (handle x handler) w r u := by
  intro log
  obtain ⟨log', hx⟩ := first log
  obtain ⟨log'', hh⟩ := next log'
  exact ⟨log'', by rw [exec_handle, hx]; exact hh⟩

/-- Steps that change nothing give for a list what they give for its items, up to the first failure. -/
theorem mapM_of_unchanged {g : α → Except Failure β} {xs : List α}
    (each : ∀ x ∈ xs, Ends (f x) w (g x) w) : Ends (xs.mapM f) w (xs.mapM g) w := by
  induction xs with
  | nil => exact .pure [] w
  | cons x rest ih =>
    have first := each x List.mem_cons_self
    have others := ih fun y hy => each y (List.mem_cons_of_mem x hy)
    rw [List.mapM_cons, List.mapM_cons]
    cases here : g x with
    | error e =>
      rw [here] at first
      exact first.bind_error
    | ok y =>
      rw [here] at first
      refine first.bind ?_
      cases later : rest.mapM g with
      | error e =>
        rw [later] at others
        exact others.bind_error
      | ok ys =>
        rw [later] at others
        exact others.bind (.pure _ w)

theorem yields_ok {a : α} {P : α → σ → Prop} {E : Failure → σ → Prop} (ends : Ends x w (.ok a) v)
    (holds : P a v) : Yields x w P E :=
  .inl ⟨a, v, ends, holds⟩

theorem yields_error {e : Failure} {P : α → σ → Prop} {E : Failure → σ → Prop}
    (ends : Ends x w (.error e) v) (holds : E e v) : Yields x w P E :=
  .inr ⟨e, v, ends, holds⟩

/-- A step whose end is known is followed by the next. -/
theorem bind_yields {a : α} {P : β → σ → Prop} {E : Failure → σ → Prop} (first : Ends x w (.ok a) v)
    (next : Yields (f a) v P E) : Yields (x >>= f) w P E := by
  rcases next with ⟨b, u, others, holds⟩ | ⟨e, u, others, holds⟩
  · exact (first.bind others).yields_ok holds
  · exact (first.bind others).yields_error holds

end Ends

namespace Yields

variable {P Q : α → σ → Prop} {R : β → σ → Prop} {E F : Failure → σ → Prop}

theorem imp (first : Yields x w P E) (ok : ∀ a v, P a v → Q a v) (error : ∀ e v, E e v → F e v) :
    Yields x w Q F := by
  rcases first with ⟨a, v, ends, holds⟩ | ⟨e, v, ends, holds⟩
  · exact ends.yields_ok (ok a v holds)
  · exact ends.yields_error (error e v holds)

theorem imp_error (first : Yields x w P E) (error : ∀ e v, E e v → F e v) : Yields x w P F :=
  first.imp (fun _ _ holds => holds) error

theorem pure {a : α} (holds : P a w) : Yields (Pure.pure a : Flow σ α) w P E :=
  (Ends.pure a w).yields_ok holds

theorem fail {e : Failure} (holds : E e w) : Yields (Flow.fail e) w P E :=
  (Ends.fail e w).yields_error holds

theorem ofFault {given : Except Fault α} (ok : ∀ a, given = .ok a → P a w)
    (error : ∀ f, given = .error f → E (.fault f) w) : Yields (Flow.ofFault given) w P E := by
  cases given with
  | ok a => exact (Ends.ofFault rfl w).yields_ok (ok a rfl)
  | error f => exact (Ends.ofFault rfl w).yields_error (error f rfl)

theorem bind (first : Yields x w P E) (next : ∀ a v, P a v → Yields (f a) v R E) :
    Yields (x >>= f) w R E := by
  rcases first with ⟨a, v, ends, holds⟩ | ⟨e, v, ends, holds⟩
  · rcases next a v holds with ⟨b, u, others, holds⟩ | ⟨e, u, others, holds⟩
    · exact (ends.bind others).yields_ok holds
    · exact (ends.bind others).yields_error holds
  · exact ends.bind_error.yields_error holds

theorem fail_bind {e : Failure} (holds : E e w) : Yields (Flow.fail e >>= f) w R E :=
  (Ends.fail e w).bind_error.yields_error holds

/-- A given result is handed to the next step. -/
theorem ofFault_bind {given : Except Fault α} {a : α} (h : given = .ok a) (next : Yields (f a) w R E) :
    Yields (Flow.ofFault given >>= f) w R E :=
  (Ends.ofFault (congrArg ofFaults h) w).bind_yields next

/-- After a given fault there is no next step. -/
theorem ofFault_bind_error {given : Except Fault α} {fault : Fault} (h : given = .error fault)
    (holds : E (.fault fault) w) : Yields (Flow.ofFault given >>= f) w R E :=
  (Ends.ofFault (congrArg ofFaults h) w).bind_error.yields_error holds

/-- A line of the log is followed by the next step, and nobody sees it. -/
theorem log_bind {level : LogLevel} {text : String} {next : Unit → Flow σ α}
    (rest : Yields (next ()) w P E) : Yields (Flow.log level text >>= next) w P E :=
  (Ends.log level text w).bind_yields rest

theorem handle {handler : Failure → Flow σ α} (first : Yields x w P E)
    (next : ∀ e v, E e v → Yields (handler e) v P F) : Yields (Flow.handle x handler) w P F := by
  rcases first with ⟨a, v, ends, holds⟩ | ⟨e, v, ends, holds⟩
  · exact ends.handle_ok.yields_ok holds
  · rcases next e v holds with ⟨b, u, others, holds⟩ | ⟨e, u, others, holds⟩
    · exact (ends.handle_error others).yields_ok holds
    · exact (ends.handle_error others).yields_error holds

/-- Of failures only faults are handled. -/
theorem handleFault {handler : Fault → Flow σ α} (first : Yields x w P E)
    (report : ∀ r c v, E (.search r c) v → F (.search r c) v)
    (fault : ∀ f v, E (.fault f) v → Yields (handler f) v P F) :
    Yields (Flow.handleFault x handler) w P F := by
  refine first.handle fun e v holds => ?_
  cases e with
  | search r c => exact .fail (report r c v holds)
  | fault f => exact fault f v holds

end Yields

end LogSearch.Flow
