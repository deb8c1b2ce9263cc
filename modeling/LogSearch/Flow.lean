import LogSearch.Failure

/-!
# Steps with effects

A step of a search may fail, may write to the log, and may ask collaborators that have a state of
their own.  A `Flow` is such a step over collaborators whose state is a `σ`; `exec` runs it.  What
was logged and asked before a failure stays.

Renders `raise`, `try` and `logger`, and the calls of collaborators in their order.

Main statements: one equation for each way of making a step.
-/

namespace LogSearch

/-- How much a log line matters. -/
inductive LogLevel
  | debug
  | info
  | warning
  | error
deriving Repr, DecidableEq

/-- The rank of a level among all levels. -/
def LogLevel.rank : LogLevel → Nat
  | .debug => 10
  | .info => 20
  | .warning => 30
  | .error => 40

/-- A line of the log. -/
structure LogLine where
  level : LogLevel
  text : String
deriving Repr, DecidableEq

/-- The state of the collaborators, and the log. -/
structure Session (σ : Type) where
  world : σ
  log : List LogLine := []

/-- A step that may fail and has effects. -/
abbrev Flow (σ : Type) := ExceptT Failure (StateM (Session σ))

namespace Flow

variable {σ α β : Type}

/-- Runs a step. -/
def exec (x : Flow σ α) (s : Session σ) : Except Failure α × Session σ := x.run s

/-- Writes a line to the log. -/
def log (level : LogLevel) (text : String) : Flow σ Unit :=
  ExceptT.lift (modify fun s => { s with log := s.log ++ [⟨level, text⟩] })

/-- Fails. -/
def fail (failure : Failure) : Flow σ α := throw failure

/-- Fails with a report that has no cause. -/
def report (report : Report) : Flow σ α := fail report.failure

/-- A step without effects. -/
def ofExcept (x : Except Failure α) : Flow σ α := ExceptT.mk (pure x)

/-- A step without effects whose only failures are faults. -/
def ofFault (x : Except Fault α) : Flow σ α := ofExcept (ofFaults x)

/-- The outcome of a step, which never fails then. -/
def attempt (x : Flow σ α) : Flow σ (Except Failure α) := ExceptT.lift x.run

/-- Asks the collaborators: their answer may be a failure, and their state may change. -/
def ask (f : σ → Except Failure α × σ) : Flow σ α :=
  ExceptT.mk fun s => let (answer, world) := f s.world; (answer, { s with world })

/-- Runs a step and, if it fails, a handler for the failure. -/
def handle (x : Flow σ α) (handler : Failure → Flow σ α) : Flow σ α := do
  match ← attempt x with
  | .ok a => pure a
  | .error e => handler e

/-- Runs a step and, if it fails with a fault, a handler for the fault.  Reports are left alone. -/
def handleFault (x : Flow σ α) (handler : Fault → Flow σ α) : Flow σ α :=
  handle x fun
    | .fault f => handler f
    | failure => fail failure

@[simp] theorem exec_pure (a : α) (s : Session σ) : exec (pure a) s = (.ok a, s) := rfl

@[simp] theorem exec_bind (x : Flow σ α) (f : α → Flow σ β) (s : Session σ) :
    exec (x >>= f) s =
      match exec x s with
      | (.ok a, t) => exec (f a) t
      | (.error e, t) => (.error e, t) := by
  change (ExceptT.bind x f).run s = _
  simp only [ExceptT.bind, ExceptT.run, ExceptT.mk, bind, StateT.bind, exec]
  generalize x s = r
  obtain ⟨a | a, t⟩ := r <;> rfl

@[simp] theorem exec_log (level : LogLevel) (text : String) (s : Session σ) :
    exec (log level text) s = (.ok (), { s with log := s.log ++ [⟨level, text⟩] }) := rfl

@[simp] theorem exec_fail (e : Failure) (s : Session σ) :
    exec (fail e : Flow σ α) s = (.error e, s) := rfl

@[simp] theorem exec_report (r : Report) (s : Session σ) :
    exec (report r : Flow σ α) s = (.error r.failure, s) := rfl

@[simp] theorem exec_ofExcept (x : Except Failure α) (s : Session σ) :
    exec (ofExcept x) s = (x, s) := rfl

@[simp] theorem exec_ofFault (x : Except Fault α) (s : Session σ) :
    exec (ofFault x) s = (ofFaults x, s) := rfl

@[simp] theorem exec_attempt (x : Flow σ α) (s : Session σ) :
    exec (attempt x) s = (.ok (exec x s).1, (exec x s).2) := rfl

@[simp] theorem exec_ask (f : σ → Except Failure α × σ) (s : Session σ) :
    exec (ask f) s = ((f s.world).1, { s with world := (f s.world).2 }) := rfl

/-- A handler runs exactly when the step fails, in the state that the step leaves. -/
@[simp] theorem exec_handle (x : Flow σ α) (handler : Failure → Flow σ α) (s : Session σ) :
    exec (handle x handler) s =
      match exec x s with
      | (.ok a, t) => (.ok a, t)
      | (.error e, t) => exec (handler e) t := by
  unfold handle
  rw [exec_bind, exec_attempt]
  generalize exec x s = r
  obtain ⟨a | a, t⟩ := r <;> rfl

/-- A handler for faults runs exactly when the step fails with a fault. -/
@[simp] theorem exec_handleFault (x : Flow σ α) (handler : Fault → Flow σ α) (s : Session σ) :
    exec (handleFault x handler) s =
      match exec x s with
      | (.ok a, t) => (.ok a, t)
      | (.error (.fault f), t) => exec (handler f) t
      | (.error failure, t) => (.error failure, t) := by
  rw [handleFault, exec_handle]
  generalize exec x s = r
  obtain ⟨(_ | _) | _, t⟩ := r <;> rfl

end Flow

end LogSearch
