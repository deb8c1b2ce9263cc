import LogSearch.Flow

/-!
# A registry of parts

A registry knows for each interface how a part behind it is made, and makes parts when they are
asked for.  A part that is registered as the only one of its interface is made once and kept until
the interface is registered anew or the registry is reset; any other is made at each request.
Making a part may ask for other parts, and do without those that cannot be had.  It may fail; nothing is
kept then but the parts made before the failure.

Renders `Container`: `register`, `is_registered` (`isRegistered`), `resolve` and `reset`.

Main statements: what is found for an interface after a registration, a reset and a kept part, and
what an interface gives that has a kept part or no registration.
-/

namespace LogSearch

/-- A part that was made.  The stamp tells parts of one registry apart. -/
structure Instance (α : Type) where
  stamp : Nat
  value : α
deriving Repr, DecidableEq

/-- How a part is made: in the end by a step, and before that by looking at the session and changing it,
and by asking for other parts. -/
inductive Recipe (σ : Type) {ι : Type} (part : ι → Type) (α : Type)
  | make (step : Flow σ α)
  /-- Changes the session, and goes on as the session was. -/
  | act (change : Session σ → Session σ) (next : Session σ → Recipe σ part α)
  /-- Asks for a part, and goes on with it or with the failure to have it. -/
  | ask (interface : ι) (next : Except Failure (Instance (part interface)) → Recipe σ part α)

/-- Asks for a part without which the recipe fails. -/
def Recipe.need {σ ι : Type} {part : ι → Type} {α : Type} (interface : ι)
    (next : Instance (part interface) → Recipe σ part α) : Recipe σ part α :=
  .ask interface fun
    | .ok given => next given
    | .error e => .make (throw e)

/-- What is registered for an interface. -/
structure Registration (σ : Type) {ι : Type} (part : ι → Type) (α : Type) where
  recipe : Recipe σ part α
  /-- Whether the first part that is made is the only one. -/
  single : Bool := false

/-- A family with another member at one index. -/
def replaced {ι : Type} [DecidableEq ι] {β : ι → Type} (f : (i : ι) → β i) (i : ι) (b : β i)
    (j : ι) : β j :=
  if h : i = j then h ▸ b else f j

section

variable {ι : Type} [DecidableEq ι] {β : ι → Type}

@[simp] theorem replaced_same (f : (i : ι) → β i) (i : ι) (b : β i) : replaced f i b i = b := by
  simp [replaced]

@[simp] theorem replaced_ne (f : (i : ι) → β i) {i j : ι} (b : β i) (h : i ≠ j) :
    replaced f i b j = f j := by
  simp [replaced, h]

end

/-- A registry of parts.  `part` says what a part behind an interface is. -/
structure Registry (σ : Type) {ι : Type} (part : ι → Type) where
  /-- How an interface is called when there is nothing behind it. -/
  name : ι → String
  registration? : (i : ι) → Option (Registration σ part (part i)) := fun _ => none
  /-- The parts that are the only ones of their interfaces, as far as they were made. -/
  kept? : (i : ι) → Option (Instance (part i)) := fun _ => none
  /-- How many parts were made. -/
  made : Nat := 0

/-- A step on a registry. -/
abbrev Assembling (σ : Type) {ι : Type} (part : ι → Type) :=
  ExceptT Failure (StateM (Registry σ part × Session σ))

namespace Assembling

variable {σ ι α : Type} {part : ι → Type}

/-- Runs a step on a registry. -/
def exec (x : Assembling σ part α) (registry : Registry σ part) (session : Session σ) :
    Except Failure α × Registry σ part × Session σ :=
  x.run (registry, session)

/-- A step that has nothing to do with the registry. -/
def ofFlow (x : Flow σ α) : Assembling σ part α :=
  ExceptT.mk fun (registry, session) =>
    let (outcome, session) := x.exec session
    (outcome, registry, session)

/-- The registry as it is. -/
def registry : Assembling σ part (Registry σ part) := ExceptT.lift (do return (← get).1)

/-- Changes the registry. -/
def change (f : Registry σ part → Registry σ part) : Assembling σ part Unit :=
  ExceptT.lift (modify fun (registry, session) => (f registry, session))

/-- Changes the session, and gives what it was. -/
def act (f : Session σ → Session σ) : Assembling σ part (Session σ) :=
  ExceptT.lift (modifyGet fun (registry, session) => (session, (registry, f session)))

/-- The outcome of a step, which never fails then. -/
def attempt (x : Assembling σ part α) : Assembling σ part (Except Failure α) := ExceptT.lift x.run

/-- The part that a step makes, with the next stamp. -/
def stamped (x : Assembling σ part α) : Assembling σ part (Instance α) := do
  let value ← x
  let stamp := (← registry).made
  change fun r => { r with made := r.made + 1 }
  return { stamp, value }

/-- A step on a registry that nobody else knows. -/
def alone (x : Assembling σ part α) (registry : Registry σ part) : Flow σ α :=
  ExceptT.mk fun session =>
    let (outcome, _, session) := x.exec registry session
    (outcome, session)

variable {β : Type}

@[simp] theorem exec_pure (a : α) (r : Registry σ part) (s : Session σ) :
    exec (pure a) r s = (.ok a, r, s) := rfl

@[simp] theorem exec_bind (x : Assembling σ part α) (f : α → Assembling σ part β)
    (r : Registry σ part) (s : Session σ) :
    exec (x >>= f) r s =
      match exec x r s with
      | (.ok a, r, s) => exec (f a) r s
      | (.error e, r, s) => (.error e, r, s) := by
  change (ExceptT.bind x f).run (r, s) = _
  simp only [ExceptT.bind, ExceptT.run, ExceptT.mk, bind, StateT.bind, exec]
  generalize x (r, s) = outcome
  obtain ⟨a | a, r, s⟩ := outcome <;> rfl

@[simp] theorem exec_throw (e : Failure) (r : Registry σ part) (s : Session σ) :
    exec (throw e : Assembling σ part α) r s = (.error e, r, s) := rfl

@[simp] theorem exec_ofFlow (x : Flow σ α) (r : Registry σ part) (s : Session σ) :
    exec (ofFlow x) r s = ((x.exec s).1, r, (x.exec s).2) := rfl

@[simp] theorem exec_registry (r : Registry σ part) (s : Session σ) :
    exec registry r s = (.ok r, r, s) := rfl

@[simp] theorem exec_change (f : Registry σ part → Registry σ part) (r : Registry σ part)
    (s : Session σ) : exec (change f) r s = (.ok (), f r, s) := rfl

@[simp] theorem exec_act (f : Session σ → Session σ) (r : Registry σ part) (s : Session σ) :
    exec (act f) r s = (.ok s, r, f s) := rfl

@[simp] theorem exec_attempt (x : Assembling σ part α) (r : Registry σ part) (s : Session σ) :
    exec (attempt x) r s = (.ok (exec x r s).1, (exec x r s).2) := rfl

/-- A part that is made gets the number of the parts made before as its stamp. -/
theorem exec_stamped (x : Assembling σ part α) (r : Registry σ part) (s : Session σ) :
    exec (stamped x) r s =
      match exec x r s with
      | (.ok value, r, s) => (.ok ⟨r.made, value⟩, { r with made := r.made + 1 }, s)
      | (.error e, r, s) => (.error e, r, s) := by
  unfold stamped
  rw [exec_bind]
  generalize exec x r s = outcome
  obtain ⟨a | a, r, s⟩ := outcome <;> rfl

@[simp] theorem exec_alone (x : Assembling σ part α) (r : Registry σ part) (s : Session σ) :
    (alone x r).exec s = ((exec x r s).1, (exec x r s).2.2) := rfl

end Assembling

namespace Recipe

variable {σ ι α : Type} {part : ι → Type}

/-- Makes a part, when it is known how to have the parts that it needs. -/
def follow (resolve : (i : ι) → Assembling σ part (Instance (part i))) :
    Recipe σ part α → Assembling σ part α
  | .make step => .ofFlow step
  | .act change next => do follow resolve (next (← Assembling.act change))
  | .ask interface next => do follow resolve (next (← Assembling.attempt (resolve interface)))

/-- A recipe that needs a part goes on with the part. -/
theorem follow_need (resolve : (i : ι) → Assembling σ part (Instance (part i))) (i : ι)
    (next : Instance (part i) → Recipe σ part α) :
    (need i next).follow resolve = resolve i >>= fun given => (next given).follow resolve := by
  funext ⟨r, s⟩
  change ((need i next).follow resolve).exec r s = Assembling.exec _ r s
  simp only [need, follow, Assembling.exec_bind, Assembling.exec_attempt]
  generalize (resolve i).exec r s = outcome
  obtain ⟨_ | _, r, s⟩ := outcome <;> rfl

end Recipe

namespace Registry

variable {σ ι : Type} {part : ι → Type}

/-- Whether anything is registered for an interface. -/
def isRegistered (r : Registry σ part) (i : ι) : Bool := (r.registration? i).isSome

/-- Forgets the parts that are kept, but not how they are made. -/
def reset (r : Registry σ part) : Registry σ part := { r with kept? := fun _ => none }

@[simp] theorem kept?_reset (r : Registry σ part) (i : ι) : r.reset.kept? i = none := rfl

@[simp] theorem registration?_reset (r : Registry σ part) (i : ι) :
    r.reset.registration? i = r.registration? i := rfl

variable [DecidableEq ι]

/-- Registers how the parts behind an interface are made.  What was registered or kept before is
forgotten. -/
def register (r : Registry σ part) (i : ι) (registration : Registration σ part (part i)) :
    Registry σ part :=
  { r with
    registration? := replaced r.registration? i (some registration)
    kept? := replaced r.kept? i none }

/-- Keeps a part as the only one behind an interface. -/
def keep (r : Registry σ part) (i : ι) (made : Instance (part i)) : Registry σ part :=
  { r with kept? := replaced r.kept? i (some made) }

/-- The part behind an interface, where parts need parts at most so deep. -/
def resolveWithin : Nat → (i : ι) → Assembling σ part (Instance (part i))
  | 0, _ => throw (.fault .circular)
  | depth + 1, i => do
    let r ← Assembling.registry
    match r.registration? i with
    | none => throw (.fault (.unregistered (r.name i)))
    | some registration =>
      if registration.single then
        match r.kept? i with
        | some kept => return kept
        | none => do
          let made ← Assembling.stamped (registration.recipe.follow (resolveWithin depth))
          Assembling.change fun r => r.keep i made
          return made
      else Assembling.stamped (registration.recipe.follow (resolveWithin depth))

/-- How deep parts may need parts.  Deeper ones are taken to need themselves. -/
def deepest : Nat := 300

/-- The part behind an interface. -/
def resolve (i : ι) : Assembling σ part (Instance (part i)) := resolveWithin deepest i

/-- Nothing comes from an interface that nothing is registered for. -/
theorem exec_resolveWithin_of_none (depth : Nat) {i : ι} {r : Registry σ part}
    (h : r.registration? i = none) (s : Session σ) :
    (resolveWithin (depth + 1) i).exec r s = (.error (.fault (.unregistered (r.name i))), r, s) := by
  simp [resolveWithin, h]

/-- A part that is kept is what its interface gives. -/
theorem exec_resolveWithin_of_kept (depth : Nat) {i : ι} {r : Registry σ part}
    {registration : Registration σ part (part i)} {kept : Instance (part i)}
    (h : r.registration? i = some registration) (single : registration.single = true)
    (hk : r.kept? i = some kept) (s : Session σ) :
    (resolveWithin (depth + 1) i).exec r s = (.ok kept, r, s) := by
  simp [resolveWithin, h, single, hk]

@[simp] theorem isRegistered_register (r : Registry σ part) (i : ι)
    (registration : Registration σ part (part i)) (j : ι) :
    (r.register i registration).isRegistered j = (decide (i = j) || r.isRegistered j) := by
  by_cases h : i = j
  · subst h; simp [register, isRegistered]
  · simp [register, isRegistered, h]

@[simp] theorem registration?_register (r : Registry σ part) (i : ι)
    (registration : Registration σ part (part i)) :
    (r.register i registration).registration? i = some registration := by
  simp [register]

/-- A registration forgets the part that was kept before. -/
@[simp] theorem kept?_register (r : Registry σ part) (i : ι)
    (registration : Registration σ part (part i)) :
    (r.register i registration).kept? i = none := by
  simp [register]

@[simp] theorem kept?_keep (r : Registry σ part) (i : ι) (made : Instance (part i)) :
    (r.keep i made).kept? i = some made := by
  simp [keep]

end Registry

end LogSearch
