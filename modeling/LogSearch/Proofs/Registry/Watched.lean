import LogSearch.Proofs.Registry.Coherent

/-!
# A registry that is watched

What happens in a registry is written down by its own recipes: a watched recipe does what the recipe does,
and beside the state of the collaborators it notes that it is begun, what each of its requests gives, and
how it ends.  The registry runs such recipes as it runs any others, and a recipe that is run twice notes it
twice.  The run gives what it would have given without them (`Registry.exec_watched`): leave out what is
written, and the registries and the sessions are the same.

A request writes in few kinds of steps.  What is to hold of all that is written is proved for these.

Main statement: `Registry.exec_watched`.
-/

namespace LogSearch

/-- What happens in a registry. -/
inductive RegistryEvent (σ : Type) {ι : Type} (part : ι → Type)
  | registered (i : ι) (registration : Registration σ part (part i))
  | reset
  /-- A recipe is begun to make a part behind an interface. -/
  | began (i : ι)
  /-- A recipe has ended, with a part or a failure. -/
  | ended (i : ι) (recipe : Recipe σ part (part i)) (outcome : Except Failure (part i))
  /-- A request for the part behind an interface has ended. -/
  | gave (i : ι) (outcome : Except Failure (Instance (part i)))

/-- What has happened in a registry, the latest first. -/
abbrev History (σ : Type) {ι : Type} (part : ι → Type) := List (RegistryEvent σ part)

variable {σ ι α : Type} {part : ι → Type}

namespace Session

/-- A session beside which it is written what happens. -/
def watched (s : Session σ) (h : History σ part) : Session (σ × History σ part) := ⟨(s.world, h), s.log⟩

/-- The session beside which something is written. -/
def plain (s : Session (σ × History σ part)) : Session σ := ⟨s.world.1, s.log⟩

/-- What is written beside a session. -/
def history (s : Session (σ × History σ part)) : History σ part := s.world.2

/-- Writes down one thing more. -/
def note (e : RegistryEvent σ part) (s : Session (σ × History σ part)) : Session (σ × History σ part) :=
  s.plain.watched (e :: s.history)

@[simp] theorem note_watched (e : RegistryEvent σ part) (s : Session σ) (h : History σ part) :
    note e (s.watched h) = s.watched (e :: h) := rfl

end Session

/-- A recipe that does the same, and notes what its requests give and, as `last` says, how it ends. -/
def Recipe.watched (last : Except Failure α → RegistryEvent σ part) :
    Recipe σ part α → Recipe (σ × History σ part) part α
  | .make step => .make <| ExceptT.mk fun s =>
    let (outcome, s') := step.exec s.plain
    (outcome, s'.watched (last outcome :: s.history))
  | .act change next =>
    .act (fun s => (change s.plain).watched s.history) fun s => watched last (next s.plain)
  | .ask i next =>
    .ask i fun outcome => .act (Session.note (.gave i outcome)) fun _ => watched last (next outcome)

/-- A registration whose recipe notes what happens. -/
def Registration.watched (i : ι) (registration : Registration σ part (part i)) :
    Registration (σ × History σ part) part (part i) where
  recipe := .act (Session.note (.began i)) fun _ => registration.recipe.watched (.ended i registration.recipe)
  single := registration.single

/-- A registry whose recipes note what happens. -/
def Registry.watched (r : Registry σ part) : Registry (σ × History σ part) part where
  name := r.name
  registration? i := (r.registration? i).map (Registration.watched i)
  kept? := r.kept?
  made := r.made

/-- Whether a recipe may ask for an interface. -/
def Recipe.Asks (i : ι) : Recipe σ part α → Prop
  | .make _ => False
  | .act _ next => ∃ s, Asks i (next s)
  | .ask j next => j = i ∨ ∃ outcome, Asks i (next outcome)

theorem Recipe.NeedsOnly.of_asks {within : ι → Prop} {recipe : Recipe σ part α}
    (needs : recipe.NeedsOnly within) {i : ι} (asks : recipe.Asks i) : within i := by
  induction recipe with
  | make step => exact asks.elim
  | act change next ih =>
    obtain ⟨s, asks⟩ := asks
    exact ih s (needs s) asks
  | ask j next ih =>
    rcases asks with rfl | ⟨outcome, asks⟩
    · exact needs.1
    · exact ih outcome (needs.2 outcome) asks

section

variable [DecidableEq ι]

/-- A recipe ends so in some registry, in some state of the collaborators. -/
def Recipe.Ends (recipe : Recipe σ part α) (outcome : Except Failure α) : Prop :=
  ∃ depth r s, ((recipe.follow (Registry.resolveWithin depth)).exec r s).1 = outcome

namespace Registry

variable {r r' : Registry σ part} {h h' : History σ part} {i : ι}

/-- The registry that keeps a part if it is the only one of its interface. -/
def keepIf (r : Registry σ part) (single : Bool) (i : ι) (made : Instance (part i)) : Registry σ part :=
  if single then r.keep i made else r

@[simp] theorem registration?_keepIf (r : Registry σ part) (single : Bool) (made : Instance (part i)) :
    (r.keepIf single i made).registration? = r.registration? := by
  unfold keepIf
  split <;> rfl

@[simp] theorem made_keepIf (r : Registry σ part) (single : Bool) (made : Instance (part i)) :
    (r.keepIf single i made).made = r.made := by
  unfold keepIf
  split <;> rfl

@[simp] theorem name_keepIf (r : Registry σ part) (single : Bool) (made : Instance (part i)) :
    (r.keepIf single i made).name = r.name := by
  unfold keepIf
  split <;> rfl

theorem kept?_keepIf_ne {j : ι} (other : i ≠ j) (single : Bool) (made : Instance (part i)) :
    (r.keepIf single i made).kept? j = r.kept? j := by
  unfold keepIf
  split
  · exact replaced_ne r.kept? (some made) other
  · rfl

theorem watched_keepIf (r : Registry σ part) (single : Bool) (made : Instance (part i)) :
    (r.keepIf single i made).watched = r.watched.keepIf single i made := by
  unfold keepIf
  split <;> rfl

/-- The registry that has made one more part. -/
def count (r : Registry σ part) : Registry σ part := { r with made := r.made + 1 }

/-- A request that does not give a part that is kept gives what its recipe makes. -/
theorem exec_resolveWithin_of_followed (depth : Nat) {registration : Registration σ part (part i)}
    (isRegistered : r.registration? i = some registration)
    (new : registration.single = true → r.kept? i = none) (s : Session σ) :
    (resolveWithin (depth + 1) i).exec r s =
      match (registration.recipe.follow (resolveWithin depth)).exec r s with
      | (.ok v, r, s) => (.ok ⟨r.made, v⟩, r.count.keepIf registration.single i ⟨r.made, v⟩, s)
      | (.error e, r, s) => (.error e, r, s) := by
  cases single : registration.single with
  | false =>
    rw [exec_resolveWithin_of_many depth isRegistered single, Assembling.exec_stamped]
    generalize (registration.recipe.follow (resolveWithin depth)).exec r s = ran
    obtain ⟨e | v, r', s'⟩ := ran <;> rfl
  | true =>
    rw [exec_resolveWithin_of_new depth isRegistered single (new single)]
    generalize (registration.recipe.follow (resolveWithin depth)).exec r s = ran
    obtain ⟨e | v, r', s'⟩ := ran <;> rfl

/-- The steps that requests take, for interfaces of which `within` holds and nested at most so deep: from the
registry `r` with the history `h` to `r'` with `h'`.  A recipe that is followed takes such steps itself, for
the interfaces that it asks for. -/
inductive Happens : Nat → (ι → Prop) → Registry σ part → History σ part → Registry σ part →
    History σ part → Prop
  | nothing {depth : Nat} {within : ι → Prop} (r : Registry σ part) (h : History σ part) :
    Happens depth within r h r h
  | andThen {depth : Nat} {within : ι → Prop} {r r' r'' : Registry σ part} {h h' h'' : History σ part}
      (first : Happens depth within r h r' h') (second : Happens depth within r' h' r'' h'') :
    Happens depth within r h r'' h''
  /-- A request that is nested too deep. -/
  | refused {within : ι → Prop} {i : ι} (inside : within i) (r : Registry σ part) (h : History σ part) :
    Happens 0 within r h r (.gave i (.error (.fault .circular)) :: h)
  | unregistered {depth : Nat} {within : ι → Prop} {r : Registry σ part} {i : ι} (inside : within i)
      (missing : r.registration? i = none) (h : History σ part) :
    Happens (depth + 1) within r h r (.gave i (.error (.fault (.unregistered (r.name i)))) :: h)
  | kept {depth : Nat} {within : ι → Prop} {r : Registry σ part} {i : ι}
      {registration : Registration σ part (part i)} {made : Instance (part i)} (inside : within i)
      (isRegistered : r.registration? i = some registration) (single : registration.single = true)
      (isKept : r.kept? i = some made) (h : History σ part) :
    Happens (depth + 1) within r h r (.gave i (.ok made) :: h)
  | failed {depth : Nat} {within : ι → Prop} {r r' : Registry σ part} {h h' : History σ part} {i : ι}
      {registration : Registration σ part (part i)} {e : Failure} (inside : within i)
      (isRegistered : r.registration? i = some registration)
      (new : registration.single = true → r.kept? i = none)
      (followed : Happens depth (registration.recipe.Asks ·) r (.began i :: h) r' h')
      (ends : registration.recipe.Ends (.error e)) :
    Happens (depth + 1) within r h r'
      (.gave i (.error e) :: .ended i registration.recipe (.error e) :: h')
  | made {depth : Nat} {within : ι → Prop} {r r' : Registry σ part} {h h' : History σ part} {i : ι}
      {registration : Registration σ part (part i)} {v : part i} (inside : within i)
      (isRegistered : r.registration? i = some registration)
      (new : registration.single = true → r.kept? i = none)
      (followed : Happens depth (registration.recipe.Asks ·) r (.began i :: h) r' h')
      (ends : registration.recipe.Ends (.ok v)) :
    Happens (depth + 1) within r h (r'.count.keepIf registration.single i ⟨r'.made, v⟩)
      (.gave i (.ok ⟨r'.made, v⟩) :: .ended i registration.recipe (.ok v) :: h')

/-- A watched request for an interface does what the request `x` does, and writes what happens in steps. -/
def IsWatched (depth : Nat) (i : ι) (x : Assembling σ part (Instance (part i)))
    (y : Assembling (σ × History σ part) part (Instance (part i))) : Prop :=
  ∀ (within : ι → Prop), within i → ∀ r s h,
    let ran := x.exec r s
    ∃ h', y.exec r.watched (s.watched h) = (ran.1, ran.2.1.watched, ran.2.2.watched h') ∧
      Happens depth within r h ran.2.1 (.gave i ran.1 :: h')

/-- A watched recipe makes what the recipe makes, and what it writes happens in steps, when this is so of
each request. -/
theorem exec_follow_watched {depth : Nat} {within : ι → Prop}
    {resolve : (i : ι) → Assembling σ part (Instance (part i))}
    {watched : (i : ι) → Assembling (σ × History σ part) part (Instance (part i))}
    (each : ∀ i, IsWatched depth i (resolve i) (watched i)) (last : Except Failure α → RegistryEvent σ part)
    (recipe : Recipe σ part α) (needs : ∀ i, recipe.Asks i → within i) (r : Registry σ part) (s : Session σ)
    (h : History σ part) :
    let ran := (recipe.follow resolve).exec r s
    ∃ h', ((recipe.watched last).follow watched).exec r.watched (s.watched h) =
        (ran.1, ran.2.1.watched, ran.2.2.watched (last ran.1 :: h')) ∧
      Happens depth within r h ran.2.1 h' := by
  induction recipe generalizing r s h with
  | make step => exact ⟨h, rfl, .nothing r h⟩
  | act change next ih =>
    simp only [Recipe.watched, Recipe.follow, Assembling.exec_bind, Assembling.exec_act]
    exact ih s (fun i asks => needs i ⟨s, asks⟩) r (change s) h
  | ask i next ih =>
    obtain ⟨h', ran, request⟩ := each i within (needs i (.inl rfl)) r s h
    simp only [Recipe.watched, Recipe.follow, Assembling.exec_bind, Assembling.exec_attempt, ran,
      Assembling.exec_act, Session.note_watched]
    obtain ⟨h'', others, follows⟩ := ih ((resolve i).exec r s).1 (fun j asks => needs j (.inr ⟨_, asks⟩))
      ((resolve i).exec r s).2.1 ((resolve i).exec r s).2.2 (.gave i ((resolve i).exec r s).1 :: h')
    exact ⟨h'', others, request.andThen follows⟩

/-- A watched registry gives what the registry gives, and is left as that is left.  What has happened is
written beside the session, and has happened in steps. -/
theorem exec_watched (depth : Nat) (i : ι) :
    IsWatched depth i (resolveWithin depth i)
      (resolveWithin depth i : Assembling (σ × History σ part) part _) := by
  induction depth generalizing i with
  | zero => exact fun within inside r s h => ⟨h, rfl, .refused inside r h⟩
  | succ depth ih =>
    intro within inside r s h
    cases isRegistered : r.registration? i with
    | none =>
      have missing : r.watched.registration? i = none := by simp [watched, isRegistered]
      rw [exec_resolveWithin_of_none depth isRegistered, exec_resolveWithin_of_none depth missing]
      exact ⟨h, rfl, .unregistered inside isRegistered h⟩
    | some registration =>
      have isWatched : r.watched.registration? i = some (registration.watched i) := by
        simp [watched, isRegistered]
      by_cases new : registration.single = true → r.kept? i = none
      · obtain ⟨h', ran, followed⟩ := exec_follow_watched ih (.ended i registration.recipe)
          registration.recipe (fun _ asks => asks) r s (.began i :: h)
        have begun : ((registration.watched i).recipe.follow (resolveWithin depth)).exec r.watched
            (s.watched h) = _ := ran
        have ends (outcome : Except Failure (part i)) (r' : Registry σ part) (s' : Session σ)
            (ran : (registration.recipe.follow (resolveWithin depth)).exec r s = (outcome, r', s')) :
            registration.recipe.Ends outcome := ⟨depth, r, s, by rw [ran]⟩
        rw [exec_resolveWithin_of_followed depth isRegistered new,
          exec_resolveWithin_of_followed depth isWatched new, begun]
        generalize (registration.recipe.follow (resolveWithin depth)).exec r s = ran at followed ends ⊢
        obtain ⟨e | v, r', s'⟩ := ran
        · exact ⟨_, rfl, .failed inside isRegistered new followed (ends _ r' s' rfl)⟩
        · refine ⟨_, ?_, .made inside isRegistered new followed (ends _ r' s' rfl)⟩
          rw [watched_keepIf]
          rfl
      · obtain ⟨single, isKept⟩ := Classical.not_imp.1 new
        obtain ⟨made, isKept⟩ := Option.ne_none_iff_exists'.1 isKept
        rw [exec_resolveWithin_of_kept depth isRegistered single isKept,
          exec_resolveWithin_of_kept depth isWatched single isKept]
        exact ⟨h, rfl, .kept inside isRegistered single isKept h⟩

end Registry

end

end LogSearch
