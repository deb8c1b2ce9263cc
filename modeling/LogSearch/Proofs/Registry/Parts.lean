import LogSearch.Proofs.Registry.History

/-!
# The parts that a registry gives over time

What a registry keeps and what it gives follows from its history.  A part that is kept was made by the
recipe of the latest registration of its interface, since this registration and the last reset, and it is
the only one made in that time.  This holds after each step of a request, and so it holds after all calls.
Requests may be nested only so deep; of one that is nested deeper nothing is said but that it gives no part.

Main statement: `Registry.parts_of_history`.
-/

namespace LogSearch

variable {σ ι : Type} {part : ι → Type} [DecidableEq ι] {r r' : Registry σ part} {h h' : History σ part}
  {e : RegistryEvent σ part} {i : ι}

namespace History

/-- A recipe has made this part for `i`, and what is kept behind `i` was not forgotten since.  The stamp of
the part is the number of the parts that were made before it. -/
def MadeSince (h : History σ part) (i : ι) (recipe : Recipe σ part (part i)) (made : Instance (part i)) :
    Prop :=
  ∃ later earlier, h = later ++ .ended i recipe (.ok made.value) :: earlier ∧
    (∀ e ∈ later, e.forgets i = false) ∧ made.stamp = earlier.countP RegistryEvent.makes

/-- A part is the only one of its interface, and the recipe of the latest registration has made it. -/
def IsKept (h : History σ part) (i : ι) (made : Instance (part i)) : Prop :=
  ∃ registration, registered? i h = some registration ∧ registration.single = true ∧
    MadeSince h i registration.recipe made

/-- How a recipe ends, when `earlier` has happened. -/
structure Ends (earlier : History σ part) (i : ι) (recipe : Recipe σ part (part i))
    (outcome : Except Failure (part i)) : Prop where
  /-- The recipe is that of the latest registration.  For the only part of its interface it is followed
  while there is none. -/
  registered : ∃ registration, registered? i earlier = some registration ∧ registration.recipe = recipe ∧
    (registration.single = true → (since i earlier).countP (RegistryEvent.makesFor i) = 0)
  ends : recipe.Ends outcome

/-- How a request ends, when `earlier` has happened.  The last three are said of requests that are not nested
too deep. -/
structure Gives (depth : Nat) (name : ι → String) (earlier : History σ part) (i : ι)
    (outcome : Except Failure (Instance (part i))) : Prop where
  given : ∀ made, outcome = .ok made → ∃ registration, registered? i earlier = some registration ∧
    MadeSince earlier i registration.recipe made
  kept : nesting earlier < depth → ∀ made, IsKept earlier i made → outcome = .ok made
  many : nesting earlier < depth → ∀ registration, registered? i earlier = some registration →
    registration.single = false →
      ∃ before, earlier = .ended i registration.recipe (outcome.map Instance.value) :: before ∧
        ∀ made, outcome = .ok made → made.stamp = before.countP RegistryEvent.makes
  unregistered : nesting earlier < depth → registered? i earlier = none →
    outcome = .error (.fault (.unregistered (name i)))

/-- An event may come after what has happened `earlier`. -/
def Allows (depth : Nat) (name : ι → String) (earlier : History σ part) : RegistryEvent σ part → Prop
  | .ended i recipe outcome => Ends earlier i recipe outcome
  | .gave i outcome => Gives depth name earlier i outcome
  | _ => True

/-- Each event may come after those before it. -/
def Lawful (depth : Nat) (name : ι → String) (h : History σ part) : Prop :=
  ∀ e earlier, e :: earlier <:+ h → Allows depth name earlier e

variable {depth : Nat} {name : ι → String}

theorem lawful_nil (depth : Nat) (name : ι → String) : Lawful depth name ([] : History σ part) := by
  intro e earlier suffix
  cases List.suffix_nil.1 suffix

theorem Lawful.cons (lawful : Lawful depth name h) (allowed : Allows depth name h e) :
    Lawful depth name (e :: h) := by
  intro e' earlier suffix
  rcases List.suffix_cons_iff.1 suffix with same | suffix
  · cases same
    exact allowed
  · exact lawful e' earlier suffix

/-- What a registry has behind an interface is what its history tells. -/
structure TellsOf (h : History σ part) (r : Registry σ part) (i : ι) : Prop where
  registered : r.registration? i = registered? i h
  kept : ∀ made, r.kept? i = some made ↔ IsKept h i made
  new : ∀ registration, registered? i h = some registration → registration.single = true →
    r.kept? i = none → (since i h).countP (RegistryEvent.makesFor i) = 0

/-- A registry is as its history tells. -/
structure Tells (h : History σ part) (r : Registry σ part) : Prop where
  made : r.made = h.countP RegistryEvent.makes
  each : ∀ i, TellsOf h r i

/-! ### What an event changes -/

theorem registered?_cons (stays : e.forgets i = false) : registered? i (e :: h) = registered? i h := by
  cases e with
  | registered j registration => simpa [registered?] using fun same => absurd same (of_decide_eq_false stays)
  | reset | began _ | ended _ _ _ | gave _ _ => rfl

theorem since_cons (stays : e.forgets i = false) : since i (e :: h) = e :: since i h := by
  simp [since, stays]

theorem since_cons_of_forgets (forgets : e.forgets i = true) : since i (e :: h) = [] := by
  simp [since, forgets]

theorem makesFor_eq_false (unmade : e.makes = false) (i : ι) : e.makesFor i = false := by
  cases e with
  | ended j recipe outcome =>
    cases outcome with
    | ok v => cases unmade
    | error _ => rfl
  | _ => rfl

section Kept

variable {recipe : Recipe σ part (part i)} {made a b : Instance (part i)}

theorem not_madeSince_nil : ¬ MadeSince [] i recipe made := by
  rintro ⟨later, earlier, isNil, -⟩
  exact absurd isNil.symm (by simp)

/-- A part was made last, or before something at which nothing is forgotten. -/
theorem madeSince_cons : MadeSince (e :: h) i recipe made ↔
    (e = .ended i recipe (.ok made.value) ∧ made.stamp = h.countP RegistryEvent.makes) ∨
      (e.forgets i = false ∧ MadeSince h i recipe made) := by
  constructor
  · rintro ⟨later, earlier, same, stay, stamp⟩
    cases later with
    | nil =>
      obtain ⟨rfl, rfl⟩ := List.cons.inj same
      exact .inl ⟨rfl, stamp⟩
    | cons last later =>
      obtain ⟨rfl, rfl⟩ := List.cons.inj same
      obtain ⟨stays, stay⟩ := List.forall_mem_cons.1 stay
      exact .inr ⟨stays, later, earlier, rfl, stay, stamp⟩
  · rintro (⟨rfl, stamp⟩ | ⟨stays, later, earlier, rfl, stay, stamp⟩)
    · exact ⟨[], h, rfl, nofun, stamp⟩
    · exact ⟨e :: later, earlier, rfl, List.forall_mem_cons.2 ⟨stays, stay⟩, stamp⟩

theorem MadeSince.countP_pos (madeSince : MadeSince h i recipe made) :
    0 < (since i h).countP (RegistryEvent.makesFor i) := by
  induction h with
  | nil => exact absurd madeSince not_madeSince_nil
  | cons e earlier ih =>
    rcases madeSince_cons.1 madeSince with ⟨rfl, -⟩ | ⟨stays, before⟩
    · rw [since_cons rfl, List.countP_cons_of_pos (by simp [RegistryEvent.makesFor])]
      exact Nat.succ_pos _
    · rw [since_cons stays]
      exact Nat.lt_of_lt_of_le (ih before) (List.sublist_cons_self e _).countP_le

/-- Two parts that were made since an interface was registered are the same, when only one was. -/
theorem MadeSince.unique (once : (since i h).countP (RegistryEvent.makesFor i) ≤ 1)
    (isA : MadeSince h i recipe a) (isB : MadeSince h i recipe b) : a = b := by
  induction h with
  | nil => exact absurd isA not_madeSince_nil
  | cons e earlier ih =>
    -- a part that was made last and one that was made before it are two
    have two {c d : Instance (part i)} (last : e = .ended i recipe (.ok c.value))
        (before : MadeSince earlier i recipe d) : False := by
      subst last
      rw [since_cons rfl, List.countP_cons_of_pos (by simp [RegistryEvent.makesFor])] at once
      exact absurd before.countP_pos (by omega)
    rcases madeSince_cons.1 isA with ⟨lastA, stampA⟩ | ⟨stays, beforeA⟩
    · rcases madeSince_cons.1 isB with ⟨lastB, stampB⟩ | ⟨-, beforeB⟩
      · have sameValue : a.value = b.value := by simpa using lastA.symm.trans lastB
        have sameStamp : a.stamp = b.stamp := stampA.trans stampB.symm
        obtain ⟨_, _⟩ := a
        obtain ⟨_, _⟩ := b
        cases sameValue
        cases sameStamp
        rfl
      · exact (two lastA beforeB).elim
    · rcases madeSince_cons.1 isB with ⟨lastB, -⟩ | ⟨-, beforeB⟩
      · exact (two lastB beforeA).elim
      · rw [since_cons stays] at once
        exact ih (Nat.le_trans (List.sublist_cons_self e _).countP_le once) beforeA beforeB

/-- What is kept stays, when an event has to do with other interfaces only. -/
theorem isKept_cons (stays : e.forgets i = false) (unmade : e.makesFor i = false) :
    IsKept (e :: h) i made ↔ IsKept h i made := by
  unfold IsKept
  rw [registered?_cons stays]
  refine exists_congr fun registration => and_congr_right fun _ => and_congr_right fun _ => ?_
  rw [madeSince_cons, stays]
  refine ⟨fun madeSince => ?_, fun before => .inr ⟨rfl, before⟩⟩
  rcases madeSince with ⟨rfl, -⟩ | ⟨-, before⟩
  · simp [RegistryEvent.makesFor] at unmade
  · exact before

theorem not_isKept_of_forgets (forgets : e.forgets i = true) : ¬ IsKept (e :: h) i made := by
  rintro ⟨registration, -, -, madeSince⟩
  rcases madeSince_cons.1 madeSince with ⟨rfl, -⟩ | ⟨stays, -⟩
  · cases forgets
  · rw [forgets] at stays
    cases stays

end Kept

theorem tells_nil (name : ι → String) : Tells ([] : History σ part) { name } where
  made := rfl
  each _ := {
    registered := rfl
    kept := fun _ => ⟨nofun, fun ⟨_, isRegistered, _⟩ => nomatch isRegistered⟩
    new := nofun }

/-- What a registry has behind an interface stays, when an event has to do with others only. -/
theorem TellsOf.cons (tells : TellsOf h r i) (stays : e.forgets i = false) (unmade : e.makesFor i = false)
    (sameRegistration : r'.registration? i = r.registration? i) (sameKept : r'.kept? i = r.kept? i) :
    TellsOf (e :: h) r' i where
  registered := by rw [sameRegistration, registered?_cons stays, tells.registered]
  kept made := by rw [sameKept, isKept_cons stays unmade, tells.kept]
  new registration isRegistered single isNew := by
    rw [registered?_cons stays] at isRegistered
    rw [since_cons stays, List.countP_cons_of_neg (by simp [unmade])]
    exact tells.new registration isRegistered single (sameKept ▸ isNew)

/-- An event at which nothing is forgotten and nothing is made leaves the registry as it was. -/
theorem Tells.cons (tells : Tells h r) (stays : ∀ i, e.forgets i = false) (unmade : e.makes = false) :
    Tells (e :: h) r where
  made := by rw [List.countP_cons_of_neg (by simp [unmade]), tells.made]
  each i := (tells.each i).cons (stays i) (makesFor_eq_false unmade i) rfl rfl

/-- Where what is kept is forgotten, nothing is kept and nothing was made since. -/
theorem tellsOf_of_forgets (forgets : e.forgets i = true)
    (isRegistered : r.registration? i = registered? i (e :: h)) (isNew : r.kept? i = none) :
    TellsOf (e :: h) r i where
  registered := isRegistered
  kept made := by
    rw [isNew]
    exact ⟨nofun, fun isKept => absurd isKept (not_isKept_of_forgets forgets)⟩
  new _ _ _ _ := by
    rw [since_cons_of_forgets forgets]
    rfl

theorem Tells.register (tells : Tells h r) (i : ι) (registration : Registration σ part (part i)) :
    Tells (.registered i registration :: h) (r.register i registration) where
  made := tells.made
  each j := by
    by_cases same : i = j
    · subst same
      exact tellsOf_of_forgets (decide_eq_true rfl) (by simp [registered?]) (by simp)
    · exact (tells.each j).cons (decide_eq_false same) rfl (replaced_ne _ _ same) (replaced_ne _ _ same)

theorem Tells.reset (tells : Tells h r) : Tells (.reset :: h) r.reset where
  made := tells.made
  each i := tellsOf_of_forgets rfl (tells.each i).registered rfl

/-- A part that is made is kept if it is the only one of its interface. -/
theorem Tells.ended (tells : Tells h r) {registration : Registration σ part (part i)}
    (latest : registered? i h = some registration) (isNew : r.kept? i = none) (v : part i) :
    Tells (.ended i registration.recipe (.ok v) :: h)
      (r.count.keepIf registration.single i ⟨r.made, v⟩) where
  made := by
    rw [List.countP_cons_of_pos rfl, Registry.made_keepIf, ← tells.made]
    rfl
  each j := by
    have sameRegistration :
        (r.count.keepIf registration.single i ⟨r.made, v⟩).registration? = r.registration? :=
      Registry.registration?_keepIf r.count registration.single ⟨r.made, v⟩
    by_cases same : i = j
    · subst same
      have latest' : registered? i (.ended i registration.recipe (.ok v) :: h) = some registration :=
        (registered?_cons rfl).trans latest
      refine { registered := ?_, kept := fun made => ?_, new := fun other isOther single isNone => ?_ }
      · rw [sameRegistration, registered?_cons rfl]
        exact (tells.each i).registered
      · cases single : registration.single with
        | false =>
          simp only [Registry.keepIf, Bool.false_eq_true, if_false]
          constructor
          · intro isKept
            cases isNew.symm.trans isKept
          · rintro ⟨other, isOther, isSingle, -⟩
            obtain rfl := Option.some.inj (latest'.symm.trans isOther)
            cases single.symm.trans isSingle
        | true =>
          simp only [Registry.keepIf, if_true, Registry.kept?_keep, Option.some.injEq]
          constructor
          · rintro rfl
            exact ⟨registration, latest', single, madeSince_cons.2 (.inl ⟨rfl, tells.made⟩)⟩
          · rintro ⟨other, isOther, isSingle, madeSince⟩
            obtain rfl := Option.some.inj (latest'.symm.trans isOther)
            rcases madeSince_cons.1 madeSince with ⟨last, stamp⟩ | ⟨-, before⟩
            · obtain ⟨n, w⟩ := made
              obtain rfl : v = w := by simpa using last
              rw [tells.made, ← stamp]
            · have isKept := ((tells.each i).kept made).2 ⟨registration, latest, single, before⟩
              cases isNew.symm.trans isKept
      · obtain rfl := Option.some.inj (latest'.symm.trans isOther)
        simp [Registry.keepIf, single] at isNone
    · exact (tells.each j).cons rfl (decide_eq_false same) (congrFun sameRegistration j)
        (Registry.kept?_keepIf_ne same _ _)

/-- Nothing is kept behind an interface that is not registered for one part. -/
theorem TellsOf.kept?_eq_none (tells : TellsOf h r i)
    (many : ∀ registration, registered? i h = some registration → registration.single = false) :
    r.kept? i = none := by
  refine Option.eq_none_iff_forall_not_mem.2 fun made isKept => ?_
  obtain ⟨registration, isRegistered, single, -⟩ := (tells.kept made).1 isKept
  rw [many registration isRegistered] at single
  cases single

/-- A recipe that was followed for an interface ends so. -/
theorem ends_of_tells (tells : TellsOf h r i) {registration : Registration σ part (part i)}
    (latest : registered? i h = some registration) (isNew : r.kept? i = none)
    {outcome : Except Failure (part i)} (ends : registration.recipe.Ends outcome) :
    Ends h i registration.recipe outcome where
  registered := ⟨registration, latest, rfl, fun single => tells.new registration latest single isNew⟩
  ends := ends

/-- A request that is nested too deep gives no part. -/
theorem gives_of_deep (deep : nesting h = depth) (e : Failure) : Gives depth name h i (.error e) where
  given _ isOk := nomatch isOk
  kept notDeep := absurd notDeep (by omega)
  many notDeep := absurd notDeep (by omega)
  unregistered notDeep := absurd notDeep (by omega)

/-- A request for an interface that is not registered fails. -/
theorem gives_of_missing (unknown : registered? i h = none) :
    Gives depth name h i (.error (.fault (.unregistered (name i)))) where
  given _ isOk := nomatch isOk
  kept _ _ := fun ⟨_, known, _⟩ => nomatch unknown.symm.trans known
  many _ _ known _ := nomatch unknown.symm.trans known
  unregistered _ _ := rfl

/-- A request gives the part that is kept, if it is the only one of its interface. -/
theorem gives_of_kept (tells : TellsOf h r i) {registration : Registration σ part (part i)}
    (latest : registered? i h = some registration) (single : registration.single = true)
    {made : Instance (part i)} (isKept : r.kept? i = some made) : Gives depth name h i (.ok made) where
  given made' isOk := by
    obtain rfl := Except.ok.inj isOk
    obtain ⟨registration', isRegistered, -, madeSince⟩ := (tells.kept made).1 isKept
    exact ⟨registration', isRegistered, madeSince⟩
  kept _ made' isKept' := by
    rw [Option.some.inj (isKept.symm.trans ((tells.kept made').2 isKept'))]
  many _ other isOther many := by
    rw [← Option.some.inj (latest.symm.trans isOther), single] at many
    cases many
  unregistered _ unknown := nomatch unknown.symm.trans latest

/-- A request whose recipe has failed fails. -/
theorem gives_of_failed (tells : TellsOf h r i) {registration : Registration σ part (part i)}
    (latest : registered? i h = some registration) (isNew : r.kept? i = none) (e : Failure) :
    Gives depth name (.ended i registration.recipe (.error e) :: h) i (.error e) where
  given _ isOk := nomatch isOk
  kept _ made isKept := by
    have before := (isKept_cons (e := .ended i registration.recipe (.error e)) rfl rfl).1 isKept
    cases isNew.symm.trans ((tells.kept made).2 before)
  many _ other isOther isMany := by
    obtain rfl := Option.some.inj (latest.symm.trans isOther)
    exact ⟨h, rfl, nofun⟩
  unregistered _ unknown := nomatch unknown.symm.trans latest

/-- A request whose recipe has made a part gives it. -/
theorem gives_of_made (tells : Tells h r) {registration : Registration σ part (part i)}
    (latest : registered? i h = some registration) (isNew : r.kept? i = none) (v : part i) :
    Gives depth name (.ended i registration.recipe (.ok v) :: h) i (.ok ⟨r.made, v⟩) where
  given made isOk := by
    obtain rfl := Except.ok.inj isOk
    exact ⟨registration, latest, madeSince_cons.2 (.inl ⟨rfl, tells.made⟩)⟩
  kept _ made := fun ⟨other, isOther, single, madeSince⟩ => by
    obtain rfl := Option.some.inj (latest.symm.trans isOther)
    have told := (tells.ended latest isNew v).each i
    have isKept := (told.kept made).2 ⟨registration, latest, single, madeSince⟩
    simp only [Registry.keepIf, single, if_true, Registry.kept?_keep, Option.some.injEq] at isKept
    rw [isKept]
  many _ other isOther isMany := by
    obtain rfl := Option.some.inj (latest.symm.trans isOther)
    refine ⟨h, rfl, fun made isOk => ?_⟩
    obtain rfl := Except.ok.inj isOk
    exact tells.made
  unregistered _ unknown := nomatch unknown.symm.trans latest

end History

namespace Registry

open History

variable {depth total : Nat} {within : ι → Prop}

/-- Whatever happens while a recipe is followed for an interface, nothing is kept behind it afterwards. -/
theorem kept?_of_followed {registration : Registration σ part (part i)}
    (isRegistered : r.registration? i = some registration)
    (new : registration.single = true → r.kept? i = none)
    (followed : Happens depth within r (.began i :: h) r' h') (acyclic : Acyclic h')
    (tells : TellsOf h' r' i) :
    registered? i h' = some registration ∧ r'.kept? i = none := by
  have latest : registered? i h' = some registration := by
    rw [← tells.registered, registration?_of_happens followed, isRegistered]
  refine ⟨latest, ?_⟩
  cases single : registration.single with
  | false =>
    refine tells.kept?_eq_none fun other isOther => ?_
    rwa [← Option.some.inj (latest.symm.trans isOther)]
  | true =>
    -- a part that was made for `i` meanwhile would have needed itself
    rw [(kept?_of_isRunning followed acyclic (by simp [isRunning])).1]
    exact new single

/-- Each step of a request leaves a registry that is as its history tells. -/
theorem tells_of_happens (steps : Happens depth within r h r' h') (deep : nesting h + depth = total)
    (acyclic : Acyclic h') (tells : Tells h r) (lawful : Lawful total r.name h) :
    Tells h' r' ∧ Lawful total r'.name h' := by
  induction steps with
  | nothing r h => exact ⟨tells, lawful⟩
  | andThen first second ih ih' =>
    obtain ⟨tells, lawful⟩ := ih deep (acyclic_of_suffix (suffix_of_happens second) acyclic) tells lawful
    exact ih' (by rwa [nesting_of_happens first]) acyclic tells lawful
  | @refused _ i inside r h =>
    have given : Allows total r.name h (.gave i (.error (.fault .circular))) := gives_of_deep deep _
    exact ⟨tells.cons (fun _ => rfl) rfl, lawful.cons given⟩
  | @unregistered _ _ r i inside missing h =>
    have unknown : registered? i h = none := (tells.each i).registered.symm.trans missing
    have given : Allows total r.name h (.gave i (.error (.fault (.unregistered (r.name i))))) :=
      gives_of_missing unknown
    exact ⟨tells.cons (fun _ => rfl) rfl, lawful.cons given⟩
  | @kept _ _ r i registration made inside isRegistered single isKept h =>
    have latest : registered? i h = some registration := (tells.each i).registered.symm.trans isRegistered
    have given : Allows total r.name h (.gave i (.ok made)) :=
      gives_of_kept (tells.each i) latest single isKept
    exact ⟨tells.cons (fun _ => rfl) rfl, lawful.cons given⟩
  | @failed depth _ r r' h h' i registration e inside isRegistered new followed ends ih =>
    obtain ⟨tells', lawful'⟩ :=
      ih (nesting_began deep) acyclic (tells.cons (fun _ => rfl) rfl) (lawful.cons trivial)
    obtain ⟨latest, isNew⟩ := kept?_of_followed isRegistered new followed acyclic (tells'.each i)
    have told : Tells (.ended i registration.recipe (.error e) :: h') r' := tells'.cons (fun _ => rfl) rfl
    have ended : Allows total r'.name h' (.ended i registration.recipe (.error e)) :=
      ends_of_tells (tells'.each i) latest isNew ends
    have given : Allows total r'.name (.ended i registration.recipe (.error e) :: h') (.gave i (.error e)) :=
      gives_of_failed (tells'.each i) latest isNew e
    exact ⟨told.cons (fun _ => rfl) rfl, (lawful'.cons ended).cons given⟩
  | @made depth _ r r' h h' i registration v inside isRegistered new followed ends ih =>
    obtain ⟨tells', lawful'⟩ :=
      ih (nesting_began deep) acyclic (tells.cons (fun _ => rfl) rfl) (lawful.cons trivial)
    obtain ⟨latest, isNew⟩ := kept?_of_followed isRegistered new followed acyclic (tells'.each i)
    -- the part is counted and kept at once, and giving it changes nothing more
    have told := tells'.ended latest isNew v
    have ended : Allows total r'.name h' (.ended i registration.recipe (.ok v)) :=
      ends_of_tells (tells'.each i) latest isNew ends
    have given : Allows total r'.name (.ended i registration.recipe (.ok v) :: h')
        (.gave i (.ok ⟨r'.made, v⟩)) := gives_of_made tells' latest isNew v
    refine ⟨told.cons (fun _ => rfl) rfl, ?_⟩
    rw [name_keepIf]
    exact (lawful'.cons ended).cons given

/-- After all calls a registry is as its history tells. -/
theorem tells_of_hasHistory (happened : r.HasHistory depth h) (acyclic : Acyclic h) :
    Tells h r ∧ Lawful depth r.name h := by
  induction happened with
  | new name => exact ⟨tells_nil name, lawful_nil depth name⟩
  | register before i registration ih =>
    obtain ⟨tells, lawful⟩ := ih acyclic
    exact ⟨tells.register i registration, lawful.cons trivial⟩
  | reset before ih =>
    obtain ⟨tells, lawful⟩ := ih acyclic
    exact ⟨tells.reset, lawful.cons trivial⟩
  | @resolve r h before i s ih =>
    have steps := happens_resolve depth i r s h
    obtain ⟨tells, lawful⟩ := ih (acyclic_of_suffix (suffix_of_happens steps) acyclic)
    have between : nesting h + depth = depth := by rw [nesting_of_hasHistory before, Nat.zero_add]
    exact tells_of_happens steps between acyclic tells lawful

end Registry

namespace History

variable {depth : Nat} {name : ι → String} {registration : Registration σ part (part i)}

theorem Lawful.of_suffix (lawful : Lawful depth name h') (suffix : h <:+ h') : Lawful depth name h :=
  fun e earlier before => lawful e earlier (before.trans suffix)

/-- A part that was made is what its recipe makes. -/
theorem Lawful.ends_of_madeSince (lawful : Lawful depth name h) {recipe : Recipe σ part (part i)}
    {made : Instance (part i)} (madeSince : MadeSince h i recipe made) : recipe.Ends (.ok made.value) := by
  obtain ⟨later, earlier, rfl, -⟩ := madeSince
  have ended : Ends earlier i recipe (.ok made.value) := lawful _ earlier (List.suffix_append later _)
  exact ended.ends

/-- When a recipe has failed, nothing is kept behind its interface. -/
theorem Lawful.not_isKept_of_failed {recipe : Recipe σ part (part i)} {e : Failure}
    (lawful : Lawful depth name (.ended i recipe (.error e) :: h)) (made : Instance (part i)) :
    ¬ IsKept (.ended i recipe (.error e) :: h) i made := by
  rw [isKept_cons rfl rfl]
  rintro ⟨registration, isRegistered, single, madeSince⟩
  have ended : Ends h i recipe (.error e) := lawful _ h List.suffix_rfl
  obtain ⟨other, isOther, -, unmade⟩ := ended.registered
  obtain rfl := Option.some.inj (isRegistered.symm.trans isOther)
  exact absurd madeSince.countP_pos (by rw [unmade single]; exact Nat.lt_irrefl 0)

theorem registered?_eq_none (missing : ∀ registration, .registered i registration ∉ h) :
    registered? i h = none := by
  induction h with
  | nil => rfl
  | cons e earlier ih =>
    have before := ih fun registration isRegistered =>
      missing registration (List.mem_cons_of_mem _ isRegistered)
    cases e with
    | registered j registration =>
      have other : j ≠ i := by
        rintro rfl
        exact missing registration List.mem_cons_self
      simpa [registered?, other] using before
    | _ => exact before

/-- A part that is given was made since its interface was registered and the registry was reset. -/
theorem Lawful.madeSince_of_gave (lawful : Lawful depth name h) {made : Instance (part i)}
    (gave : .gave i (.ok made) ∈ since i h) :
    ∃ registration, registered? i h = some registration ∧ MadeSince h i registration.recipe made := by
  induction h with
  | nil => cases gave
  | cons e earlier ih =>
    cases stays : e.forgets i with
    | true =>
      rw [since_cons_of_forgets stays] at gave
      cases gave
    | false =>
      rw [since_cons stays] at gave
      have given : ∃ registration, registered? i earlier = some registration ∧
          MadeSince earlier i registration.recipe made := by
        rcases List.mem_cons.1 gave with rfl | gave
        · exact (lawful _ earlier List.suffix_rfl).given made rfl
        · exact ih (lawful.of_suffix (List.suffix_cons _ _)) gave
      obtain ⟨registration, isRegistered, madeSince⟩ := given
      rw [registered?_cons stays]
      exact ⟨registration, isRegistered, madeSince_cons.2 (.inr ⟨stays, madeSince⟩)⟩

/-- The only part of its interface is made once. -/
theorem Lawful.countP_since_le (lawful : Lawful depth name h)
    (isRegistered : registered? i h = some registration) (single : registration.single = true) :
    (since i h).countP (RegistryEvent.makesFor i) ≤ 1 := by
  induction h with
  | nil => exact Nat.zero_le 1
  | cons e earlier ih =>
    cases stays : e.forgets i with
    | true =>
      rw [since_cons_of_forgets stays]
      exact Nat.zero_le 1
    | false =>
      rw [registered?_cons stays] at isRegistered
      rw [since_cons stays]
      by_cases makes : e.makesFor i = true
      · -- a recipe is followed for a single part only while none was made
        have noneBefore : (since i earlier).countP (RegistryEvent.makesFor i) = 0 := by
          cases e with
          | ended j recipe outcome =>
            obtain rfl : j = i := by
              cases outcome with
              | ok made => exact of_decide_eq_true makes
              | error _ => cases makes
            obtain ⟨other, isOther, -, unmade⟩ := (lawful _ earlier List.suffix_rfl).registered
            obtain rfl := Option.some.inj (isRegistered.symm.trans isOther)
            exact unmade single
          | _ => cases makes
        exact Nat.le_of_eq (by rw [List.countP_cons_of_pos makes, noneBefore])
      · rw [List.countP_cons_of_neg makes]
        exact ih (lawful.of_suffix (List.suffix_cons _ _)) isRegistered

/-- All requests since an interface was registered for one part give this part. -/
theorem Lawful.eq_of_gave (lawful : Lawful depth name h) (isRegistered : registered? i h = some registration)
    (single : registration.single = true) {a b : Instance (part i)} (gaveA : .gave i (.ok a) ∈ since i h)
    (gaveB : .gave i (.ok b) ∈ since i h) : a = b := by
  obtain ⟨_, latest, madeA⟩ := lawful.madeSince_of_gave gaveA
  obtain ⟨_, latest', madeB⟩ := lawful.madeSince_of_gave gaveB
  obtain rfl := Option.some.inj (latest.symm.trans latest')
  exact madeA.unique (lawful.countP_since_le isRegistered single) madeB

end History

namespace Registry

open History

variable {depth : Nat}

/-- What a registry gives and keeps in all calls that are made one after another, when no part needs itself.
`earlier` is what has happened until some point of its history `h`; of this, `since i earlier` is what has
happened since the latest registration of `i` and the latest reset.  A request is nested too deep when as
many recipes are followed as requests may be nested. -/
theorem parts_of_history (happened : r.HasHistory depth h) (acyclic : Acyclic h) (i : ι) :
    -- a request gives a part that the recipe of the latest registration has made
    (∀ made earlier, .gave i (.ok made) :: earlier <:+ h →
      ∃ registration, registered? i earlier = some registration ∧
        MadeSince earlier i registration.recipe made ∧ registration.recipe.Ends (.ok made.value)) ∧
    -- a part that is the only one of its interface is made once, and all requests give it
    (∀ earlier registration, earlier <:+ h → registered? i earlier = some registration →
      registration.single = true →
      (since i earlier).countP (RegistryEvent.makesFor i) ≤ 1 ∧
        ∀ a b, .gave i (.ok a) ∈ since i earlier → .gave i (.ok b) ∈ since i earlier → a = b) ∧
    -- any other is made at each request, and is new
    (∀ outcome earlier registration, .gave i outcome :: earlier <:+ h → nesting earlier < depth →
      registered? i earlier = some registration → registration.single = false →
      ∃ before, earlier = .ended i registration.recipe (outcome.map Instance.value) :: before ∧
        ∀ made, outcome = .ok made → made.stamp = before.countP RegistryEvent.makes) ∧
    -- the part that is kept is the only one of its interface, as it was made, and requests give it
    (∀ made, r.kept? i = some made ↔ IsKept h i made) ∧
    (∀ made outcome earlier, .gave i outcome :: earlier <:+ h → nesting earlier < depth →
      IsKept earlier i made → outcome = .ok made) ∧
    -- when a recipe has failed, nothing is kept behind its interface
    (∀ made recipe e earlier, .ended i recipe (.error e) :: earlier <:+ h →
      ¬ IsKept (.ended i recipe (.error e) :: earlier) i made) ∧
    -- a request for an interface that was never registered fails
    (∀ outcome earlier, .gave i outcome :: earlier <:+ h → nesting earlier < depth →
      (∀ registration, .registered i registration ∉ earlier) →
      outcome = .error (.fault (.unregistered (r.name i))) ∧
        (Fault.unregistered (r.name i)).kind = .key) := by
  obtain ⟨tells, lawful⟩ := tells_of_hasHistory happened acyclic
  have gives {outcome earlier} (gave : .gave i outcome :: earlier <:+ h) :
      History.Gives depth r.name earlier i outcome := lawful (.gave i outcome) earlier gave
  refine ⟨?given, ?single, ?many, (tells.each i).kept, ?kept, ?failed, ?missing⟩
  case given =>
    intro made earlier gave
    obtain ⟨registration, isRegistered, madeSince⟩ := (gives gave).given made rfl
    have before := lawful.of_suffix ((List.suffix_cons _ _).trans gave)
    exact ⟨registration, isRegistered, madeSince, before.ends_of_madeSince madeSince⟩
  case single =>
    intro earlier registration suffix isRegistered single
    have lawful := lawful.of_suffix suffix
    exact ⟨lawful.countP_since_le isRegistered single,
      fun a b gaveA gaveB => lawful.eq_of_gave isRegistered single gaveA gaveB⟩
  case many =>
    intro outcome earlier registration gave notDeep isRegistered many
    exact (gives gave).many notDeep registration isRegistered many
  case kept =>
    intro made outcome earlier gave notDeep isKept
    exact (gives gave).kept notDeep made isKept
  case failed =>
    intro made recipe e earlier ended
    exact (lawful.of_suffix ended).not_isKept_of_failed made
  case missing =>
    intro outcome earlier gave notDeep unregistered
    exact ⟨(gives gave).unregistered notDeep (registered?_eq_none unregistered), rfl⟩

/-- A part that needs the only one of another interface, asked for twice: it is made twice, and the one that
it needs is made once. -/
theorem parts_of_history_nested :
    let inner : Registration Unit (fun _ : Bool => Nat) Nat := { recipe := .make (pure 5), single := true }
    let outer : Registration Unit (fun _ : Bool => Nat) Nat :=
      { recipe := .need false fun given => .make (pure (given.value + 1)) }
    let s : Session Unit := { world := () }
    let r₀ : Registry Unit (fun _ : Bool => Nat) :=
      (register { name := toString } false inner).register true outer
    let r₁ := ((resolveWithin 2 true).exec r₀ s).2.1
    let r₂ := ((resolveWithin 2 true).exec r₁ s).2.1
    let h := [
      .gave true (.ok ⟨2, 6⟩), .ended true outer.recipe (.ok 6), .gave false (.ok ⟨0, 5⟩), .began true,
      .gave true (.ok ⟨1, 6⟩), .ended true outer.recipe (.ok 6), .gave false (.ok ⟨0, 5⟩),
      .ended false inner.recipe (.ok 5), .began false, .began true,
      .registered true outer, .registered false inner]
    r₂.HasHistory 2 h ∧ Acyclic h ∧ r₂.kept? false = some ⟨0, 5⟩ ∧ r₂.kept? true = none ∧
      (since false h).countP (RegistryEvent.makesFor false) ≤ 1 ∧
      ∀ a b, .gave false (.ok a) ∈ since false h → .gave false (.ok b) ∈ since false h → a = b := by
  intro inner outer s r₀ r₁ r₂ h
  have happened : r₂.HasHistory 2 h :=
    ((((HasHistory.new toString).register false inner).register true outer).resolve true s).resolve true s
  have ranked : History.Ranked Bool.toNat h :=
    ⟨Recipe.needsOnly_need.2 ⟨Nat.zero_lt_one, fun _ => trivial⟩, trivial, trivial⟩
  have acyclic : Acyclic h := (settled_of_ranked happened ranked).1.acyclic
  exact ⟨happened, acyclic, rfl, rfl,
    (parts_of_history happened acyclic false).2.1 h inner List.suffix_rfl rfl rfl⟩

end Registry

end LogSearch
