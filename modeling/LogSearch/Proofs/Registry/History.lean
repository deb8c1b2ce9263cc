import LogSearch.Proofs.Registry.Watched

/-!
# What happens in a registry

A registry is used for a long time: recipes are registered, parts are asked for, also while others are
made, and the registry is reset.  The history of a registry is all of that, the latest first.  Between the
calls it is what the registry writes when it is watched.  The history says which registration of an
interface counts, and where the time begins in which a part that is the only one of its interface may be
kept.

A part needs itself when its recipe is begun while it is followed already.  This never happens where recipes
need interfaces of lower ranks only.

Main statement: `Registry.settled_of_ranked`.
-/

namespace LogSearch

/-- What a list keeps when its head is left out, all its suffixes have. -/
theorem of_suffix {β : Type} {P : List β → Prop} (of_cons : ∀ b l, P (b :: l) → P l) {l l' : List β}
    (suffix : l <:+ l') (holds : P l') : P l := by
  induction l' with
  | nil => exact List.suffix_nil.1 suffix ▸ holds
  | cons b rest ih =>
    rcases List.suffix_cons_iff.1 suffix with rfl | suffix
    · exact holds
    · exact ih suffix (of_cons b rest holds)

variable {σ ι : Type} {part : ι → Type}

/-- Each recipe that is registered needs interfaces of lower ranks only. -/
def Registry.Ranked (rank : ι → Nat) (r : Registry σ part) : Prop :=
  ∀ i registration, r.registration? i = some registration →
    registration.recipe.NeedsOnly fun j => rank j < rank i

namespace History

/-- Each recipe that was registered needs interfaces of lower ranks only. -/
def Ranked (rank : ι → Nat) : History σ part → Prop
  | [] => True
  | .registered i registration :: earlier =>
    (registration.recipe.NeedsOnly fun j => rank j < rank i) ∧ Ranked rank earlier
  | _ :: earlier => Ranked rank earlier

theorem ranked_of_cons {rank : ι → Nat} {e : RegistryEvent σ part} {h : History σ part}
    (ranked : Ranked rank (e :: h)) : Ranked rank h := by
  cases e with
  | registered i registration => exact ranked.2
  | reset | began _ | ended _ _ _ | gave _ _ => exact ranked

/-- How many recipes are followed: they were begun and have not ended. -/
def nesting : History σ part → Nat
  | [] => 0
  | .began _ :: earlier => nesting earlier + 1
  | .ended _ _ _ :: earlier => nesting earlier - 1
  | _ :: earlier => nesting earlier

/-- A recipe that is begun takes one of the levels to which requests may be nested. -/
theorem nesting_began {depth total : Nat} {i : ι} {h : History σ part}
    (deep : nesting h + (depth + 1) = total) : nesting (.began i :: h) + depth = total := by
  simp only [nesting]
  omega

end History

variable [DecidableEq ι]

/-- Calls that are made one after another, in any states of the collaborators, lead from a new registry to
this one, and this has happened.  Requests may be nested so deep, the call itself counted; `resolve` lets
them be nested `deepest`.  What a call gives stands above what the watched registry writes. -/
inductive Registry.HasHistory (depth : Nat) : Registry σ part → History σ part → Prop
  | new (name : ι → String) : HasHistory depth { name } []
  | register {r : Registry σ part} {h : History σ part} (before : HasHistory depth r h) (i : ι)
      (registration : Registration σ part (part i)) :
    HasHistory depth (r.register i registration) (.registered i registration :: h)
  | reset {r : Registry σ part} {h : History σ part} (before : HasHistory depth r h) :
    HasHistory depth r.reset (.reset :: h)
  | resolve {r : Registry σ part} {h : History σ part} (before : HasHistory depth r h) (i : ι)
      (s : Session σ) :
    HasHistory depth ((resolveWithin depth i).exec r s).2.1
      (.gave i ((resolveWithin depth i).exec r s).1 ::
        ((resolveWithin depth i).exec r.watched (s.watched h)).2.2.history)

namespace RegistryEvent

/-- Whether the part that is kept behind an interface is forgotten. -/
def forgets (i : ι) : RegistryEvent σ part → Bool
  | registered j _ => j = i
  | reset => true
  | _ => false

/-- Whether a recipe has ended with a part. -/
def makes : RegistryEvent σ part → Bool
  | ended _ _ (.ok _) => true
  | _ => false

/-- Whether a recipe has ended with a part behind an interface. -/
def makesFor (i : ι) : RegistryEvent σ part → Bool
  | ended j _ (.ok _) => j = i
  | _ => false

end RegistryEvent

namespace History

/-- The latest registration of an interface. -/
def registered? (i : ι) : History σ part → Option (Registration σ part (part i))
  | [] => none
  | .registered j registration :: earlier =>
    if same : j = i then some (same ▸ registration) else registered? i earlier
  | _ :: earlier => registered? i earlier

/-- What has happened since an interface was registered and since the registry was reset. -/
def since (i : ι) (h : History σ part) : History σ part := h.takeWhile fun e => !e.forgets i

/-- Whether a recipe is followed for an interface: it was begun and has not ended. -/
def isRunning (i : ι) : History σ part → Bool
  | [] => false
  | .began j :: earlier => j = i || isRunning i earlier
  | .ended j _ _ :: earlier => j ≠ i && isRunning i earlier
  | _ :: earlier => isRunning i earlier

/-- No recipe was begun for an interface while one was followed for it: no part has needed itself. -/
def Acyclic : History σ part → Prop
  | [] => True
  | .began i :: earlier => isRunning i earlier = false ∧ Acyclic earlier
  | _ :: earlier => Acyclic earlier

theorem acyclic_of_cons {e : RegistryEvent σ part} {h : History σ part} (acyclic : Acyclic (e :: h)) :
    Acyclic h := by
  cases e with
  | began i => exact acyclic.2
  | registered _ _ | reset | ended _ _ _ | gave _ _ => exact acyclic

theorem acyclic_of_suffix {h h' : History σ part} (suffix : h <:+ h') (acyclic : Acyclic h') : Acyclic h :=
  of_suffix (fun _ _ => acyclic_of_cons) suffix acyclic

/-- A recipe is begun for another interface than those for which recipes are followed. -/
theorem ne_of_isRunning {i j : ι} {h h' : History σ part} (begun : .began j :: h <:+ h')
    (acyclic : Acyclic h') (running : isRunning i h = true) : j ≠ i := by
  rintro rfl
  have idle := (acyclic_of_suffix begun acyclic).1
  rw [running] at idle
  cases idle

end History

namespace Registry

section Frame

variable {depth : Nat} {within : ι → Prop} {r r' : Registry σ part} {h h' : History σ part}

/-- A call happens in steps, and what it gives is the last of them. -/
theorem happens_resolve (depth : Nat) (i : ι) (r : Registry σ part) (s : Session σ) (h : History σ part) :
    Happens depth (· = i) r h ((resolveWithin depth i).exec r s).2.1
      (.gave i ((resolveWithin depth i).exec r s).1 ::
        ((resolveWithin depth i).exec r.watched (s.watched h)).2.2.history) := by
  obtain ⟨h', ran, request⟩ := exec_watched depth i (· = i) rfl r s h
  rw [ran]
  exact request

theorem suffix_of_happens (steps : Happens depth within r h r' h') : h <:+ h' := by
  induction steps with
  | nothing r h => exact List.suffix_rfl
  | andThen first second ih ih' => exact ih.trans ih'
  | refused inside r h => exact List.suffix_cons _ h
  | unregistered inside missing h => exact List.suffix_cons _ h
  | kept inside isRegistered single isKept h => exact List.suffix_cons _ h
  | failed inside isRegistered new followed ends ih | made inside isRegistered new followed ends ih =>
    exact (List.suffix_cons _ _).trans (ih.trans ((List.suffix_cons _ _).trans (List.suffix_cons _ _)))

/-- A request leaves the registrations. -/
theorem registration?_of_happens (steps : Happens depth within r h r' h') :
    r'.registration? = r.registration? := by
  induction steps with
  | nothing | refused | unregistered | kept => rfl
  | andThen first second ih ih' => exact ih'.trans ih
  | failed inside isRegistered new followed ends ih => exact ih
  | made inside isRegistered new followed ends ih => exact (registration?_keepIf _ _ _).trans ih

/-- The recipes that a request begins have ended after it. -/
theorem nesting_of_happens (steps : Happens depth within r h r' h') :
    History.nesting h' = History.nesting h := by
  induction steps with
  | nothing | refused | unregistered | kept => rfl
  | andThen first second ih ih' => exact ih'.trans ih
  | failed inside isRegistered new followed ends ih | made inside isRegistered new followed ends ih =>
    simp [History.nesting, ih]

/-- No recipe is followed between the calls. -/
theorem nesting_of_hasHistory (happened : r.HasHistory depth h) : History.nesting h = 0 := by
  induction happened with
  | new name => rfl
  | register before i registration ih | reset before ih => exact ih
  | @resolve r h before i s ih => exact (nesting_of_happens (happens_resolve depth i r s h)).trans ih

/-- While a recipe is followed for an interface, requests leave the part that is kept behind it. -/
theorem kept?_of_isRunning {i : ι} (steps : Happens depth within r h r' h')
    (acyclic : History.Acyclic h') (running : History.isRunning i h = true) :
    r'.kept? i = r.kept? i ∧ History.isRunning i h' = true := by
  induction steps with
  | nothing | refused | unregistered | kept => exact ⟨rfl, running⟩
  | andThen first second ih ih' =>
    obtain ⟨same, running⟩ := ih (History.acyclic_of_suffix (suffix_of_happens second) acyclic) running
    obtain ⟨same', running⟩ := ih' acyclic running
    exact ⟨same'.trans same, running⟩
  | failed inside isRegistered new followed ends ih =>
    -- the recipe is for another interface, or a part would need itself
    have other := History.ne_of_isRunning (suffix_of_happens followed) acyclic running
    obtain ⟨same, running⟩ := ih acyclic (by simp [History.isRunning, running])
    exact ⟨same, by simp [History.isRunning, other, running]⟩
  | made inside isRegistered new followed ends ih =>
    have other := History.ne_of_isRunning (suffix_of_happens followed) acyclic running
    obtain ⟨same, running⟩ := ih acyclic (by simp [History.isRunning, running])
    exact ⟨(kept?_keepIf_ne other _ _).trans same, by simp [History.isRunning, other, running]⟩

end Frame

end Registry

/-! ### Recipes that need interfaces of lower ranks only -/

namespace History

/-- Since `h`, which `h'` continues, no part has needed itself, and each recipe that was begun has ended. -/
structure Settled (h h' : History σ part) : Prop where
  acyclic : Acyclic h'
  running : ∀ i, isRunning i h' = isRunning i h

theorem Settled.trans {h h' h'' : History σ part} (first : Settled h h') (second : Settled h' h'') :
    Settled h h'' where
  acyclic := second.acyclic
  running i := (second.running i).trans (first.running i)

/-- A recipe that was begun and has ended leaves what is followed, when none was followed for its
interface. -/
theorem Settled.ended {h h' : History σ part} {i : ι} (followed : Settled (.began i :: h) h')
    (idle : isRunning i h = false) (recipe : Recipe σ part (part i)) (outcome : Except Failure (part i))
    (given : Except Failure (Instance (part i))) :
    Settled h (.gave i given :: .ended i recipe outcome :: h') where
  acyclic := followed.acyclic
  running j := by
    simp only [isRunning, followed.running j]
    by_cases same : i = j
    · simp [same, ← idle]
    · simp [same]

end History

namespace Registry

open History

variable {rank : ι → Nat} {depth : Nat} {within : ι → Prop} {r r' : Registry σ part} {h h' : History σ part}

theorem Ranked.of_happens (ranked : r.Ranked rank) (steps : Happens depth within r h r' h') :
    r'.Ranked rank := by
  unfold Ranked
  rwa [registration?_of_happens steps]

/-- Requests for interfaces of lower ranks than all for which recipes are followed are answered so that no
part needs itself. -/
theorem settled_of_happens (steps : Happens depth within r h r' h') {bound : Nat} (ranked : r.Ranked rank)
    (below : ∀ i, within i → rank i < bound) (acyclic : Acyclic h)
    (above : ∀ i, isRunning i h = true → bound ≤ rank i) : Settled h h' := by
  -- what a recipe asks for is below its interface, and all that is followed by then is not
  have begins {i : ι} {h : History σ part} {bound : Nat} (lower : rank i < bound) (acyclic : Acyclic h)
      (above : ∀ i, isRunning i h = true → bound ≤ rank i) :
      isRunning i h = false ∧ ∀ j, isRunning j (.began i :: h) = true → rank i ≤ rank j := by
    refine ⟨Bool.eq_false_iff.2 fun running => Nat.not_lt.2 (above i running) lower, fun j running => ?_⟩
    rcases Bool.or_eq_true_iff.1 running with same | running
    · exact Nat.le_of_eq (congrArg rank (of_decide_eq_true same))
    · exact Nat.le_trans (Nat.le_of_lt lower) (above j running)
  induction steps generalizing bound with
  | nothing | refused | unregistered | kept => exact ⟨acyclic, fun _ => rfl⟩
  | andThen first second ih ih' =>
    have settled := ih ranked below acyclic above
    exact settled.trans (ih' (ranked.of_happens first) below settled.acyclic fun i running =>
      above i (settled.running i ▸ running))
  | @failed _ _ _ _ _ _ i registration e inside isRegistered new followed ends ih =>
    obtain ⟨idle, notBelow⟩ := begins (below i inside) acyclic above
    have asks := fun j asked => (ranked i registration isRegistered).of_asks (i := j) asked
    exact (ih ranked asks ⟨idle, acyclic⟩ notBelow).ended idle _ _ _
  | @made _ _ _ _ _ _ i registration v inside isRegistered new followed ends ih =>
    obtain ⟨idle, notBelow⟩ := begins (below i inside) acyclic above
    have asks := fun j asked => (ranked i registration isRegistered).of_asks (i := j) asked
    exact (ih ranked asks ⟨idle, acyclic⟩ notBelow).ended idle _ _ _

/-- In a registry whose recipes need interfaces of lower ranks only, no part ever needs itself. -/
theorem settled_of_ranked (happened : r.HasHistory depth h) (ranked : History.Ranked rank h) :
    Settled [] h ∧ r.Ranked rank := by
  induction happened with
  | new name => exact ⟨⟨trivial, fun _ => rfl⟩, nofun⟩
  | register before i registration ih =>
    obtain ⟨settled, ranked'⟩ := ih ranked.2
    refine ⟨⟨settled.acyclic, settled.running⟩, fun j other isRegistered => ?_⟩
    by_cases same : i = j
    · subst same
      obtain rfl := Option.some.inj ((registration?_register _ i registration).symm.trans isRegistered)
      exact ranked.1
    · exact ranked' j other (by simpa [register, same] using isRegistered)
  | reset before ih =>
    obtain ⟨settled, ranked'⟩ := ih ranked
    exact ⟨⟨settled.acyclic, settled.running⟩, ranked'⟩
  | @resolve r h before i s ih =>
    have steps := happens_resolve depth i r s h
    obtain ⟨settled, ranked'⟩ := ih (of_suffix (fun _ _ => ranked_of_cons) (suffix_of_happens steps) ranked)
    have below : ∀ j, j = i → rank j < rank i + 1 := by
      rintro _ rfl
      exact Nat.lt_succ_self _
    have next := settled_of_happens steps ranked' below settled.acyclic fun j running => by
      rw [settled.running j] at running
      cases running
    exact ⟨settled.trans next, ranked'.of_happens steps⟩

end Registry

end LogSearch
