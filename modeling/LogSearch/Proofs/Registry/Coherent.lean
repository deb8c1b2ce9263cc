import LogSearch.Proofs.Registry

/-!
# The parts that are kept belong together

Where every interface has the only part that a recipe makes, a part that is kept was made of the parts that
are kept for the interfaces that it needs, however the collaborators change meanwhile and whatever has
failed before.  This takes recipes that do not need themselves, directly or through others, which is said
by ranks: a recipe needs interfaces of lower ranks only.

A part is known by its stamp.  In any registry, whatever is registered there, a part that is made has a later
stamp than all that were given before.

Main statements: `Registry.ensures_resolveWithin` and `Registry.counted_resolveWithin`.
-/

namespace LogSearch

variable {σ ι : Type} {part : ι → Type} {α β : Type}

/-- Started on the registry `r`, whatever the collaborators do, the step `x` ends with a result and a
registry of which `P` holds. -/
def Assembling.Ensures (x : Assembling σ part α) (r : Registry σ part)
    (P : Except Failure α → Registry σ part → Prop) : Prop :=
  ∀ s, P (exec x r s).1 (exec x r s).2.1

namespace Assembling

variable {x : Assembling σ part α} {f : α → Assembling σ part β} {r : Registry σ part}
  {P : Except Failure α → Registry σ part → Prop} {Q : Except Failure β → Registry σ part → Prop}

theorem Ensures.imp {P' : Except Failure α → Registry σ part → Prop} (h : x.Ensures r P)
    (weaker : ∀ outcome r', P outcome r' → P' outcome r') : x.Ensures r P' :=
  fun s => weaker _ _ (h s)

theorem ensures_ofFlow {step : Flow σ α} (h : ∀ s, P (step.exec s).1 r) : Ensures (.ofFlow step) r P := h

theorem ensures_act_bind {change : Session σ → Session σ} {f : Session σ → Assembling σ part β}
    (next : ∀ s, (f s).Ensures r Q) : Ensures (act change >>= f) r Q := by
  intro s
  rw [exec_bind, exec_act]
  exact next s (change s)

theorem Ensures.attempt_bind {f : Except Failure α → Assembling σ part β} (first : x.Ensures r P)
    (next : ∀ outcome r', P outcome r' → (f outcome).Ensures r' Q) : Ensures (attempt x >>= f) r Q := by
  intro s
  rw [exec_bind, exec_attempt]
  exact next _ _ (first s) _

end Assembling

namespace Recipe

/-- A recipe needs such interfaces only. -/
def NeedsOnly (within : ι → Prop) : Recipe σ part α → Prop
  | .make _ => True
  | .act _ next => ∀ s, NeedsOnly within (next s)
  | .ask i next => within i ∧ ∀ outcome, NeedsOnly within (next outcome)

/-- What a recipe makes, in some state of the collaborators, of the parts that a registry keeps. -/
def MakesOf (r : Registry σ part) : Recipe σ part α → α → Prop
  | .make step, v => ∃ s, (step.exec s).1 = .ok v
  | .act _ next, v => ∃ s, MakesOf r (next s) v
  | .ask i next, v =>
    ∃ outcome, (∀ given, outcome = .ok given → r.kept? i = some given) ∧ MakesOf r (next outcome) v

/-- How a recipe fails, in some state of the collaborators, other than by passing on how it failed to have
a part. -/
def FailsWith : Recipe σ part α → Failure → Prop
  | .make step, e => ∃ s, (step.exec s).1 = .error e
  | .act _ next, e => ∃ s, FailsWith (next s) e
  | .ask _ next, e => ∃ outcome, outcome ≠ .error e ∧ FailsWith (next outcome) e

variable {i : ι} {next : Instance (part i) → Recipe σ part α}

theorem needsOnly_need {within : ι → Prop} :
    (need i next).NeedsOnly within ↔ within i ∧ ∀ given, (next given).NeedsOnly within := by
  refine and_congr_right fun _ => ⟨fun needs given => needs (.ok given), fun needs outcome => ?_⟩
  cases outcome with
  | error e => trivial
  | ok given => exact needs given

theorem makesOf_need {r : Registry σ part} {v : α} :
    (need i next).MakesOf r v ↔ ∃ given, r.kept? i = some given ∧ (next given).MakesOf r v := by
  constructor
  · rintro ⟨e | given, isKept, makes⟩
    · obtain ⟨s, failed⟩ := makes
      cases failed
    · exact ⟨given, isKept given rfl, makes⟩
  · rintro ⟨given, isKept, makes⟩
    exact ⟨.ok given, fun _ same => Except.ok.inj same ▸ isKept, makes⟩

theorem failsWith_need {e : Failure} :
    (need i next).FailsWith e ↔ ∃ given, (next given).FailsWith e := by
  constructor
  · rintro ⟨e' | given, other, fails⟩
    · obtain ⟨s, failed⟩ := fails
      exact absurd (congrArg Except.error (Except.error.inj failed)) other
    · exact ⟨given, fails⟩
  · rintro ⟨given, fails⟩
    exact ⟨.ok given, nofun, fails⟩

end Recipe

/-- The registry `r'` keeps all that `r` keeps, and more behind such interfaces only. -/
structure Registry.Grows (within : ι → Prop) (r r' : Registry σ part) : Prop where
  kept : ∀ i made, r.kept? i = some made → r'.kept? i = some made
  others : ∀ i, ¬ within i → r'.kept? i = r.kept? i

/-- Every interface has the only part that a recipe makes, and the parts that are kept are what their
recipes make of each other, of at least the stamp `start`. -/
structure Registry.Coherent (recipes : (i : ι) → Recipe σ part (part i)) (start : Nat)
    (r : Registry σ part) : Prop where
  registered : ∀ i, r.registration? i = some { recipe := recipes i, single := true }
  started : start ≤ r.made
  kept : ∀ i made, r.kept? i = some made → start ≤ made.stamp ∧ (recipes i).MakesOf r made.value

/-- The parts that are kept have the stamps of parts that were made. -/
def Registry.Counted (r : Registry σ part) : Prop := ∀ i made, r.kept? i = some made → made.stamp < r.made

namespace Registry

variable {within wider : ι → Prop} {recipes : (i : ι) → Recipe σ part (part i)} {start : Nat}
  {r r' r'' : Registry σ part}

theorem Grows.refl (within : ι → Prop) (r : Registry σ part) : Grows within r r where
  kept _ _ isKept := isKept
  others _ _ := rfl

theorem Grows.trans (first : Grows within r r') (second : Grows within r' r'') : Grows within r r'' where
  kept i made isKept := second.kept i made (first.kept i made isKept)
  others i outside := (second.others i outside).trans (first.others i outside)

theorem Grows.mono (h : Grows within r r') (wide : ∀ i, within i → wider i) : Grows wider r r' where
  kept := h.kept
  others i outside := h.others i fun inside => outside (wide i inside)

/-- A recipe for one value makes that value. -/
theorem eq_of_makesOf_pure {v made : α} (h : (Recipe.make (pure v)).MakesOf r made) : made = v := by
  obtain ⟨s, makes⟩ := h
  rw [Flow.exec_pure] at makes
  exact (Except.ok.inj makes).symm

/-- What a recipe makes of the parts that are kept it makes of them when there are more. -/
theorem makesOf_of_grows {recipe : Recipe σ part α} {v : α} (grows : Grows within r r')
    (makes : recipe.MakesOf r v) : recipe.MakesOf r' v := by
  induction recipe with
  | make step => exact makes
  | act change next ih =>
    obtain ⟨s, makes⟩ := makes
    exact ⟨s, ih s makes⟩
  | ask i next ih =>
    obtain ⟨outcome, isKept, makes⟩ := makes
    exact ⟨outcome, fun given same => grows.kept i given (isKept given same), ih outcome makes⟩

/-- How a step ends that gives the part behind an interface of a coherent registry: the part is kept then,
or a recipe behind such an interface has failed. -/
structure Gives (recipes : (i : ι) → Recipe σ part (part i)) (start : Nat) (within : ι → Prop)
    (r : Registry σ part) (i : ι) (outcome : Except Failure (Instance (part i)))
    (r' : Registry σ part) : Prop where
  coherent : r'.Coherent recipes start
  grows : Grows within r r'
  given : ∀ made, outcome = .ok made → r'.kept? i = some made
  failed : ∀ e, outcome = .error e → ∃ j, within j ∧ (recipes j).FailsWith e

/-- A recipe that is followed makes something of the parts that are kept then, or it fails, or one of those
does that it needs. -/
theorem ensures_follow {resolve : (i : ι) → Assembling σ part (Instance (part i))}
    (each : ∀ i, within i → ∀ r, r.Coherent recipes start →
      (resolve i).Ensures r (Gives recipes start within r i))
    (recipe : Recipe σ part α) (needs : recipe.NeedsOnly within) (h : r.Coherent recipes start) :
    (recipe.follow resolve).Ensures r fun outcome r' =>
      r'.Coherent recipes start ∧ Grows within r r' ∧ (∀ v, outcome = .ok v → recipe.MakesOf r' v) ∧
        ∀ e, outcome = .error e → recipe.FailsWith e ∨ ∃ j, within j ∧ (recipes j).FailsWith e := by
  induction recipe generalizing r with
  | make step =>
    refine Assembling.ensures_ofFlow fun s => ⟨h, .refl within r, ?_, ?_⟩
    · intro v made
      exact ⟨s, made⟩
    · intro e failed
      exact .inl ⟨s, failed⟩
  | act change next ih =>
    refine Assembling.ensures_act_bind fun s => (ih s (needs s) h).imp ?_
    rintro outcome r' ⟨coherent, grows, makes, fails⟩
    refine ⟨coherent, grows, fun v made => ⟨s, makes v made⟩, fun e failed => ?_⟩
    exact (fails e failed).imp_left fun failed => ⟨s, failed⟩
  | ask i next ih =>
    obtain ⟨inside, needs⟩ := needs
    refine (each i inside r h).attempt_bind fun given r' gave => ?_
    refine (ih given (needs given) gave.coherent).imp ?_
    rintro outcome r'' ⟨coherent, grows, makes, fails⟩
    have isKept : ∀ made, given = .ok made → r''.kept? i = some made :=
      fun made same => grows.kept i made (gave.given made same)
    refine ⟨coherent, gave.grows.trans grows, fun v made => ⟨given, isKept, makes v made⟩, ?_⟩
    intro e failed
    -- A failure that is passed on is that of a recipe behind the interface that was asked for.
    by_cases passed : given = .error e
    · exact .inr (gave.failed e passed)
    · exact (fails e failed).imp_left fun failed => ⟨given, passed, failed⟩

/-- Parts are counted as they are made: a step leaves a registry whose parts are counted and in which no
fewer were made, and a part that it gives is one of those. -/
def Counts (r : Registry σ part) (P : α → Nat → Prop) (outcome : Except Failure α)
    (r' : Registry σ part) : Prop :=
  r'.Counted ∧ r.made ≤ r'.made ∧ ∀ a, outcome = .ok a → P a r'.made

theorem counted_follow {resolve : (i : ι) → Assembling σ part (Instance (part i))}
    (each : ∀ i r, r.Counted → (resolve i).Ensures r (Counts r fun made n => made.stamp < n))
    (recipe : Recipe σ part α) (h : r.Counted) :
    (recipe.follow resolve).Ensures r (Counts r fun _ _ => True) := by
  induction recipe generalizing r with
  | make step => exact Assembling.ensures_ofFlow fun s => ⟨h, Nat.le_refl _, fun _ _ => trivial⟩
  | act change next ih => exact Assembling.ensures_act_bind fun s => ih s h
  | ask i next ih =>
    refine (each i r h).attempt_bind ?_
    rintro given r' ⟨counted, more, -⟩
    refine (ih given counted).imp ?_
    rintro outcome r'' ⟨counted, evenMore, -⟩
    exact ⟨counted, Nat.le_trans more evenMore, fun _ _ => trivial⟩

theorem Counted.count (h : r.Counted) : Counted { r with made := r.made + 1 } :=
  fun i made isKept => Nat.lt_succ_of_lt (h i made isKept)

/-- A part that is made gets the next stamp. -/
theorem counted_stamped {x : Assembling σ part α} (h : x.Ensures r (Counts r fun _ _ => True)) :
    (Assembling.stamped x).Ensures r (Counts r fun made n => made.stamp < n) := by
  intro s
  have counts := h s
  rw [Assembling.exec_stamped]
  generalize Assembling.exec x r s = ran at counts ⊢
  obtain ⟨e | v, r', s'⟩ := ran
  · exact ⟨counts.1, counts.2.1, nofun⟩
  · obtain ⟨counted, more, -⟩ := counts
    refine ⟨counted.count, Nat.le_succ_of_le more, ?_⟩
    intro made same
    obtain rfl := Except.ok.inj same
    exact Nat.lt_succ_self _

section Resolve

variable [DecidableEq ι] {i : ι}

/-- An interface gives the part that is kept, and changes nothing. -/
theorem exec_resolve_of_kept (h : r.Coherent recipes start) {kept : Instance (part i)}
    (isKept : r.kept? i = some kept) (s : Session σ) : (resolve i).exec r s = (.ok kept, r, s) :=
  exec_resolveWithin_of_kept (deepest - 1) (h.registered i) rfl isKept s

/-- The registry that keeps one more part, with the next stamp. -/
def extended (r : Registry σ part) (i : ι) (v : part i) : Registry σ part :=
  keep { r with made := r.made + 1 } i ⟨r.made, v⟩

theorem kept?_extended_of_ne {v : part i} {j : ι} (other : i ≠ j) :
    (r.extended i v).kept? j = r.kept? j :=
  replaced_ne r.kept? (some ⟨r.made, v⟩) other

theorem grows_extended {v : part i} (new : r.kept? i = none) (inside : within i) :
    Grows within r (r.extended i v) where
  kept j made isKept := by
    have other : i ≠ j := by
      rintro rfl
      rw [new] at isKept
      cases isKept
    rwa [kept?_extended_of_ne other]
  others j outside := by
    apply kept?_extended_of_ne
    rintro rfl
    exact outside inside

theorem Coherent.extended {v : part i} (h : r.Coherent recipes start) (new : r.kept? i = none)
    (makes : (recipes i).MakesOf r v) : (r.extended i v).Coherent recipes start where
  registered := h.registered
  started := Nat.le_succ_of_le h.started
  kept j made isKept := by
    have grows : Grows (· = i) r (r.extended i v) := grows_extended new rfl
    by_cases same : i = j
    · subst same
      obtain rfl := Option.some.inj ((kept?_keep _ i ⟨r.made, v⟩).symm.trans isKept)
      exact ⟨h.started, makesOf_of_grows grows makes⟩
    · rw [kept?_extended_of_ne same] at isKept
      obtain ⟨late, makes⟩ := h.kept j made isKept
      exact ⟨late, makesOf_of_grows grows makes⟩

/-- The part behind an interface is the one that is kept, or is made of the parts that are kept.  It is
not there only when a recipe fails, and parts of higher ranks stay as they are. -/
theorem ensures_resolveWithin {rank : ι → Nat}
    (ranked : ∀ i, (recipes i).NeedsOnly fun j => rank j < rank i) (depth : Nat) (i : ι)
    (deep : rank i < depth) (r : Registry σ part) (h : r.Coherent recipes start) :
    (resolveWithin depth i).Ensures r (Gives recipes start (fun j => rank j ≤ rank i) r i) := by
  induction depth generalizing i r with
  | zero => exact absurd deep (Nat.not_lt_zero _)
  | succ depth ih =>
    intro s
    cases isKept : r.kept? i with
    | some made =>
      rw [exec_resolveWithin_of_kept depth (h.registered i) rfl isKept]
      refine ⟨h, .refl _ r, ?_, nofun⟩
      intro other same
      obtain rfl := Except.ok.inj same
      exact isKept
    | none =>
      have needed : ∀ j, rank j < rank i → ∀ r, r.Coherent recipes start →
          (resolveWithin depth j).Ensures r (Gives recipes start (fun k => rank k < rank i) r j) := by
        intro j lower r h
        refine (ih j (by omega) r h).imp ?_
        intro outcome r' gave
        have inside : ∀ k, rank k ≤ rank j → rank k < rank i := fun k low => by omega
        refine ⟨gave.coherent, gave.grows.mono inside, gave.given, ?_⟩
        intro e failed
        obtain ⟨k, low, fails⟩ := gave.failed e failed
        exact ⟨k, inside k low, fails⟩
      have followed := ensures_follow needed (recipes i) (ranked i) h s
      rw [exec_resolveWithin_of_new depth (h.registered i) rfl isKept]
      generalize ((recipes i).follow (resolveWithin depth)).exec r s = ran at followed ⊢
      obtain ⟨e | v, r', s'⟩ := ran
      · obtain ⟨coherent, grows, -, fails⟩ := followed
        refine ⟨coherent, grows.mono fun k => Nat.le_of_lt, nofun, ?_⟩
        intro e' failed
        obtain rfl := Except.error.inj failed
        rcases fails e rfl with fails | ⟨k, low, fails⟩
        · exact ⟨i, Nat.le_refl _, fails⟩
        · exact ⟨k, Nat.le_of_lt low, fails⟩
      · obtain ⟨coherent, grows, makes, -⟩ := followed
        -- What the recipe needs is of lower ranks, so that there is still no part behind `i`.
        have new : r'.kept? i = none := (grows.others i (Nat.lt_irrefl _)).trans isKept
        have grown : Grows (fun j => rank j ≤ rank i) r' (r'.extended i v) :=
          grows_extended new (Nat.le_refl _)
        refine ⟨coherent.extended new (makes v rfl), (grows.mono fun k => Nat.le_of_lt).trans grown, ?_,
          nofun⟩
        intro made same
        obtain rfl := Except.ok.inj same
        exact kept?_keep _ i _

theorem Counted.extended {v : part i} (h : r.Counted) : (r.extended i v).Counted := by
  intro j made isKept
  by_cases same : i = j
  · subst same
    obtain rfl := Option.some.inj ((kept?_keep _ i ⟨r.made, v⟩).symm.trans isKept)
    exact Nat.lt_succ_self _
  · rw [kept?_extended_of_ne same] at isKept
    exact h.count j made isKept

/-- Whatever is registered, the parts that are given are counted. -/
theorem counted_resolveWithin (depth : Nat) (i : ι) (r : Registry σ part) (h : r.Counted) :
    (resolveWithin depth i).Ensures r (Counts r fun made n => made.stamp < n) := by
  induction depth generalizing i r with
  | zero => exact fun _ => ⟨h, Nat.le_refl _, nofun⟩
  | succ depth ih =>
    intro s
    cases registered : r.registration? i with
    | none =>
      rw [exec_resolveWithin_of_none depth registered]
      exact ⟨h, Nat.le_refl _, nofun⟩
    | some registration =>
      have followed := counted_follow ih registration.recipe h
      cases single : registration.single with
      | false =>
        rw [exec_resolveWithin_of_many depth registered single]
        exact counted_stamped followed s
      | true =>
        cases isKept : r.kept? i with
        | some made =>
          rw [exec_resolveWithin_of_kept depth registered single isKept]
          refine ⟨h, Nat.le_refl _, ?_⟩
          intro other same
          obtain rfl := Except.ok.inj same
          exact h i made isKept
        | none =>
          have counts := followed s
          rw [exec_resolveWithin_of_new depth registered single isKept]
          generalize (registration.recipe.follow (resolveWithin depth)).exec r s = ran at counts ⊢
          obtain ⟨e | v, r', s'⟩ := ran
          · exact ⟨counts.1, counts.2.1, nofun⟩
          · obtain ⟨counted, more, -⟩ := counts
            refine ⟨counted.extended, Nat.le_succ_of_le more, ?_⟩
            intro made same
            obtain rfl := Except.ok.inj same
            exact Nat.lt_succ_self _

end Resolve

end Registry

end LogSearch
