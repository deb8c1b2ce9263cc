import LogSearch.Proofs.Registry.Coherent
import LogSearch.Setup

/-!
# A configuration leaves nothing of an earlier one

The registry of a search program lives long: parts are registered, asked for and forgotten, and it may be
configured again while parts of an earlier configuration are in use.  As a configuration registers every
part anew, all parts that are given after it are made as its settings say, and out of each other.

Main statement: `SearchRegistry.service_of_configured`.
-/

namespace LogSearch

variable {σ : Type} {host : Host σ} {settings : Settings}

namespace Settings

/-- The types of fields out of the file that settings name. -/
def readTypes (host : Host σ) (settings : Settings) : Flow σ TypeSource := do
  let found ← host.fileAt settings.typesPath
  return .table (← TypeTable.ofFile settings.typesPath found)

/-- The parts of a service are those that settings make.  Types that do not come from a file are asked for
with the scope of the service, which is the same instance. -/
structure Makes (settings : Settings) (host : Host σ) (p : ServiceParts) : Prop where
  builder : p.builder.value = { highlighting := settings.highlighting }
  backend : p.backend.value =
    { host := .str settings.host, portNumber := .int settings.portNumber, scheme := .str settings.scheme
      timeout := .float settings.timeout }
  decorators : p.decorators.value = .builtin
  scope : p.scope.value =
    { default := .str settings.indices
      ofStream := settings.streamIndices.map fun (stream, name) => (.str stream, .str name) }
  file : settings.typesSource = "file" →
    ∃ s, ((settings.readTypes host).exec s).1 = .ok p.fieldTypes.value
  mappings : settings.typesSource ≠ "file" →
    p.fieldTypes.value = .mappings (settings.scheme ++ "://" ++ settings.host ++ ":" ++
      String.ofList (Text.integer settings.portNumber)) p.scope settings.timeout

end Settings

namespace SearchPart

/-- The part behind each interface that a service was made of.  Behind its own it stands itself. -/
def behind (p : Instance ServiceParts) : (part : SearchPart) → Instance (Kind part)
  | scope => p.value.scope
  | backend => p.value.backend
  | fieldTypes => p.value.fieldTypes
  | decorators => p.value.decorators
  | builder => p.value.builder
  | service => p

/-- How many parts stand below a part, one needing the other. -/
def rank : SearchPart → Nat
  | scope | backend | decorators | builder => 0
  | fieldTypes => 1
  | service => 2

theorem rank_lt_deepest (part : SearchPart) : part.rank < Registry.deepest := by
  cases part <;> decide

theorem recipe_fieldTypes_file (source : settings.typesSource = "file") :
    recipe host settings fieldTypes = .make (settings.readTypes host) := if_pos source

theorem recipe_fieldTypes_mappings (source : settings.typesSource ≠ "file") :
    recipe host settings fieldTypes = .need scope fun scope =>
      .make (pure (.mappings settings.backend.baseUrl scope settings.timeout)) := if_neg source

theorem recipe_service (host : Host σ) (settings : Settings) :
    recipe host settings service =
      .need builder fun builder => .need fieldTypes fun fieldTypes => .need backend fun backend =>
        .need decorators fun decorators => .need scope fun scope =>
          .make (pure { builder, fieldTypes, backend, decorators, scope }) := rfl

/-- No part needs itself, directly or through others. -/
theorem needsOnly_recipe (host : Host σ) (settings : Settings) (part : SearchPart) :
    (recipe host settings part).NeedsOnly fun other => other.rank < part.rank := by
  cases part with
  | scope | backend | decorators | builder => trivial
  | fieldTypes =>
    by_cases source : settings.typesSource = "file"
    · rw [recipe_fieldTypes_file source]
      trivial
    · rw [recipe_fieldTypes_mappings source, Recipe.needsOnly_need]
      exact ⟨by decide, fun _ => trivial⟩
  | service =>
    simp only [recipe_service, Recipe.needsOnly_need]
    exact ⟨by decide, fun _ => ⟨by decide, fun _ => ⟨by decide, fun _ => ⟨by decide, fun _ =>
      ⟨by decide, fun _ => trivial⟩⟩⟩⟩⟩

/-- Only the types of fields can fail to be made, and only when they come from a file. -/
theorem fieldTypes_of_failsWith {part : SearchPart} {e : Failure}
    (h : (recipe host settings part).FailsWith e) :
    part = fieldTypes ∧ settings.typesSource = "file" ∧
      ∃ s, ((settings.readTypes host).exec s).1 = .error e := by
  cases part with
  | scope | backend | decorators | builder =>
    obtain ⟨s, failed⟩ := h
    cases failed
  | fieldTypes =>
    by_cases source : settings.typesSource = "file"
    · rw [recipe_fieldTypes_file source] at h
      exact ⟨rfl, source, h⟩
    · rw [recipe_fieldTypes_mappings source, Recipe.failsWith_need] at h
      obtain ⟨scope, s, failed⟩ := h
      cases failed
  | service =>
    simp only [recipe_service, Recipe.failsWith_need] at h
    obtain ⟨_, _, _, _, _, s, failed⟩ := h
    cases failed

section Coherent

variable {start : Nat} {r : SearchRegistry σ} {p : Instance ServiceParts}

/-- A service that is kept was made of the parts that are kept. -/
theorem kept?_behind (h : r.Coherent (recipe host settings) start) (isKept : r.kept? service = some p)
    (part : SearchPart) : r.kept? part = some (behind p part) := by
  have makes := (h.kept service p isKept).2
  simp only [recipe_service, Recipe.makesOf_need] at makes
  obtain ⟨builder, isBuilder, types, areTypes, backend, isBackend, decorators, areDecorators, scope,
    isScope, made⟩ := makes
  have isMade : p.value = { builder, fieldTypes := types, backend, decorators, scope } :=
    Registry.eq_of_makesOf_pure made
  unfold behind
  cases part with
  | service => exact isKept
  | scope => rw [isMade, isScope]
  | backend => rw [isMade, isBackend]
  | fieldTypes => rw [isMade, areTypes]
  | decorators => rw [isMade, areDecorators]
  | builder => rw [isMade, isBuilder]

/-- A part that is kept is made as the settings say. -/
theorem makesOf_behind (h : r.Coherent (recipe host settings) start) (isKept : r.kept? service = some p)
    (part : SearchPart) : (recipe host settings part).MakesOf r (behind p part).value :=
  (h.kept part _ (kept?_behind h isKept part)).2

theorem makes_of_coherent (h : r.Coherent (recipe host settings) start)
    (isKept : r.kept? service = some p) : settings.Makes host p.value := by
  have makes := makesOf_behind h isKept
  refine ⟨Registry.eq_of_makesOf_pure (makes builder), Registry.eq_of_makesOf_pure (makes backend),
    Registry.eq_of_makesOf_pure (makes decorators), Registry.eq_of_makesOf_pure (makes scope), ?_, ?_⟩
  · intro source
    have types := makes fieldTypes
    rwa [recipe_fieldTypes_file source] at types
  · intro source
    have types := makes fieldTypes
    rw [recipe_fieldTypes_mappings source, Recipe.makesOf_need] at types
    obtain ⟨given, isGiven, types⟩ := types
    obtain rfl : given = p.value.scope :=
      Option.some.inj (isGiven.symm.trans (kept?_behind h isKept scope))
    exact Registry.eq_of_makesOf_pure types

end Coherent

end SearchPart

namespace SearchRegistry

/-- What is done with the registry of a search program, and beside it. -/
inductive Operation (σ : Type)
  | register (part : SearchPart) (registration : Registration σ SearchPart.Kind part.Kind)
  | resolve (part : SearchPart)
  | reset
  | configure (host : Host σ) (settings : Settings)
  /-- Something that has nothing to do with the registry. -/
  | outside (step : Flow σ Unit)

/-- What a registry gave when it was asked for a part. -/
structure Answer where
  part : SearchPart
  outcome : Except Failure (Instance part.Kind)

/-- What operations lead to. -/
structure Course (σ : Type) where
  answers : List Answer := []
  registry : SearchRegistry σ
  session : Session σ

namespace Operation

/-- Whether an operation leaves the registrations and the parts that are kept. -/
def isUse : Operation σ → Bool
  | resolve _ | outside _ => true
  | register _ _ | reset | configure _ _ => false

/-- Does what an operation says. -/
def perform (registry : SearchRegistry σ) (session : Session σ) : Operation σ → Course σ
  | register part registration => { registry := registry.register part registration, session }
  | resolve part =>
    let (outcome, registry, session) := (Registry.resolve part).exec registry session
    { answers := [⟨part, outcome⟩], registry, session }
  | reset => { registry := registry.reset, session }
  | configure host settings =>
    let (_, registry, session) := (SearchRegistry.configure host settings).exec registry session
    { registry, session }
  | outside step => { registry, session := (step.exec session).2 }

end Operation

/-- Does what operations say, one after the other. -/
def run (registry : SearchRegistry σ) (session : Session σ) : List (Operation σ) → Course σ
  | [] => { registry, session }
  | operation :: later =>
    let first := operation.perform registry session
    let others := run first.registry first.session later
    { others with answers := first.answers ++ others.answers }

variable {start : Nat} {r r' : SearchRegistry σ} {s s' : Session σ} {part : SearchPart}
  {operation : Operation σ} {operations : List (Operation σ)}

theorem perform_resolve {outcome : Except Failure (Instance part.Kind)}
    (ran : (Registry.resolve part).exec r s = (outcome, r', s')) :
    Operation.perform r s (.resolve part) =
      { answers := [⟨part, outcome⟩], registry := r', session := s' } := by
  simp only [Operation.perform, ran]

/-- The parts that a course has given were made by its end. -/
structure Counts (r : SearchRegistry σ) (course : Course σ) : Prop where
  counted : course.registry.Counted
  more : r.made ≤ course.registry.made
  given : ∀ part made, ⟨part, .ok made⟩ ∈ course.answers → made.stamp < course.registry.made

theorem counts_perform (h : r.Counted) (s : Session σ) (operation : Operation σ) :
    Counts r (operation.perform r s) := by
  cases operation with
  | register part registration =>
    refine ⟨?_, Nat.le_refl _, fun _ _ answered => (List.not_mem_nil answered).elim⟩
    intro other made isKept
    by_cases same : part = other
    · subst same
      cases (Registry.kept?_register r part registration).symm.trans isKept
    · exact h other made ((replaced_ne r.kept? none same).symm.trans isKept)
  | resolve part =>
    have counts := Registry.counted_resolveWithin Registry.deepest part r h s
    generalize ran : (Registry.resolveWithin Registry.deepest part).exec r s = ended at counts
    obtain ⟨outcome, r', s'⟩ := ended
    obtain ⟨counted, more, given⟩ := counts
    rw [perform_resolve ran]
    refine ⟨counted, more, ?_⟩
    intro other made answered
    cases List.mem_singleton.1 answered
    exact given made rfl
  | reset =>
    refine ⟨?_, Nat.le_refl _, fun _ _ answered => (List.not_mem_nil answered).elim⟩
    intro part made isKept
    cases isKept
  | configure host settings =>
    refine ⟨?_, Nat.le_refl _, fun _ _ answered => (List.not_mem_nil answered).elim⟩
    intro part made isKept
    cases (kept?_configured r host settings part).symm.trans isKept
  | outside step => exact ⟨h, Nat.le_refl _, fun _ _ answered => (List.not_mem_nil answered).elim⟩

theorem counts_run (h : r.Counted) (s : Session σ) (operations : List (Operation σ)) :
    Counts r (run r s operations) := by
  induction operations generalizing r s with
  | nil => exact ⟨h, Nat.le_refl _, fun _ _ answered => (List.not_mem_nil answered).elim⟩
  | cons operation later ih =>
    have first := counts_perform h s operation
    have others := ih first.counted (operation.perform r s).session
    refine ⟨others.counted, Nat.le_trans first.more others.more, ?_⟩
    intro part made answered
    rcases List.mem_append.1 answered with answered | answered
    · exact Nat.lt_of_lt_of_le (first.given part made answered) others.more
    · exact others.given part made answered

/-- A course that leaves the registrations goes on with a coherent registry: the parts that it gives are
kept, and it gives none only for want of types of fields. -/
structure Leaves (host : Host σ) (settings : Settings) (start : Nat) (r : SearchRegistry σ)
    (course : Course σ) : Prop where
  coherent : course.registry.Coherent (SearchPart.recipe host settings) start
  kept : ∀ part made, r.kept? part = some made → course.registry.kept? part = some made
  given : ∀ part made, ⟨part, .ok made⟩ ∈ course.answers → course.registry.kept? part = some made
  failed : ∀ part e, ⟨part, .error e⟩ ∈ course.answers →
    (part = .fieldTypes ∨ part = .service) ∧ settings.typesSource = "file" ∧
      ∃ s, ((settings.readTypes host).exec s).1 = .error e

theorem leaves_perform (h : r.Coherent (SearchPart.recipe host settings) start) (s : Session σ)
    (use : operation.isUse = true) : Leaves host settings start r (operation.perform r s) := by
  cases operation with
  | resolve part =>
    have gives := Registry.ensures_resolveWithin (SearchPart.needsOnly_recipe host settings)
      Registry.deepest part part.rank_lt_deepest r h s
    generalize ran : (Registry.resolveWithin Registry.deepest part).exec r s = ended at gives
    obtain ⟨outcome, r', s'⟩ := ended
    rw [perform_resolve ran]
    refine ⟨gives.coherent, gives.grows.kept, ?_, ?_⟩
    · intro other made answered
      cases List.mem_singleton.1 answered
      exact gives.given made rfl
    · intro other e answered
      cases List.mem_singleton.1 answered
      obtain ⟨below, low, fails⟩ := gives.failed e rfl
      obtain ⟨rfl, source, failed⟩ := SearchPart.fieldTypes_of_failsWith fails
      refine ⟨?_, source, failed⟩
      cases part with
      | fieldTypes => exact .inl rfl
      | service => exact .inr rfl
      | scope | backend | decorators | builder => exact absurd low (by decide)
  | outside step => exact ⟨h, fun _ _ isKept => isKept,
    fun _ _ answered => (List.not_mem_nil answered).elim,
    fun _ _ answered => (List.not_mem_nil answered).elim⟩
  | register _ _ | reset | configure _ _ => cases use

theorem leaves_run (h : r.Coherent (SearchPart.recipe host settings) start) (s : Session σ)
    (uses : ∀ operation ∈ operations, operation.isUse = true) :
    Leaves host settings start r (run r s operations) := by
  induction operations generalizing r s with
  | nil => exact ⟨h, fun _ _ isKept => isKept,
    fun _ _ answered => (List.not_mem_nil answered).elim,
    fun _ _ answered => (List.not_mem_nil answered).elim⟩
  | cons operation later ih =>
    obtain ⟨use, uses⟩ := List.forall_mem_cons.1 uses
    have first := leaves_perform h s use
    have others := ih first.coherent (operation.perform r s).session uses
    refine ⟨others.coherent, ?_, ?_, ?_⟩
    · intro part made isKept
      exact others.kept part made (first.kept part made isKept)
    · intro part made answered
      rcases List.mem_append.1 answered with answered | answered
      · exact others.kept part made (first.given part made answered)
      · exact others.given part made answered
    · intro part e answered
      rcases List.mem_append.1 answered with answered | answered
      · exact first.failed part e answered
      · exact others.failed part e answered

/-- A registry that was just configured keeps nothing yet, and is coherent therefore. -/
theorem coherent_configured (r : SearchRegistry σ) (host : Host σ) (settings : Settings) :
    (r.configured host settings).Coherent (SearchPart.recipe host settings) r.made where
  registered := registration?_configured r host settings
  started := Nat.le_refl _
  kept part made isKept := by
    cases (kept?_configured r host settings part).symm.trans isKept

/-- Whatever was registered, asked for, reset and configured before, once the registry is configured every
service that it gives, until something is registered or reset, is made as the settings say and is the same
one; the parts that it was made of are those that the registry gives for their own interfaces, and are
none that were given before.  The registry fails to give a service only when the settings name a file for
the types of fields and the file cannot be read. -/
theorem service_of_configured (history later : List (Operation σ)) (host : Host σ) (settings : Settings)
    (s : Session σ) (uses : ∀ operation ∈ later, operation.isUse = true) :
    let before := run empty s history
    let after := run before.registry before.session (.configure host settings :: later)
    (∀ p, ⟨.service, .ok p⟩ ∈ after.answers →
      settings.Makes host p.value ∧
        (∀ part made, ⟨part, .ok made⟩ ∈ after.answers → made = SearchPart.behind p part) ∧
        (∀ part, (Registry.resolve part).exec after.registry after.session =
          (.ok (SearchPart.behind p part), after.registry, after.session)) ∧
        ∀ part old, ⟨part, .ok old⟩ ∈ before.answers →
          ∀ other, old.stamp < (SearchPart.behind p other).stamp) ∧
      ∀ part e, ⟨part, .error e⟩ ∈ after.answers →
        (part = .fieldTypes ∨ part = .service) ∧ settings.typesSource = "file" ∧
          ∃ s, ((settings.readTypes host).exec s).1 = .error e := by
  intro before after
  have none : Registry.Counted (empty : SearchRegistry σ) := by
    intro part made isKept
    cases isKept
  have counts : Counts empty before := counts_run none s history
  have leaves : Leaves host settings before.registry.made (before.registry.configured host settings) after :=
    leaves_run (coherent_configured before.registry host settings) _ uses
  refine ⟨?_, leaves.failed⟩
  intro p answered
  have isKept := leaves.given .service p answered
  have behind := SearchPart.kept?_behind leaves.coherent isKept
  refine ⟨SearchPart.makes_of_coherent leaves.coherent isKept, ?_, ?_, ?_⟩
  · intro part made answered
    exact Option.some.inj ((leaves.given part made answered).symm.trans (behind part))
  · intro part
    exact Registry.exec_resolve_of_kept leaves.coherent (behind part) _
  · intro part old given other
    exact Nat.lt_of_lt_of_le (counts.given part old given) (leaves.coherent.kept other _ (behind other)).1

/-- A registry that has given a service is configured with another scope.  It gives that scope and a new
service that has it and asks for the types of fields with it. -/
theorem service_of_configured_twice :
    let now : DateTime := ⟨0, some .utc, by decide⟩
    let host : Host Unit :=
      { client := ⟨fun _ => Flow.fail (.fault .circular)⟩, fileAt := fun _ => pure .missing
        sleep := fun _ => pure (), now := pure now, newId := pure "", print := fun _ => pure () }
    let settings : Settings :=
      { host := "es", portNumber := 9300, indices := "logs", streamIndices := [("audit", "trail")]
        highlighting := true }
    let history := [.configure host {}, .resolve .service]
    let later : List (Operation Unit) := [.resolve .scope, .resolve .service]
    let before := run empty ⟨(), []⟩ history
    let after := run before.registry before.session (.configure host settings :: later)
    (∀ operation ∈ later, operation.isUse = true) ∧
      ∃ old scope p, before.answers = [⟨.service, .ok old⟩] ∧
        after.answers = [⟨.scope, .ok scope⟩, ⟨.service, .ok p⟩] ∧
        scope.value = { default := .str "logs", ofStream := [(.str "audit", .str "trail")] } ∧
        p.value.scope = scope ∧
        p.value.fieldTypes.value = .mappings "http://es:9300" scope (.ofInt 60) ∧
        p.value.backend.value = { host := .str "es", portNumber := .int 9300, scheme := .str "http"
                                  timeout := .float (.ofInt 60) } ∧
        p.value.builder.value = { highlighting := true } ∧ old.stamp < p.stamp := by
  intro now host settings history later before after
  have uses : ∀ operation ∈ later, operation.isUse = true := by decide
  obtain ⟨old, given⟩ : ∃ old, before.answers = [⟨.service, .ok old⟩] := ⟨_, rfl⟩
  obtain ⟨scope, p, answers⟩ : ∃ scope p,
      after.answers = [⟨.scope, .ok scope⟩, ⟨.service, .ok p⟩] := ⟨_, _, rfl⟩
  have scopeGiven : ⟨.scope, .ok scope⟩ ∈ after.answers := by simp [answers]
  have serviceGiven : ⟨.service, .ok p⟩ ∈ after.answers := by simp [answers]
  have oldGiven : ⟨.service, .ok old⟩ ∈ before.answers := by simp [given]
  obtain ⟨makes, same, -, new⟩ :=
    (service_of_configured history later host settings ⟨(), []⟩ uses).1 p serviceGiven
  have isScope : scope = p.value.scope := same .scope scope scopeGiven
  have mappings := makes.mappings (by decide)
  have address : settings.scheme ++ "://" ++ settings.host ++ ":" ++
      String.ofList (Text.integer settings.portNumber) = "http://es:9300" := by decide +kernel
  refine ⟨uses, old, scope, p, given, answers, ?_, isScope.symm, ?_, makes.backend, makes.builder, ?_⟩
  · rw [isScope]
    exact makes.scope
  · rw [isScope, ← address]
    exact mappings
  · exact new .service old oldGiven .service

end SearchRegistry

end LogSearch
