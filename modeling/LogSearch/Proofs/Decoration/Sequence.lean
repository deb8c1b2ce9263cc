import LogSearch.Decoration.Chain
import LogSearch.Proofs.Flow
import LogSearch.Proofs.Value.Sorted

/-!
# Decorators one after another

A chain makes each decorator and runs it on what those before it made of the response: a `turn`.  The
turns are taken in the order of the settings, so the outcome of a chain is that of its turns, folded
over the sorted settings, and the first turn that fails is the outcome.

Main statement: `DecoratorChain.outcome_sequential`.
-/

namespace LogSearch

theorem Revision.apply_after (first second : Revision) (r : Response) :
    (first.after second).apply r = second.apply (first.apply r) := by
  cases second <;> rfl

/-- The place of a decorator among others. -/
def DecoratorConfig.place (c : DecoratorConfig) : Int := Sorted.number c.order

/-- Whether the place of a decorator is given by an integer. -/
def DecoratorConfig.isPlaced (c : DecoratorConfig) : Bool := c.order.int?.isSome

namespace DecoratorChain

open LogSearch.Flow (Ends)

variable {σ : Type} {chain : DecoratorChain} {r s : Response} {config : DecoratorConfig}
  {configs sorted : List DecoratorConfig} {w : σ}

/-- How the failure of a decorator comes up: a fault is reported with the type of the decorator. -/
def turnFailure (config : DecoratorConfig) (failure : Failure) : Failure :=
  failure.reported fun fault => .failedDecoration config.type fault.message

/-- What one decorator makes of a response. -/
def turn (chain : DecoratorChain) (r : Response) (config : DecoratorConfig) :
    Except Failure Response := do
  let d ← chain.make config
  match d r with
  | .ok next => .ok (next.apply r)
  | .error failure => .error (turnFailure config failure)

/-- What decorators make of a response: the response they leave, or the failure they end with. -/
def outcome (chain : DecoratorChain) (r : Response) (configs : List DecoratorConfig) :
    Except Failure Response :=
  (Flow.exec (chain.decorate r configs : Flow Unit Revision) ⟨(), []⟩).1.map (·.apply r)

theorem ends_step (chain : DecoratorChain) (done : Revision) (config : DecoratorConfig)
    (r : Response) (w : σ) :
    ∃ revision, Ends (chain.step done config r) w revision w ∧
      revision.map (·.apply r) = chain.turn (done.apply r) config := by
  unfold step turn
  cases made : chain.make config with
  | error e => exact ⟨.error e, (Ends.ofExcept rfl w).bind_error, rfl⟩
  | ok d =>
    cases ran : d (done.apply r) with
    | ok next =>
      refine ⟨.ok (done.after next), (Ends.ofExcept rfl w).bind ?_, ?_⟩
      · rw [ran]
        exact .pure _ w
      · simp only [bind, Except.bind, ran]
        exact congrArg Except.ok (done.apply_after next r)
    | error e =>
      refine ⟨.error (turnFailure config e), (Ends.ofExcept rfl w).bind ?_, ?_⟩
      · rw [ran]
        cases e with
        | fault fault => exact (Ends.log _ _ w).bind (.fail _ w)
        | search report cause => exact .fail _ w
      · simp only [bind, Except.bind, ran]
        rfl

/-- The run of a chain takes the turns of its decorators one after another. -/
theorem ends_run (chain : DecoratorChain) (r : Response) (w : σ) (configs : List DecoratorConfig)
    (done : Revision) :
    ∃ revision, Ends (chain.run r done configs) w revision w ∧
      revision.map (·.apply r) = configs.foldlM chain.turn (done.apply r) := by
  induction configs generalizing done with
  | nil => exact ⟨.ok done, .pure done w, rfl⟩
  | cons config rest ih =>
    obtain ⟨revision, first, turn⟩ := chain.ends_step done config r w
    rw [List.foldlM_cons, ← turn]
    cases revision with
    | error e => exact ⟨.error e, first.bind_error, rfl⟩
    | ok next =>
      obtain ⟨revision, others, turns⟩ := ih next
      exact ⟨revision, first.bind others, turns⟩

/-- A chain takes the turns of its decorators in the order of their settings. -/
theorem ends_decorate (chain : DecoratorChain) (r : Response) (w : σ)
    (inOrder : Sorted.sortBy DecoratorConfig.order configs = .ok sorted) :
    ∃ revision, Ends (chain.decorate r configs) w revision w ∧
      revision.map (·.apply r) = sorted.foldlM chain.turn r := by
  obtain ⟨revision, ran, turns⟩ := chain.ends_run r w sorted .kept
  refine ⟨revision, ?_, turns⟩
  unfold decorate
  refine (Ends.ofFault (congrArg ofFaults inOrder) w).bind ?_
  cases revision with
  | error e => exact ran.bind_error
  | ok done =>
    refine ran.bind ?_
    split
    · exact (Ends.pure _ w).bind (.pure done w)
    · exact (Ends.log _ _ w).bind (.pure done w)

theorem outcome_eq (chain : DecoratorChain) (r : Response)
    (inOrder : Sorted.sortBy DecoratorConfig.order configs = .ok sorted) :
    chain.outcome r configs = sorted.foldlM chain.turn r := by
  obtain ⟨revision, ran, turns⟩ := chain.ends_decorate r () inOrder
  obtain ⟨log, ran⟩ := ran []
  rw [outcome, ran]
  exact turns

theorem sortBy_order (placed : ∀ c ∈ configs, c.isPlaced = true) :
    Sorted.sortBy DecoratorConfig.order configs =
      .ok (Sorted.stable DecoratorConfig.place configs) :=
  Sorted.sortBy_of_integers placed

theorem outcome_of_placed (chain : DecoratorChain) (r : Response)
    (placed : ∀ c ∈ configs, c.isPlaced = true) :
    chain.outcome r configs = (Sorted.stable DecoratorConfig.place configs).foldlM chain.turn r :=
  chain.outcome_eq r (sortBy_order placed)

/-- Decorators of which none has its place before those of others run after them. -/
theorem outcome_append (chain : DecoratorChain) (r : Response) {first second : List DecoratorConfig}
    (placed : ∀ c ∈ first ++ second, c.isPlaced = true)
    (later : ∀ c ∈ first, ∀ d ∈ second, c.place ≤ d.place) :
    chain.outcome r (first ++ second) =
      (chain.outcome r first).bind fun s => chain.outcome s second := by
  obtain ⟨placedFirst, placedSecond⟩ := List.forall_mem_append.1 placed
  rw [outcome_of_placed chain r placed, Sorted.stable_append later, List.foldlM_append,
    outcome_of_placed chain r placedFirst]
  refine congrArg (Except.bind _) (funext fun s => ?_)
  exact (outcome_of_placed chain s placedSecond).symm

/-- The sequence of decorators matters only among those in the same place. -/
theorem outcome_perm (chain : DecoratorChain) (r : Response) {others : List DecoratorConfig}
    (placed : ∀ c ∈ configs, c.isPlaced = true) (perm : configs.Perm others)
    (same : ∀ n, Sorted.withKey DecoratorConfig.place n configs =
      Sorted.withKey DecoratorConfig.place n others) :
    chain.outcome r configs = chain.outcome r others := by
  have placedOthers : ∀ c ∈ others, c.isPlaced = true := by
    intro c hc
    exact placed c (perm.mem_iff.2 hc)
  rw [outcome_of_placed chain r placed, outcome_of_placed chain r placedOthers,
    Sorted.stable_eq_of_withKey_eq same]

theorem outcome_singleton (chain : DecoratorChain) (r : Response) (config : DecoratorConfig) :
    chain.outcome r [config] = chain.turn r config := by
  rw [outcome_eq chain r (Sorted.sortBy_singleton _ config), List.foldlM_cons]
  exact bind_pure _

/-- What stands in front in the order of the settings is in order already. -/
theorem outcome_of_front (chain : DecoratorChain) (r : Response) {before after : List DecoratorConfig}
    (placed : ∀ c ∈ configs, c.isPlaced = true)
    (inOrder : Sorted.stable DecoratorConfig.place configs = before ++ after) :
    chain.outcome r before = before.foldlM chain.turn r := by
  have ascends := Sorted.ascends_stable DecoratorConfig.place configs
  rw [inOrder] at ascends
  have placedFront : ∀ c ∈ before, c.isPlaced = true := by
    intro c hc
    exact placed c (Sorted.mem_stable.1 (inOrder ▸ List.mem_append_left _ hc))
  rw [outcome_of_placed chain r placedFront,
    Sorted.stable_of_ascends (List.pairwise_append.1 ascends).1]

/-- The failure of a chain is that of the first decorator, in order, that fails in its turn. -/
theorem outcome_eq_error_iff (chain : DecoratorChain) (r : Response) {e : Failure}
    (placed : ∀ c ∈ configs, c.isPlaced = true) :
    chain.outcome r configs = .error e ↔
      ∃ before config after s,
        Sorted.stable DecoratorConfig.place configs = before ++ config :: after ∧
          chain.outcome r before = .ok s ∧ chain.outcome s [config] = .error e := by
  rw [outcome_of_placed chain r placed, foldlM_eq_error_iff]
  constructor
  · rintro ⟨before, config, after, s, inOrder, fine, failed⟩
    refine ⟨before, config, after, s, inOrder, ?_, ?_⟩
    · rwa [chain.outcome_of_front r placed inOrder]
    · rwa [outcome_singleton]
  · rintro ⟨before, config, after, s, inOrder, fine, failed⟩
    refine ⟨before, config, after, s, inOrder, ?_, ?_⟩
    · rwa [chain.outcome_of_front r placed inOrder] at fine
    · rwa [outcome_singleton] at failed

/-- A chain is its decorators one after another, in the order of their places.  Whatever the
collaborators and the log, its outcome is the same, and it changes no collaborator.  A chain cut where
no place behind the cut is before one in front of it is the two parts one after the other; putting
decorators into another sequence matters only where their places are the same; and a failure is that
of the first decorator, in order, that fails in its turn. -/
theorem outcome_sequential (chain : DecoratorChain) (r : Response) (configs : List DecoratorConfig)
    (placed : ∀ c ∈ configs, c.isPlaced = true) :
    (∀ (σ : Type) (w : σ), ∃ revision, Ends (chain.decorate r configs) w revision w ∧
        revision.map (·.apply r) = chain.outcome r configs) ∧
      (∀ first second, configs = first ++ second →
        (∀ c ∈ first, ∀ d ∈ second, c.place ≤ d.place) →
        chain.outcome r configs = (chain.outcome r first).bind fun s => chain.outcome s second) ∧
      (∀ others, configs.Perm others →
        (∀ n, Sorted.withKey DecoratorConfig.place n configs =
          Sorted.withKey DecoratorConfig.place n others) →
        chain.outcome r configs = chain.outcome r others) ∧
      ∀ e, chain.outcome r configs = .error e ↔
        ∃ before config after s,
          Sorted.stable DecoratorConfig.place configs = before ++ config :: after ∧
            chain.outcome r before = .ok s ∧ chain.outcome s [config] = .error e := by
  refine ⟨?_, ?_, ?_, ?_⟩
  · intro σ w
    rw [outcome_of_placed chain r placed]
    exact chain.ends_decorate r w (sortBy_order placed)
  · rintro first second rfl later
    exact chain.outcome_append r placed later
  · intro others perm same
    exact chain.outcome_perm r placed perm same
  · intro e
    exact chain.outcome_eq_error_iff r placed

/-- A decorator that turns messages round and, in the next place, one that has no factory. -/
theorem outcome_sequential_unknown_type :
    let start : DateTime := ⟨0, some .utc, by decide⟩
    let messages : List Summary := [⟨.map [], [], .str "a"⟩, ⟨.map [], [], .str "b"⟩]
    let r : Response := ⟨.str "*", .str "*", messages, .int 2, start, start, [], [], 0⟩
    let turned (_ : DecoratorConfig) : Except Failure Decorator :=
      .ok fun r => .ok (.replaced { r with messages := r.messages.reverse })
    let chain : DecoratorChain := ⟨[(.str "turned", turned)]⟩
    let first : DecoratorConfig := { type := .str "turned", order := .int 1 }
    let second : DecoratorConfig := { type := .str "unknown", order := .int 2 }
    chain.outcome r [first, second] =
        (chain.outcome r [first]).bind (fun s => chain.outcome s [second]) ∧
      chain.outcome r [second, first] = chain.outcome r [first, second] ∧
      chain.outcome r [first, second] =
        .error (.search (.failedDecoration (.str "unknown") "unknown decorator type") none) := by
  intro start messages r turned chain first second
  have placed : ∀ c ∈ [first, second], c.isPlaced = true := by decide
  have placedSwapped : ∀ c ∈ [second, first], c.isPlaced = true := by decide
  have before : first.place ≤ second.place := by decide
  have apart : first.place ≠ second.place := by decide
  have ascends : Sorted.Ascends DecoratorConfig.place [first, second] := List.pairwise_pair.2 before
  refine ⟨?_, ?_, ?_⟩
  · refine (chain.outcome_sequential r [first, second] placed).2.1 [first] [second] rfl ?_
    intro c hc d hd
    obtain rfl := List.mem_singleton.1 hc
    obtain rfl := List.mem_singleton.1 hd
    exact before
  · refine (chain.outcome_sequential r [second, first] placedSwapped).2.2.1 [first, second]
      (.swap _ _ _) ?_
    intro n
    simp only [Sorted.withKey_cons]
    by_cases h : first.place = n
    · have other : second.place ≠ n := fun same => apart (h.trans same.symm)
      rw [if_neg other, if_neg other]
    · rw [if_neg h, if_neg h]
  · refine ((chain.outcome_sequential r [first, second] placed).2.2.2 _).2
      ⟨[first], second, [], { r with messages := r.messages.reverse },
        Sorted.stable_of_ascends ascends, ?_, ?_⟩
    · rw [outcome_singleton]
      rfl
    · rw [outcome_singleton]
      rfl

end DecoratorChain

end LogSearch
