import LogSearch.Proofs.Decoration.Builtin
import LogSearch.Proofs.Decoration.Failures

/-!
# Messages are decorated each by itself

A chain of built-in decorators takes the decorators one after another and each over all messages.  It
might as well take the messages one after another and each through all decorators: the settings make
the same writers whatever the messages are, and a writer sees one message only.

This is about success.  Where several things go wrong the two ways may come upon different ones first.
And it takes a message to find out what is wrong with a decorator's run, though none for what is wrong
with its settings, so that a response without messages may fail where there is no message to fail.

Main statement: `DecoratorChain.outcome_alone`.
-/

namespace LogSearch

/-- A response with one message in the place of its messages. -/
def Response.only (r : Response) (m : Summary) : Response := { r with messages := [m] }

/-- A response with its messages at some places, in that sequence; at places past the end there are
none. -/
def Response.pick (r : Response) (places : List Nat) : Response :=
  { r with messages := places.filterMap (r.messages[·]?) }

section Forall₂

variable {α β γ : Type} {P : α → β → Prop} {Q : β → γ → Prop} {as : List α} {bs : List β} {cs : List γ}

/-- Two relations one after the other can be taken apart between lists. -/
theorem exists_between_of_forall₂ (h : List.Forall₂ (fun a c => ∃ b, P a b ∧ Q b c) as cs) :
    ∃ bs, List.Forall₂ P as bs ∧ List.Forall₂ Q bs cs := by
  induction h with
  | nil => exact ⟨[], .nil, .nil⟩
  | cons joined _ ih =>
    obtain ⟨b, first, second⟩ := joined
    obtain ⟨bs, firsts, seconds⟩ := ih
    exact ⟨b :: bs, .cons first firsts, .cons second seconds⟩

/-- Where items that are related have a third beside them, so have lists. -/
theorem exists_beside_of_forall₂ {R : α → γ → Prop} (h : List.Forall₂ P as bs)
    (beside : ∀ a b, P a b → ∃ c, R a c ∧ Q b c) :
    ∃ cs, List.Forall₂ R as cs ∧ List.Forall₂ Q bs cs := by
  induction h with
  | nil => exact ⟨[], .nil, .nil⟩
  | cons p _ ih =>
    obtain ⟨c, first, second⟩ := beside _ _ p
    obtain ⟨cs, firsts, seconds⟩ := ih
    exact ⟨c :: cs, .cons first firsts, .cons second seconds⟩

/-- Where each item has one that it is related to, a list has one. -/
theorem exists_forall₂_of_forall_mem (h : ∀ a ∈ as, ∃ b, P a b) : ∃ bs, List.Forall₂ P as bs := by
  induction as with
  | nil => exact ⟨[], .nil⟩
  | cons a as ih =>
    obtain ⟨⟨b, first⟩, others⟩ := List.forall_mem_cons.1 h
    obtain ⟨bs, rest⟩ := ih others
    exact ⟨b :: bs, .cons first rest⟩

/-- Items at the same places of two lists are related when the lists are. -/
theorem forall₂_pick (h : List.Forall₂ P as bs) (places : List Nat) :
    List.Forall₂ P (places.filterMap (as[·]?)) (places.filterMap (bs[·]?)) := by
  induction places with
  | nil => exact .nil
  | cons place places ih =>
    have length := h.length_eq
    rw [List.filterMap_cons, List.filterMap_cons]
    by_cases inside : place < as.length
    · have related := h.get inside (length ▸ inside)
      rw [List.getElem?_eq_getElem inside, List.getElem?_eq_getElem (length ▸ inside)]
      exact .cons related ih
    · rw [List.getElem?_eq_none (Nat.le_of_not_lt inside),
        List.getElem?_eq_none (length ▸ Nat.le_of_not_lt inside)]
      exact ih

end Forall₂

/-- The first of two writers changes a message, and the others what it makes of it. -/
theorem Summary.becomes_cons_iff {d : FieldWriter} {writers : List FieldWriter} {m changed : Summary} :
    Becomes (d :: writers) m changed ↔
      ∃ next, Decorator.onSummary d.decorate m = .ok next ∧ Becomes writers next changed := by
  constructor
  · rintro ⟨last, written, rfl⟩
    obtain ⟨fields, first, others⟩ := FieldWriter.decorateAll_cons_eq_ok_iff.1 written
    refine ⟨{ m with fields }, ?_, last, others, rfl⟩
    unfold Decorator.onSummary
    rw [first]
    rfl
  · rintro ⟨next, first, rest⟩
    exact rest.cons first

namespace DecoratorConfig

/-- Settings make one writer at most. -/
theorem makes_unique : Relator.RightUnique Makes := by
  rintro config d e ⟨name, make, listed, type, made⟩ ⟨name', make', listed', type', made'⟩
  obtain rfl : name = name' := Value.str.inj (type.symm.trans type')
  have distinct : (FieldWriter.builtin.map Prod.fst).Nodup := by decide
  have same := List.inj_on_of_nodup_map distinct listed listed' rfl
  obtain rfl : make = make' := (Prod.mk.inj same).2
  exact Except.ok.inj (made.symm.trans made')

end DecoratorConfig

namespace DecoratorChain

variable {σ : Type} {r s : Response} {config : DecoratorConfig} {configs : List DecoratorConfig}
  {writer : FieldWriter} {writers : List FieldWriter} {m changed : Summary}

/-- The decorator that settings make is their writer. -/
theorem make_of_makes (h : config.Makes writer) :
    builtin.make config = .ok (Decorator.ofMessages writer.decorate) := by
  obtain ⟨name, make, listed, type, made⟩ := h
  have found : builtin.factory? config.type = some (factory make FieldWriter.decorate) := by
    unfold factory?
    rw [factories_builtin, type]
    simp only [FieldWriter.builtin, List.mem_cons, List.not_mem_nil, or_false, Prod.mk.injEq] at listed
    rcases listed with ⟨rfl, rfl⟩ | ⟨rfl, rfl⟩ | ⟨rfl, rfl⟩ <;> rfl
  have ran : factory make FieldWriter.decorate config =
      .ok (Decorator.ofMessages writer.decorate) := by
    unfold factory
    rw [made]
    rfl
  rw [make_of_found type found, ran]

/-- A built-in decorator succeeds in its turn when its writer can change each message. -/
theorem turn_eq_ok_iff : builtin.turn r config = .ok s ↔
    ∃ writer : FieldWriter, config.Makes writer ∧
      ∃ messages, List.Forall₂ (fun m next => Decorator.onSummary writer.decorate m = .ok next)
        r.messages messages ∧ s = { r with messages } := by
  constructor
  · exact messages_of_turn
  · rintro ⟨writer, makes, messages, each, rfl⟩
    have ran : ∃ revision, Decorator.ofMessages writer.decorate r = .ok revision ∧
        revision.apply r = { r with messages } := by
      unfold Decorator.ofMessages
      by_cases none : r.messages.isEmpty = true
      · rw [if_pos none]
        rw [List.isEmpty_iff.1 none, List.forall₂_nil_left_iff] at each
        subst each
        refine ⟨_, rfl, ?_⟩
        rw [← List.isEmpty_iff.1 none]
        rfl
      · rw [if_neg none, mapM_eq_ok_iff.2 each]
        exact ⟨_, rfl, rfl⟩
    obtain ⟨revision, ran, applied⟩ := ran
    unfold turn
    rw [make_of_makes makes]
    simp only [bind, Except.bind, ran, applied]

/-- A built-in decorator succeeds alone when its writer can change each message. -/
theorem exists_outcome_of_makes (makes : config.Makes writer) : (∃ s, builtin.outcome r [config] = .ok s) ↔
    ∀ m ∈ r.messages, ∃ fields, writer.decorate m.fields = .ok fields := by
  simp only [outcome_singleton, turn_eq_ok_iff]
  constructor
  · rintro ⟨s, e, makes', messages, each, rfl⟩ m hm
    obtain rfl := DecoratorConfig.makes_unique makes makes'
    obtain ⟨next, -, done⟩ := exists_mem_of_forall₂ each.flip hm
    exact Summary.exists_onSummary_iff.1 ⟨next, done⟩
  · intro each
    obtain ⟨messages, each⟩ :=
      exists_forall₂_of_forall_mem fun m hm => Summary.exists_onSummary_iff.2 (each m hm)
    exact ⟨_, writer, makes, messages, each, rfl⟩

/-- The turns of built-in decorators succeed when their writers can change each message. -/
theorem turns_eq_ok_iff : configs.foldlM builtin.turn r = .ok s ↔
    ∃ writers, List.Forall₂ DecoratorConfig.Makes configs writers ∧
      ∃ messages, List.Forall₂ (Summary.Becomes writers) r.messages messages ∧
        s = { r with messages } := by
  constructor
  · exact messages_of_turns
  · rintro ⟨writers, makes, messages, become, rfl⟩
    induction makes generalizing r with
    | nil =>
      have same : r.messages = messages := by
        rw [← List.forall₂_eq_eq_eq]
        refine become.imp ?_
        rintro m _ ⟨fields, written, rfl⟩
        obtain rfl := Except.ok.inj written
        rfl
      rw [← same]
      rfl
    | cons makes _ ih =>
      obtain ⟨between, first, rest⟩ :=
        exists_between_of_forall₂ (become.imp fun _ _ => Summary.becomes_cons_iff.1)
      rw [List.foldlM_cons, turn_eq_ok_iff.2 ⟨_, makes, between, first, rfl⟩]
      exact ih (r := { r with messages := between }) rest

/-- The writers that settings make, in the order of the settings. -/
def Writers (configs : List DecoratorConfig) (writers : List FieldWriter) : Prop :=
  ∃ sorted, Sorted.sortBy DecoratorConfig.order configs = .ok sorted ∧
    List.Forall₂ DecoratorConfig.Makes sorted writers

theorem writers_unique {others : List FieldWriter} (h : Writers configs writers)
    (h' : Writers configs others) : writers = others := by
  obtain ⟨sorted, inOrder, makes⟩ := h
  obtain ⟨sorted', inOrder', makes'⟩ := h'
  obtain rfl : sorted = sorted' := Except.ok.inj (inOrder.symm.trans inOrder')
  exact List.right_unique_forall₂' DecoratorConfig.makes_unique makes makes'

/-- Settings that have no order are the failure of a chain. -/
theorem outcome_of_unsorted (chain : DecoratorChain) (r : Response) {fault : Fault}
    (unsorted : Sorted.sortBy DecoratorConfig.order configs = .error fault) :
    chain.outcome r configs = .error (.fault fault) := by
  unfold outcome decorate
  rw [Flow.exec_bind, Flow.exec_ofFault, unsorted]
  rfl

/-- Whatever the collaborators and the log, the outcome of a chain is the same, and it changes no
collaborator. -/
theorem ends_outcome (chain : DecoratorChain) (r : Response) (configs : List DecoratorConfig) (w : σ) :
    ∃ revision, Flow.Ends (chain.decorate r configs) w revision w ∧
      revision.map (·.apply r) = chain.outcome r configs := by
  cases inOrder : Sorted.sortBy DecoratorConfig.order configs with
  | ok sorted =>
    rw [chain.outcome_eq r inOrder]
    exact chain.ends_decorate r w inOrder
  | error fault =>
    rw [chain.outcome_of_unsorted r inOrder]
    exact ⟨.error (.fault fault), (Flow.Ends.ofFault (congrArg ofFaults inOrder) w).bind_error, rfl⟩

/-- The built-in decorators succeed when the settings make writers that can change each message. -/
theorem outcome_eq_ok_iff : builtin.outcome r configs = .ok s ↔
    ∃ writers, Writers configs writers ∧
      ∃ messages, List.Forall₂ (Summary.Becomes writers) r.messages messages ∧
        s = { r with messages } := by
  cases inOrder : Sorted.sortBy DecoratorConfig.order configs with
  | ok sorted =>
    rw [builtin.outcome_eq r inOrder, turns_eq_ok_iff]
    constructor
    · rintro ⟨writers, makes, become⟩
      exact ⟨writers, ⟨sorted, inOrder, makes⟩, become⟩
    · rintro ⟨writers, ⟨sorted', inOrder', makes⟩, become⟩
      obtain rfl : sorted = sorted' := Except.ok.inj (inOrder.symm.trans inOrder')
      exact ⟨writers, makes, become⟩
  | error fault =>
    rw [builtin.outcome_of_unsorted r inOrder]
    constructor
    · intro h
      cases h
    · rintro ⟨writers, ⟨sorted, ordered, -⟩, -⟩
      rw [inOrder] at ordered
      cases ordered

/-- Alone in a response, a message becomes another. -/
def Decorates (chain : DecoratorChain) (configs : List DecoratorConfig) (r : Response)
    (m changed : Summary) : Prop :=
  chain.outcome (r.only m) configs = .ok (r.only changed)

/-- The messages of a response one after another, each through all decorators. -/
def oneByOne (chain : DecoratorChain) (r : Response) (configs : List DecoratorConfig) :
    Except Failure Response := do
  let parts ← r.messages.mapM fun m => chain.outcome (r.only m) configs
  return { r with messages := parts.flatMap Response.messages }

theorem outcome_only_eq_ok_iff : builtin.outcome (r.only m) configs = .ok s ↔
    ∃ writers, Writers configs writers ∧
      ∃ changed, Summary.Becomes writers m changed ∧ s = r.only changed := by
  rw [outcome_eq_ok_iff]
  constructor
  · rintro ⟨writers, made, messages, become, rfl⟩
    obtain ⟨changed, _, becomes, none, rfl⟩ := List.forall₂_cons_left_iff.1 become
    obtain rfl := List.forall₂_nil_left_iff.1 none
    exact ⟨writers, made, changed, becomes, rfl⟩
  · rintro ⟨writers, made, changed, becomes, rfl⟩
    exact ⟨writers, made, [changed], .cons becomes .nil, rfl⟩

theorem decorates_iff : builtin.Decorates configs r m changed ↔
    ∃ writers, Writers configs writers ∧ Summary.Becomes writers m changed := by
  unfold Decorates
  rw [outcome_only_eq_ok_iff]
  constructor
  · rintro ⟨writers, made, other, becomes, same⟩
    obtain rfl : changed = other := (List.cons.inj (congrArg Response.messages same)).1
    exact ⟨writers, made, becomes⟩
  · rintro ⟨writers, made, becomes⟩
    exact ⟨writers, made, changed, becomes, rfl⟩

/-- What a message alone becomes is a message alone. -/
theorem exists_of_outcome_only (h : builtin.outcome (r.only m) configs = .ok s) :
    ∃ changed, builtin.Decorates configs r m changed ∧ s = r.only changed := by
  obtain ⟨writers, made, changed, becomes, rfl⟩ := outcome_only_eq_ok_iff.1 h
  exact ⟨changed, h, rfl⟩

/-- Messages are decorated together as they are alone. -/
theorem outcome_eq_ok_iff_alone (some : r.messages ≠ []) : builtin.outcome r configs = .ok s ↔
    ∃ messages, List.Forall₂ (builtin.Decorates configs r) r.messages messages ∧
      s = { r with messages } := by
  rw [outcome_eq_ok_iff]
  constructor
  · rintro ⟨writers, made, messages, become, rfl⟩
    exact ⟨messages, become.imp fun _ _ becomes => decorates_iff.2 ⟨writers, made, becomes⟩, rfl⟩
  · rintro ⟨messages, alone, rfl⟩
    -- The first message has writers, and they are those of all others too.
    obtain ⟨m, rest, isFirst⟩ := List.exists_cons_of_ne_nil some
    have first := alone
    rw [isFirst] at first
    obtain ⟨changed, _, decorates, -, -⟩ := List.forall₂_cons_left_iff.1 first
    obtain ⟨writers, made, -⟩ := decorates_iff.1 decorates
    refine ⟨writers, made, messages, alone.imp ?_, rfl⟩
    intro m changed decorates
    obtain ⟨others, made', becomes⟩ := decorates_iff.1 decorates
    rwa [writers_unique made made']

/-- Responses of one message each, put together, have those messages. -/
theorem forall₂_flatMap_messages {P : Summary → Summary → Prop} {ms : List Summary}
    {parts : List Response}
    (h : List.Forall₂ (fun m part => ∃ changed, P m changed ∧ part = r.only changed) ms parts) :
    List.Forall₂ P ms (parts.flatMap Response.messages) := by
  induction h with
  | nil => exact .nil
  | cons part _ ih =>
    obtain ⟨changed, decorates, rfl⟩ := part
    rw [List.flatMap_cons]
    exact .cons decorates ih

theorem oneByOne_eq_ok_iff : builtin.oneByOne r configs = .ok s ↔
    ∃ messages, List.Forall₂ (builtin.Decorates configs r) r.messages messages ∧
      s = { r with messages } := by
  constructor
  · intro h
    obtain ⟨parts, each, h⟩ := exists_of_bind_eq_ok h
    obtain rfl := Except.ok.inj h
    refine ⟨_, ?_, rfl⟩
    exact forall₂_flatMap_messages ((mapM_eq_ok_iff.1 each).imp fun _ _ => exists_of_outcome_only)
  · rintro ⟨messages, alone, rfl⟩
    have each : r.messages.mapM (fun m => builtin.outcome (r.only m) configs) =
        .ok (messages.map r.only) := by
      rw [mapM_eq_ok_iff, List.forall₂_map_right_iff]
      exact alone
    have joined : (messages.map r.only).flatMap Response.messages = messages := by
      rw [List.flatMap_map]
      exact List.flatMap_singleton' messages
    unfold oneByOne
    rw [each]
    simp only [bind, Except.bind, joined]
    rfl

/-- A chain succeeds on some messages when it succeeds on each alone. -/
theorem exists_outcome_iff (some : r.messages ≠ []) : (∃ s, builtin.outcome r configs = .ok s) ↔
    ∀ m ∈ r.messages, ∃ s, builtin.outcome (r.only m) configs = .ok s := by
  constructor
  · rintro ⟨s, h⟩ m hm
    obtain ⟨messages, alone, rfl⟩ := (outcome_eq_ok_iff_alone some).1 h
    obtain ⟨changed, -, decorates⟩ := exists_mem_of_forall₂ alone.flip hm
    exact ⟨_, decorates⟩
  · intro each
    have alone : ∀ m ∈ r.messages, ∃ changed, builtin.Decorates configs r m changed := by
      intro m hm
      obtain ⟨s, h⟩ := each m hm
      obtain ⟨changed, decorates, -⟩ := exists_of_outcome_only h
      exact ⟨changed, decorates⟩
    obtain ⟨messages, alone⟩ := exists_forall₂_of_forall_mem alone
    exact ⟨_, (outcome_eq_ok_iff_alone some).2 ⟨messages, alone, rfl⟩⟩

/-- Messages in front of others and those others are decorated as they are together. -/
theorem outcome_append_eq_ok_iff {front back : List Summary} (joined : r.messages = front ++ back)
    (someFront : front ≠ []) (someBack : back ≠ []) : builtin.outcome r configs = .ok s ↔
      ∃ s₁ s₂, builtin.outcome { r with messages := front } configs = .ok s₁ ∧
        builtin.outcome { r with messages := back } configs = .ok s₂ ∧
        s = { r with messages := s₁.messages ++ s₂.messages } := by
  have some : r.messages ≠ [] := by simp [joined, someFront]
  rw [outcome_eq_ok_iff_alone some, joined]
  constructor
  · rintro ⟨messages, alone, rfl⟩
    have aloneFront := List.forall₂_take front.length alone
    have aloneBack := List.forall₂_drop front.length alone
    rw [List.take_left] at aloneFront
    rw [List.drop_left] at aloneBack
    refine ⟨_, _, (outcome_eq_ok_iff_alone someFront).2 ⟨_, aloneFront, rfl⟩,
      (outcome_eq_ok_iff_alone someBack).2 ⟨_, aloneBack, rfl⟩, ?_⟩
    dsimp only
    rw [List.take_append_drop]
  · rintro ⟨s₁, s₂, first, second, rfl⟩
    obtain ⟨_, aloneFront, rfl⟩ := (outcome_eq_ok_iff_alone someFront).1 first
    obtain ⟨_, aloneBack, rfl⟩ := (outcome_eq_ok_iff_alone someBack).1 second
    exact ⟨_, List.rel_append aloneFront aloneBack, rfl⟩

/-- Messages at some places, in that sequence, are decorated as they are among all. -/
theorem outcome_pick (done : builtin.outcome r configs = .ok s) {places : List Nat}
    (some : (r.pick places).messages ≠ []) :
    builtin.outcome (r.pick places) configs = .ok (s.pick places) := by
  have any : r.messages ≠ [] := by
    intro none
    apply some
    simp [Response.pick, none]
  obtain ⟨messages, alone, rfl⟩ := (outcome_eq_ok_iff_alone any).1 done
  exact (outcome_eq_ok_iff_alone some).2 ⟨_, forall₂_pick alone places, rfl⟩

/-- The built-in decorators succeed on the messages of a response, if there are any, when they succeed
on each of them alone, and then each becomes what it becomes alone.  So the decorators may as well be
run over one message after another; messages in front of others are decorated as they are without them;
and messages that are put into another sequence, repeated or left out are decorated as before. -/
theorem outcome_alone (r : Response) (configs : List DecoratorConfig) (some : r.messages ≠ []) :
    (∀ (σ : Type) (w : σ), ∃ revision, Flow.Ends (builtin.decorate r configs) w revision w ∧
        revision.map (·.apply r) = builtin.outcome r configs) ∧
      ((∃ s, builtin.outcome r configs = .ok s) ↔
        ∀ m ∈ r.messages, ∃ s, builtin.outcome (r.only m) configs = .ok s) ∧
      (∀ s, builtin.outcome r configs = .ok s → s = { r with messages := s.messages } ∧
        List.Forall₂ (fun m changed => builtin.outcome (r.only m) configs = .ok (r.only changed))
          r.messages s.messages) ∧
      (∀ s, builtin.outcome r configs = .ok s ↔ builtin.oneByOne r configs = .ok s) ∧
      (∀ front back, r.messages = front ++ back → front ≠ [] → back ≠ [] → ∀ s,
        builtin.outcome r configs = .ok s ↔
          ∃ s₁ s₂, builtin.outcome { r with messages := front } configs = .ok s₁ ∧
            builtin.outcome { r with messages := back } configs = .ok s₂ ∧
            s = { r with messages := s₁.messages ++ s₂.messages }) ∧
      ∀ s places, builtin.outcome r configs = .ok s → (r.pick places).messages ≠ [] →
        builtin.outcome (r.pick places) configs = .ok (s.pick places) := by
  refine ⟨?_, exists_outcome_iff some, ?_, ?_, ?_, ?_⟩
  · intro σ w
    exact builtin.ends_outcome r configs w
  · intro s done
    obtain ⟨messages, alone, rfl⟩ := (outcome_eq_ok_iff_alone some).1 done
    exact ⟨rfl, alone⟩
  · intro s
    rw [outcome_eq_ok_iff_alone some, oneByOne_eq_ok_iff]
  · intro front back joined someFront someBack s
    exact outcome_append_eq_ok_iff joined someFront someBack
  · intro s places done someLeft
    exact outcome_pick done someLeft

/-- Two messages, one with a value that the table has and one without, taken in the other sequence. -/
theorem outcome_alone_swapped :
    let start : DateTime := ⟨0, some .utc, by decide⟩
    let m : Summary := ⟨.map [], [(.str "_id", .str "i"), (.str "a", .str "x")], .str "graylog_0"⟩
    let other : Summary := ⟨.map [], [(.str "_id", .str "j"), (.str "a", .str "z")], .str "graylog_1"⟩
    let r : Response := ⟨.str "*", .str "*", [m, other], .int 2, start, start, [], [], 0⟩
    let config : DecoratorConfig :=
      { type := .str "lookup_table"
        config := .record [("source_field", .str "a"), ("table", .record [("x", .str "y")])] }
    let changed : Summary := { m with fields := m.fields ++ [(.str "a_decorated", .str "y")] }
    r.messages ≠ [] ∧
      builtin.outcome (r.only m) [config] = .ok (r.only changed) ∧
      builtin.outcome (r.only other) [config] = .ok (r.only other) ∧
      builtin.outcome { r with messages := [other, m] } [config] =
        .ok { r with messages := [other, changed] } := by
  intro start m other r config changed
  have some : r.messages ≠ [] := List.cons_ne_nil _ _
  have done : builtin.outcome r [config] = .ok { r with messages := [changed, other] } := by
    rw [outcome_singleton]
    rfl
  obtain ⟨-, -, alone, -, -, picked⟩ := outcome_alone r [config] some
  have each := (alone _ done).2
  have first := each.get (i := 0) (by decide) (by decide)
  have second := each.get (i := 1) (by decide) (by decide)
  exact ⟨some, first, second, picked _ [1, 0] done (List.cons_ne_nil _ _)⟩

end DecoratorChain

end LogSearch
