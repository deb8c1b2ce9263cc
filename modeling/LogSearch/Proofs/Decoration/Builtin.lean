import LogSearch.Proofs.Decoration.Sequence
import LogSearch.Proofs.Decoration.Writer
import Mathlib

/-!
# What the built-in decorators leave alone

A chain of built-in decorators changes the fields of messages and nothing else of a response: it
neither adds messages nor drops them nor puts them into another order.  Each message goes through the
writers that the settings make, in their order, and so it has under each name what was written there
last.

The identifier of a message is one of its fields, and nothing keeps a decorator from having its name
for a target.  So the identifiers survive where no target is that name, and elsewhere they are what was
written last.

Main statement: `DecoratorChain.ids_of_decorate`.
-/

namespace LogSearch

/-- What makes the writers of the built-in decorators from their settings, by the names of their
types. -/
def FieldWriter.builtin : List (String × (Value → Except Fault FieldWriter)) :=
  [("syslog_severity_mapper", fun config => (SeverityMapper.ofConfig config).map (·.writer)),
    ("format_string", fun config => (TemplateWriter.ofConfig config).map (·.writer)),
    ("lookup_table", fun config => (TableLookup.ofConfig config).map (·.writer))]

/-- Settings make a writer. -/
def DecoratorConfig.Makes (config : DecoratorConfig) (d : FieldWriter) : Prop :=
  ∃ name make, (name, make) ∈ FieldWriter.builtin ∧ config.type = .str name ∧
    make config.config = .ok d

/-- A message is another after some writers: they change its fields and nothing else. -/
def Summary.Becomes (writers : List FieldWriter) (m changed : Summary) : Prop :=
  ∃ fields, FieldWriter.decorateAll writers m.fields = .ok fields ∧ changed = { m with fields }

namespace Summary

variable {m next changed : Summary} {d : FieldWriter} {writers : List FieldWriter}

theorem Becomes.refl (m : Summary) : Becomes [] m m := ⟨m.fields, rfl, rfl⟩

theorem becomes_of_onSummary (h : Decorator.onSummary d.decorate m = .ok next) :
    ∃ fields, d.decorate m.fields = .ok fields ∧ next = { m with fields } := by
  obtain ⟨fields, written, h⟩ := exists_of_bind_eq_ok h
  exact ⟨fields, written, (Except.ok.inj h).symm⟩

theorem exists_onSummary_iff {f : Entries → Except Fault Entries} :
    (∃ next, Decorator.onSummary f m = .ok next) ↔ ∃ fields, f m.fields = .ok fields := by
  unfold Decorator.onSummary
  constructor
  · rintro ⟨next, done⟩
    obtain ⟨fields, written, -⟩ := exists_of_bind_eq_ok done
    exact ⟨fields, written⟩
  · rintro ⟨fields, written⟩
    rw [written]
    exact ⟨_, rfl⟩

theorem Becomes.cons (rest : Becomes writers next changed)
    (first : Decorator.onSummary d.decorate m = .ok next) : Becomes (d :: writers) m changed := by
  obtain ⟨fields, written, rfl⟩ := becomes_of_onSummary first
  obtain ⟨last, others, rfl⟩ := rest
  exact ⟨last, FieldWriter.decorateAll_cons_eq_ok_iff.2 ⟨fields, written, others⟩, rfl⟩

theorem Becomes.id? (h : Becomes writers m changed) :
    changed.id? = (FieldWriter.written "_id" writers m.fields).getLast?.or m.id? := by
  obtain ⟨fields, written, rfl⟩ := h
  exact FieldWriter.get?_of_writes written

end Summary

section Forall₂

variable {α β γ : Type} {P : α → β → Prop} {Q : β → γ → Prop} {R : α → γ → Prop} {as : List α}
  {bs : List β} {cs : List γ}

/-- Two relations between the items of lists, one after the other. -/
theorem forall₂_comp (join : ∀ a b c, P a b → Q b c → R a c) (first : List.Forall₂ P as bs)
    (second : List.Forall₂ Q bs cs) : List.Forall₂ R as cs := by
  induction first generalizing cs with
  | nil =>
    cases second
    exact .nil
  | cons p _ ih =>
    cases second with
    | cons q others => exact .cons (join _ _ _ p q) (ih others)

end Forall₂

namespace DecoratorChain

variable {σ : Type} {chain : DecoratorChain} {r s : Response} {config : DecoratorConfig}
  {configs : List DecoratorConfig}

theorem exists_of_make {d : Decorator} (h : chain.make config = .ok d) :
    ∃ make, chain.factory? config.type = some make ∧ make config = .ok d := by
  obtain ⟨_, -, h⟩ := exists_of_bind_eq_ok h
  split at h
  · cases h
  · rename_i make found
    refine ⟨make, found, ?_⟩
    split at h
    · rename_i made
      rw [made]
      exact h
    · split at h <;> cases h
    · cases h

theorem factory_writer {δ : Type} {make : Value → Except Fault δ}
    {run : δ → Entries → Except Fault Entries} {writer : δ → FieldWriter}
    (h : ∀ d, run d = (writer d).decorate) :
    factory make run = factory (fun config => (make config).map writer) FieldWriter.decorate := by
  funext config
  unfold factory
  dsimp only
  cases make config.config with
  | error fault => rfl
  | ok d => exact congrArg (fun run => Except.ok (Decorator.ofMessages run)) (h d)

theorem factories_builtin :
    builtin.factories = FieldWriter.builtin.map fun (name, make) =>
      (.str name, factory make FieldWriter.decorate) := by
  unfold builtin
  rw [factory_writer SeverityMapper.decorate_eq, factory_writer TemplateWriter.decorate_eq,
    factory_writer TableLookup.decorate_eq]
  rfl

theorem exists_writer_of_make {d : Decorator} (h : builtin.make config = .ok d) :
    ∃ writer : FieldWriter, config.Makes writer ∧ Decorator.ofMessages writer.decorate = d := by
  obtain ⟨_, registered, made⟩ := exists_of_make h
  obtain ⟨entry, found, rfl⟩ := Option.map_eq_some_iff.1 registered
  have like := List.find?_some found
  have present := List.mem_of_find?_eq_some found
  rw [factories_builtin] at present
  obtain ⟨⟨name, make⟩, listed, rfl⟩ := List.mem_map.1 present
  obtain ⟨writer, faultless, rfl⟩ := exists_of_map_eq_ok made
  exact ⟨writer, ⟨name, make, listed, Value.str_alike_iff.1 like, eq_ok_of_ofFaults faultless⟩, rfl⟩

/-- A decorator of messages changes the messages of a response, each by itself. -/
theorem messages_of_ofMessages {f : Entries → Except Fault Entries} {revision : Revision}
    (h : Decorator.ofMessages f r = .ok revision) :
    ∃ messages, List.Forall₂ (fun m next => Decorator.onSummary f m = .ok next) r.messages messages ∧
      revision.apply r = { r with messages } := by
  unfold Decorator.ofMessages at h
  split at h
  · rename_i none
    obtain rfl := Except.ok.inj h
    refine ⟨r.messages, ?_, rfl⟩
    rw [List.isEmpty_iff.1 none]
    exact .nil
  · obtain ⟨messages, faultless, h⟩ := exists_of_bind_eq_ok h
    obtain rfl := Except.ok.inj h
    exact ⟨messages, mapM_eq_ok_iff.1 (eq_ok_of_ofFaults faultless), rfl⟩

theorem messages_of_turn (h : builtin.turn r config = .ok s) :
    ∃ writer : FieldWriter, config.Makes writer ∧
      ∃ messages, List.Forall₂ (fun m next => Decorator.onSummary writer.decorate m = .ok next)
        r.messages messages ∧ s = { r with messages } := by
  obtain ⟨d, made, h⟩ := exists_of_bind_eq_ok h
  obtain ⟨writer, makes, rfl⟩ := exists_writer_of_make made
  refine ⟨writer, makes, ?_⟩
  split at h
  · rename_i revision ran
    obtain ⟨messages, each, applied⟩ := messages_of_ofMessages ran
    exact ⟨messages, each, (Except.ok.inj h).symm.trans applied⟩
  · cases h

/-- The turns of built-in decorators change the messages of a response by their writers. -/
theorem messages_of_turns (h : configs.foldlM builtin.turn r = .ok s) :
    ∃ writers, List.Forall₂ DecoratorConfig.Makes configs writers ∧
      ∃ messages, List.Forall₂ (Summary.Becomes writers) r.messages messages ∧
        s = { r with messages } := by
  induction configs generalizing r with
  | nil =>
    obtain rfl := Except.ok.inj h
    exact ⟨[], .nil, r.messages, List.forall₂_same.2 fun m _ => Summary.Becomes.refl m, rfl⟩
  | cons config rest ih =>
    rw [List.foldlM_cons] at h
    obtain ⟨between, first, h⟩ := exists_of_bind_eq_ok h
    obtain ⟨writer, makes, changed, each, rfl⟩ := messages_of_turn first
    obtain ⟨writers, others, messages, become, rfl⟩ := ih h
    refine ⟨writer :: writers, .cons makes others, messages, ?_, rfl⟩
    refine forall₂_comp ?_ each become
    intro m next changed first rest
    exact rest.cons first

/-- When a chain succeeds, its settings have an order, and its turns succeed. -/
theorem turns_of_decorate {revision : Revision} {start finish : Session σ}
    (h : Flow.exec (chain.decorate r configs) start = (.ok revision, finish)) :
    ∃ sorted, Sorted.sortBy DecoratorConfig.order configs = .ok sorted ∧
      sorted.foldlM chain.turn r = .ok (revision.apply r) := by
  obtain ⟨sorted, _, inOrder, -⟩ := Flow.exists_of_exec_bind h
  have inOrder := (Flow.eq_ok_of_exec_ofFault inOrder).1
  refine ⟨sorted, inOrder, ?_⟩
  obtain ⟨_, ends, turns⟩ := chain.ends_decorate r start.world inOrder
  obtain ⟨log, ran⟩ := ends start.log
  obtain rfl := (Prod.mk.inj (h.symm.trans ran)).1
  exact turns.symm

/-- When the turns succeed, in the order of the settings, so does the chain. -/
theorem exists_decorate_of_turns {sorted : List DecoratorConfig}
    (inOrder : Sorted.sortBy DecoratorConfig.order configs = .ok sorted)
    (h : sorted.foldlM chain.turn r = .ok s) :
    ∃ revision finish,
      Flow.exec (chain.decorate r configs : Flow Unit Revision) ⟨(), []⟩ = (.ok revision, finish) ∧
        revision.apply r = s := by
  obtain ⟨outcome, ends, turns⟩ := chain.ends_decorate r () inOrder
  rw [h] at turns
  obtain ⟨revision, rfl, applied⟩ := exists_of_map_eq_ok turns
  obtain ⟨log, ran⟩ := ends []
  exact ⟨revision, ⟨(), log⟩, ran, applied⟩

theorem exists_decorate_singleton (h : chain.turn r config = .ok s) :
    ∃ revision finish,
      Flow.exec (chain.decorate r [config] : Flow Unit Revision) ⟨(), []⟩ = (.ok revision, finish) ∧
        revision.apply r = s := by
  refine exists_decorate_of_turns (Sorted.sortBy_singleton DecoratorConfig.order config) ?_
  rw [List.foldlM_cons, h]
  rfl

/-- When the built-in decorators succeed, each message has for an identifier what was last written
under that name by the writers that the settings make, in their order, and the identifier it had if
nothing was.  So the identifiers are the same, in the same order, when no target is that name. -/
theorem ids_of_decorate {revision : Revision} {start finish : Session σ}
    (done : Flow.exec (builtin.decorate r configs) start = (.ok revision, finish)) :
    ∃ sorted writers, Sorted.sortBy DecoratorConfig.order configs = .ok sorted ∧
      List.Forall₂ DecoratorConfig.Makes sorted writers ∧
      (revision.apply r).messages.map Summary.id? = r.messages.map (fun m =>
        (FieldWriter.written "_id" writers m.fields).getLast?.or m.id?) ∧
      ((∀ c ∈ configs, ∀ d, c.Makes d → d.target ≠ idField) →
        (revision.apply r).messages.map Summary.id? = r.messages.map Summary.id?) := by
  obtain ⟨sorted, inOrder, turns⟩ := turns_of_decorate done
  obtain ⟨writers, makes, messages, become, applied⟩ := messages_of_turns turns
  have ids : (revision.apply r).messages.map Summary.id? = r.messages.map (fun m =>
      (FieldWriter.written "_id" writers m.fields).getLast?.or m.id?) := by
    rw [applied, ← List.forall₂_eq_eq_eq, List.forall₂_map_left_iff, List.forall₂_map_right_iff]
    exact become.flip.imp fun changed m h => Summary.Becomes.id? h
  refine ⟨sorted, writers, inOrder, makes, ids, ?_⟩
  intro apart
  rw [ids]
  apply List.map_congr_left
  intro m _
  have other : ∀ d ∈ writers, d.target ≠ .str "_id" := by
    intro d hd
    obtain ⟨c, hc, made⟩ := exists_mem_of_forall₂ makes hd
    exact apart c ((Sorted.perm_of_sortBy inOrder).mem_iff.1 hc) d made
  rw [FieldWriter.written_eq_nil other]
  rfl

/-- A mapper of severities that writes where it reads leaves the identifier alone. -/
theorem ids_of_decorate_severity :
    let start : DateTime := ⟨0, some .utc, by decide⟩
    let m : Summary := ⟨.map [], [(.str "_id", .str "i"), (.str "level", .int 3)], .str "graylog_0"⟩
    let r : Response := ⟨.str "*", .str "*", [m], .int 1, start, start, [], [], 0⟩
    let config : DecoratorConfig := { type := .str "syslog_severity_mapper" }
    ∃ revision finish,
      Flow.exec (builtin.decorate r [config] : Flow Unit Revision) ⟨(), []⟩ =
        (.ok revision, finish) ∧
      (revision.apply r).messages.map Summary.id? = [some (.str "i")] := by
  intro start m r config
  let changed : Summary := { m with fields := [(.str "_id", .str "i"), (.str "level", .str "Error (3)")] }
  have turn : builtin.turn r config = .ok { r with messages := [changed] } := by
    cbv
  obtain ⟨revision, finish, ran, -⟩ := exists_decorate_singleton turn
  refine ⟨revision, finish, ran, ?_⟩
  obtain ⟨-, -, -, -, -, same⟩ := ids_of_decorate ran
  apply same
  rintro c hc d ⟨name, make, listed, type, made⟩
  obtain rfl := List.mem_singleton.1 hc
  obtain rfl : "syslog_severity_mapper" = name := Value.str.inj type
  obtain rfl : make = fun config => (SeverityMapper.ofConfig config).map (·.writer) := by
    simpa [FieldWriter.builtin] using listed
  obtain rfl : SeverityMapper.writer ⟨.str "level", .str "level"⟩ = d := Except.ok.inj made
  simp [SeverityMapper.writer, idField]

/-- A mapper of severities whose target is the name of the identifier writes over it. -/
theorem ids_of_decorate_target_id :
    let start : DateTime := ⟨0, some .utc, by decide⟩
    let m : Summary := ⟨.map [], [(.str "_id", .str "i"), (.str "level", .int 3)], .str "graylog_0"⟩
    let r : Response := ⟨.str "*", .str "*", [m], .int 1, start, start, [], [], 0⟩
    let config : DecoratorConfig :=
      { type := .str "syslog_severity_mapper", config := .record [("target_field", .str "_id")] }
    ∃ revision finish,
      Flow.exec (builtin.decorate r [config] : Flow Unit Revision) ⟨(), []⟩ =
        (.ok revision, finish) ∧
      r.messages.map Summary.id? = [some (.str "i")] ∧
      (revision.apply r).messages.map Summary.id? = [some (.str "Error (3)")] := by
  intro start m r config
  let changed : Summary := { m with fields := [(.str "_id", .str "Error (3)"), (.str "level", .int 3)] }
  have turn : builtin.turn r config = .ok { r with messages := [changed] } := by
    cbv
  obtain ⟨revision, finish, ran, applied⟩ := exists_decorate_singleton turn
  refine ⟨revision, finish, ran, rfl, ?_⟩
  rw [applied]
  rfl

end DecoratorChain

end LogSearch
