import LogSearch.Proofs.Decoration.Builtin
import LogSearch.Proofs.Value.Access

/-!
# Where the built-in decorators write

The settings of a built-in decorator say under which name it writes, its target: the name that they
give, or else one that follows from where the decorator reads.  A chain of them leaves everything of a
response alone but the fields of its messages, and of these all that are no target.  Keys keep their
sequence, and what is new stands behind them.

`Entries.Extends` is what one decorator, and so any number of them, does to the fields of a message.

Main statement: `DecoratorChain.fields_of_decorate`.
-/

namespace LogSearch

/-- Entries are what others have become where only keys in `written` were written: those keys may be
new, behind all others, and under all other keys there is what was there before. -/
structure Entries.Extends (written : Value → Prop) (before after : Entries) : Prop where
  keys : ∃ new, Entries.keys after = Entries.keys before ++ new ∧ ∀ key ∈ new, written key
  same : ∀ key, ¬ written key → get? after key = get? before key

namespace Entries.Extends

variable {written more : Value → Prop} {before between after : Entries}

theorem refl (written : Value → Prop) (entries : Entries) : Extends written entries entries :=
  ⟨⟨[], by simp⟩, fun _ _ => rfl⟩

theorem trans (first : Extends written before between) (second : Extends written between after) :
    Extends written before after := by
  obtain ⟨new, keys, isNew⟩ := first.keys
  obtain ⟨others, keys', isNew'⟩ := second.keys
  refine ⟨⟨new ++ others, ?_, ?_⟩, ?_⟩
  · rw [keys', keys, List.append_assoc]
  · intro key member
    rcases List.mem_append.1 member with member | member
    · exact isNew key member
    · exact isNew' key member
  · intro key unwritten
    rw [second.same key unwritten, first.same key unwritten]

theorem mono (h : Extends written before after) (weaker : ∀ key, written key → more key) :
    Extends more before after := by
  obtain ⟨new, keys, isNew⟩ := h.keys
  refine ⟨⟨new, keys, fun key member => weaker key (isNew key member)⟩, ?_⟩
  intro key unwritten
  exact h.same key (mt (weaker key) unwritten)

/-- What is put under a text is all that changes. -/
theorem put {name : String} (isWritten : written (.str name)) (entries : Entries) (v : Value) :
    Extends written entries (Entries.put entries (.str name) v) := by
  refine ⟨?_, ?_⟩
  · rw [Entries.keys_put]
    split
    · exact ⟨[], by simp⟩
    · exact ⟨[.str name], rfl, by simpa using isWritten⟩
  · intro key unwritten
    have other : key ≠ .str name := by
      rintro rfl
      exact unwritten isWritten
    exact get?_put_ne other

end Entries.Extends

/-- Writers change a message under their targets only. -/
theorem FieldWriter.extends_of_decorateAll {writers : List FieldWriter} {message changed : Entries}
    (h : decorateAll writers message = .ok changed)
    (named : ∀ d ∈ writers, ∃ name, d.target = .str name) :
    Entries.Extends (fun key => ∃ d ∈ writers, d.target = key) message changed := by
  induction writers generalizing message with
  | nil =>
    obtain rfl := Except.ok.inj h
    exact .refl _ _
  | cons d rest ih =>
    obtain ⟨⟨name, target⟩, namedRest⟩ := List.forall_mem_cons.1 named
    obtain ⟨next, first, h⟩ := decorateAll_cons_eq_ok_iff.1 h
    have others : Entries.Extends (fun key => ∃ e ∈ d :: rest, e.target = key) next changed := by
      refine (ih h namedRest).mono ?_
      rintro key ⟨e, he, same⟩
      exact ⟨e, List.mem_cons_of_mem d he, same⟩
    have isWritten : ∃ e ∈ d :: rest, e.target = .str name := ⟨d, List.mem_cons_self, target⟩
    rcases decorate_eq_ok_iff.1 first with ⟨-, rfl⟩ | ⟨v, -, -, rfl⟩
    · exact others
    · rw [target] at others
      exact (Entries.Extends.put isWritten message v).trans others

/-- The name under which a built-in decorator with some settings writes.  A mapper of severities writes
where it reads unless it is told otherwise, and a table beside the field that it reads. -/
def DecoratorConfig.target? (c : DecoratorConfig) : Option Value :=
  match c.type, c.config with
  | .str type, .map entries =>
    let named := Entries.get? entries (.str "target_field")
    let source := Entries.get? entries (.str "source_field")
    if type = "syslog_severity_mapper" then some ((named.or source).getD (.str "level"))
    else if type = "format_string" then named
    else if type = "lookup_table" then
      (named.filter Value.isTrue).or (source.map fun v => .str (v.plain ++ "_decorated"))
    else none
  | _, _ => none

/-- The names of fields that a decorator is given are texts, so that it writes under a text. -/
def DecoratorConfig.HasTextTarget (c : DecoratorConfig) : Prop :=
  ∀ v ∈ c.target?, ∃ name, v = .str name

section Targets

variable {config : Value}

theorem SeverityMapper.target_of_ofConfig {d : SeverityMapper} (h : ofConfig config = .ok d) :
    ∃ entries, config = .map entries ∧ d.target =
      ((Entries.get? entries (.str "target_field")).or
        (Entries.get? entries (.str "source_field"))).getD (.str "level") := by
  by_cases isMap : config.IsMap
  · obtain ⟨entries, rfl⟩ := isMap
    obtain rfl := Except.ok.inj h
    refine ⟨entries, rfl, ?_⟩
    cases Entries.get? entries (.str "target_field") <;> rfl
  · unfold ofConfig at h
    rw [Value.field_of_other isMap] at h
    cases h

theorem TemplateWriter.target_of_ofConfig {d : TemplateWriter} (h : ofConfig config = .ok d) :
    ∃ entries, config = .map entries ∧ Entries.get? entries (.str "target_field") = some d.target := by
  obtain ⟨template, -, h⟩ := exists_of_bind_eq_ok h
  obtain ⟨target, hasTarget, h⟩ := exists_of_bind_eq_ok h
  obtain ⟨requireAll, -, h⟩ := exists_of_bind_eq_ok h
  obtain ⟨entries, rfl, found⟩ := Value.exists_of_item hasTarget
  cases template with
  | str template =>
    obtain rfl := Except.ok.inj h
    exact ⟨entries, rfl, found⟩
  | _ => cases h

theorem TableLookup.target_of_ofConfig {d : TableLookup} (h : ofConfig config = .ok d) :
    ∃ entries, config = .map entries ∧
      ((Entries.get? entries (.str "target_field")).filter Value.isTrue).or
        ((Entries.get? entries (.str "source_field")).map fun v => .str (v.plain ++ "_decorated")) =
          some d.target := by
  obtain ⟨source, hasSource, h⟩ := exists_of_bind_eq_ok h
  obtain ⟨entries, rfl, found⟩ := Value.exists_of_item hasSource
  obtain ⟨table, -, h⟩ := exists_of_bind_eq_ok h
  obtain ⟨target, hasTarget, h⟩ := exists_of_bind_eq_ok h
  obtain ⟨default, -, h⟩ := exists_of_bind_eq_ok h
  obtain ⟨rows, -, h⟩ := exists_of_bind_eq_ok h
  obtain rfl := Except.ok.inj h
  refine ⟨entries, rfl, ?_⟩
  obtain rfl := Except.ok.inj hasTarget
  rw [found]
  cases Entries.get? entries (.str "target_field") with
  | none => rfl
  | some v => cases given : v.isTrue <;> simp [Option.filter, given]

/-- The target of a writer is the one that its settings name. -/
theorem DecoratorConfig.target?_of_makes {c : DecoratorConfig} {d : FieldWriter} (h : c.Makes d) :
    c.target? = some d.target := by
  obtain ⟨name, make, listed, type, made⟩ := h
  simp only [FieldWriter.builtin, List.mem_cons, List.not_mem_nil, or_false, Prod.mk.injEq] at listed
  rcases listed with ⟨rfl, rfl⟩ | ⟨rfl, rfl⟩ | ⟨rfl, rfl⟩
  · obtain ⟨mapper, ofConfig, rfl⟩ := exists_of_map_eq_ok made
    obtain ⟨entries, settings, target⟩ := SeverityMapper.target_of_ofConfig ofConfig
    simp [target?, type, settings, SeverityMapper.writer, target]
  · obtain ⟨template, ofConfig, rfl⟩ := exists_of_map_eq_ok made
    obtain ⟨entries, settings, target⟩ := TemplateWriter.target_of_ofConfig ofConfig
    simp [target?, type, settings, TemplateWriter.writer, target]
  · obtain ⟨table, ofConfig, rfl⟩ := exists_of_map_eq_ok made
    obtain ⟨entries, settings, target⟩ := TableLookup.target_of_ofConfig ofConfig
    simp [target?, type, settings, TableLookup.writer, target]

end Targets

namespace DecoratorChain

variable {σ : Type} {r : Response} {configs : List DecoratorConfig}

/-- When the built-in decorators succeed, nothing of the response is changed but its messages, and
nothing of these but their fields.  Each has all the keys it had, in their sequence, and behind them
such that are targets; and what is under a key that is no target is what was there before. -/
theorem fields_of_decorate {revision : Revision} {start finish : Session σ}
    (done : Flow.exec (builtin.decorate r configs) start = (.ok revision, finish))
    (named : ∀ c ∈ configs, c.HasTextTarget) :
    ∃ messages, revision.apply r = { r with messages } ∧
      List.Forall₂ (fun m changed => changed.index = m.index ∧ changed.highlights = m.highlights ∧
        m.fields.Extends (fun key => ∃ c ∈ configs, c.target? = some key) changed.fields)
        r.messages messages := by
  obtain ⟨sorted, inOrder, turns⟩ := turns_of_decorate done
  obtain ⟨writers, makes, messages, become, applied⟩ := messages_of_turns turns
  have given : ∀ d ∈ writers, ∃ c ∈ configs, c.target? = some d.target := by
    intro d hd
    obtain ⟨c, hc, made⟩ := exists_mem_of_forall₂ makes hd
    exact ⟨c, (Sorted.perm_of_sortBy inOrder).mem_iff.1 hc, DecoratorConfig.target?_of_makes made⟩
  have texts : ∀ d ∈ writers, ∃ name, d.target = .str name := by
    intro d hd
    obtain ⟨c, hc, target⟩ := given d hd
    exact named c hc _ target
  refine ⟨messages, applied, become.imp ?_⟩
  rintro m _ ⟨fields, written, rfl⟩
  refine ⟨rfl, rfl, (FieldWriter.extends_of_decorateAll written texts).mono ?_⟩
  rintro _ ⟨d, hd, rfl⟩
  exact given d hd

/-- A mapper of severities, and a table that writes beside the field that it reads. -/
theorem fields_of_decorate_beside :
    let start : DateTime := ⟨0, some .utc, by decide⟩
    let m : Summary := ⟨.map [], [(.str "_id", .str "i"), (.str "level", .int 3), (.str "a", .str "x")],
      .str "graylog_0"⟩
    let r : Response := ⟨.str "*", .str "*", [m], .int 1, start, start, [], [], 0⟩
    let first : DecoratorConfig := { type := .str "syslog_severity_mapper" }
    let second : DecoratorConfig :=
      { type := .str "lookup_table"
        config := .record [("source_field", .str "a"), ("table", .record [("x", .str "y")])] }
    first.target? = some (.str "level") ∧ second.target? = some (.str "a_decorated") ∧
      ∃ revision finish changed,
        Flow.exec (builtin.decorate r [first, second] : Flow Unit Revision) ⟨(), []⟩ =
          (.ok revision, finish) ∧
        revision.apply r = { r with messages := [changed] } ∧
        Entries.get? changed.fields (.str "a") = some (.str "x") := by
  intro start m r first second
  have targets : first.target? = some (.str "level") ∧ second.target? = some (.str "a_decorated") :=
    ⟨by cbv, by cbv⟩
  have placed : ∀ c ∈ [first, second], c.isPlaced = true := by decide
  have ascends : Sorted.Ascends DecoratorConfig.place [first, second] :=
    List.pairwise_pair.2 (by decide)
  have inOrder : Sorted.sortBy DecoratorConfig.order [first, second] = .ok [first, second] := by
    rw [sortBy_order placed, Sorted.stable_of_ascends ascends]
  have turns : ∃ s, [first, second].foldlM builtin.turn r = .ok s := ⟨_, by cbv⟩
  obtain ⟨s, turns⟩ := turns
  obtain ⟨revision, finish, ran, -⟩ := exists_decorate_of_turns inOrder turns
  have named : ∀ c ∈ [first, second], c.HasTextTarget := by
    intro c hc v target
    rcases List.mem_pair.1 hc with rfl | rfl
    · exact ⟨_, (Option.some.inj (targets.1.symm.trans target)).symm⟩
    · exact ⟨_, (Option.some.inj (targets.2.symm.trans target)).symm⟩
  obtain ⟨messages, applied, each⟩ := fields_of_decorate ran named
  obtain ⟨changed, _, ⟨-, -, kept⟩, none, rfl⟩ := List.forall₂_cons_left_iff.1 each
  obtain rfl := List.forall₂_nil_left_iff.1 none
  refine ⟨targets.1, targets.2, revision, finish, changed, ran, applied, ?_⟩
  refine kept.same (.str "a") ?_
  rintro ⟨c, hc, target⟩
  rcases List.mem_pair.1 hc with rfl | rfl
  · simp [targets.1] at target
  · simp [targets.2] at target

end DecoratorChain

end LogSearch
