import LogSearch.Proofs.Decoration.Sequence
import LogSearch.Proofs.Value.Access
import LogSearch.Proofs.Value.Entries

/-!
# How a chain of decorators fails

In its turn a decorator may have no factory, its factory may fail, or its run may: a `Mishap`.  A chain
ends with its first mishap, in the order of the settings.  A report comes up as it is, and a fault
becomes the cause of a report that names the type of the decorator.  There is one exception: a fault in
making a decorator that does not tell of its settings comes up bare.  `IsMisshapen` says with which
settings the built-in decorators have such a fault.

Main statement: `DecoratorChain.outcome_failures`.
-/

namespace LogSearch

/-- What goes wrong in the turn of a decorator: it has no factory, or its making fails, or its run. -/
inductive Mishap
  | unknownType
  | making (failure : Failure)
  | running (failure : Failure)

namespace Mishap

/-- How a mishap is reported of a decorator of some type. -/
def told (type : Value) : Mishap → Failure
  | unknownType => (Report.failedDecoration type "unknown decorator type").failure
  | making failure => failure.reported fun fault =>
    .failedDecoration type ("invalid configuration: " ++ fault.message)
  | running failure => failure.reported fun fault => .failedDecoration type fault.message

/-- The fault of a mishap that comes up bare: one in the making that does not tell of the settings. -/
def bare? : Mishap → Option Fault
  | making (.fault fault) => if DecoratorChain.isSettingsFault fault.kind then none else some fault
  | _ => none

theorem isReport_told (type : Value) (m : Mishap) : (m.told type).isReport = true := by
  cases m with
  | unknownType => rfl
  | making failure => cases failure <;> rfl
  | running failure => cases failure <;> rfl

theorem bare?_eq_some {m : Mishap} {fault : Fault} :
    m.bare? = some fault ↔
      m = .making (.fault fault) ∧ DecoratorChain.isSettingsFault fault.kind = false := by
  constructor
  · intro h
    unfold bare? at h
    split at h
    · rename_i other
      by_cases tells : DecoratorChain.isSettingsFault other.kind = true
      · rw [if_pos tells] at h
        cases h
      · rw [if_neg tells] at h
        obtain rfl := Option.some.inj h
        exact ⟨rfl, Bool.not_eq_true _ ▸ tells⟩
    · cases h
  · rintro ⟨rfl, untold⟩
    exact if_neg (Bool.eq_false_iff.1 untold)

end Mishap

/-- Settings of a built-in decorator with which its making has a fault that comes up bare: the settings
of a mapper of severities are no map, or the table of a table lookup is none. -/
inductive IsMisshapen : String → Value → Fault → Prop
  | severity {config : Value} (isOther : ¬ config.IsMap) :
    IsMisshapen "syslog_severity_mapper" config (.noAttribute config.fullKind "get")
  | table {entries : Entries} {source table : Value}
      (isSource : Entries.get? entries (.str "source_field") = some source)
      (isTable : Entries.get? entries (.str "table") = some table) (isOther : ¬ table.IsMap) :
    IsMisshapen "lookup_table" (.map entries) (.noAttribute table.fullKind "items")

section Settings

variable {config : Value} {fault : Fault}

/-- Where an item is missing the fault tells of the settings. -/
theorem Value.isSettingsFault_of_item {v : Value} {name : String} (h : v.item name = .error fault) :
    DecoratorChain.isSettingsFault fault.kind = true := by
  by_cases isMap : v.IsMap
  · obtain ⟨entries, rfl⟩ := isMap
    rw [Value.item_map] at h
    cases found : Entries.get? entries (.str name) with
    | none =>
      rw [found] at h
      obtain rfl := Except.error.inj h
      rfl
    | some x => rw [found] at h; cases h
  · obtain ⟨other, failed, kind⟩ := Value.item_of_other isMap name
    rw [failed] at h
    obtain rfl := Except.error.inj h
    rw [kind]
    rfl

theorem IsMisshapen.untold {name : String} (h : IsMisshapen name config fault) :
    DecoratorChain.isSettingsFault fault.kind = false := by
  cases h <;> rfl

theorem SeverityMapper.ofConfig_eq_error :
    SeverityMapper.ofConfig config = .error fault ↔
      IsMisshapen "syslog_severity_mapper" config fault := by
  constructor
  · intro h
    by_cases isMap : config.IsMap
    · obtain ⟨entries, rfl⟩ := isMap
      cases h
    · unfold SeverityMapper.ofConfig at h
      rw [Value.field_of_other isMap] at h
      obtain rfl := Except.error.inj h
      exact .severity isMap
  · intro h
    generalize type : "syslog_severity_mapper" = name at h
    cases h with
    | severity isOther =>
      unfold SeverityMapper.ofConfig
      rw [Value.field_of_other isOther]
      rfl
    | table => exact absurd type (by decide)

/-- Whatever is wrong with the settings of a template, the fault tells of them. -/
theorem TemplateWriter.isSettingsFault_of_ofConfig (h : TemplateWriter.ofConfig config = .error fault) :
    DecoratorChain.isSettingsFault fault.kind = true := by
  unfold TemplateWriter.ofConfig at h
  cases hTemplate : config.item "format_string" with
  | error e =>
    rw [hTemplate] at h
    obtain rfl := Except.error.inj h
    exact Value.isSettingsFault_of_item hTemplate
  | ok template =>
    obtain ⟨entries, rfl, -⟩ := Value.exists_of_item hTemplate
    cases hTarget : (Value.map entries).item "target_field" with
    | error e =>
      rw [hTemplate, hTarget] at h
      obtain rfl := Except.error.inj h
      exact Value.isSettingsFault_of_item hTarget
    | ok target =>
      rw [hTemplate, hTarget, Value.field_map] at h
      cases template with
      | str template => cases h
      | _ =>
        obtain rfl := Except.error.inj h
        rfl

theorem not_isMisshapen_template : ¬ IsMisshapen "format_string" config fault := by
  intro h
  generalize type : "format_string" = name at h
  cases h with
  | severity => exact absurd type (by decide)
  | table => exact absurd type (by decide)

theorem TableLookup.ofConfig_map_eq_error {entries : Entries} {source : Value}
    (isSource : Entries.get? entries (.str "source_field") = some source) :
    TableLookup.ofConfig (.map entries) = .error fault ↔
      ((Entries.get? entries (.str "table")).getD (.map [])).items = .error fault := by
  unfold TableLookup.ofConfig
  rw [Value.item_map, isSource, Value.field_map, Value.field_map, Value.field_map]
  simp only [bind, Except.bind]
  cases ((Entries.get? entries (.str "table")).getD (.map [])).items with
  | error e =>
    constructor
    · intro h
      exact congrArg Except.error (Except.error.inj h)
    · intro h
      exact congrArg Except.error (Except.error.inj h)
  | ok es =>
    constructor
    · intro h
      cases h
    · intro h
      cases h

theorem TableLookup.ofConfig_eq_error (untold : DecoratorChain.isSettingsFault fault.kind = false) :
    TableLookup.ofConfig config = .error fault ↔ IsMisshapen "lookup_table" config fault := by
  constructor
  · intro h
    cases hSource : config.item "source_field" with
    | error e =>
      unfold TableLookup.ofConfig at h
      rw [hSource] at h
      obtain rfl := Except.error.inj h
      rw [Value.isSettingsFault_of_item hSource] at untold
      cases untold
    | ok source =>
      obtain ⟨entries, rfl, isSource⟩ := Value.exists_of_item hSource
      rw [TableLookup.ofConfig_map_eq_error isSource] at h
      cases isTable : Entries.get? entries (.str "table") with
      | none =>
        rw [isTable] at h
        cases h
      | some table =>
        rw [isTable, Option.getD_some] at h
        by_cases isMap : table.IsMap
        · obtain ⟨_, rfl⟩ := isMap
          cases h
        · rw [Value.items_of_other isMap] at h
          obtain rfl := Except.error.inj h
          exact .table isSource isTable isMap
  · intro h
    generalize type : "lookup_table" = name at h
    cases h with
    | severity => exact absurd type (by decide)
    | table isSource isTable isOther =>
      rw [TableLookup.ofConfig_map_eq_error isSource, isTable, Option.getD_some]
      exact Value.items_of_other isOther

end Settings

namespace DecoratorChain

variable {chain : DecoratorChain} {r : Response} {config : DecoratorConfig}
  {configs : List DecoratorConfig} {m : Mishap} {name : String} {fault : Fault}

/-- Something goes wrong when a decorator takes its turn on a response. -/
inductive Suffers (chain : DecoratorChain) (r : Response) (config : DecoratorConfig) : Mishap → Prop
  | unknownType (missing : chain.factory? config.type = none) : Suffers chain r config .unknownType
  | making {make : DecoratorFactory} {failure : Failure}
      (found : chain.factory? config.type = some make) (failed : make config = .error failure) :
    Suffers chain r config (.making failure)
  | running {make : DecoratorFactory} {d : Decorator} {failure : Failure}
      (found : chain.factory? config.type = some make) (made : make config = .ok d)
      (failed : d r = .error failure) :
    Suffers chain r config (.running failure)

/-- In the order of the settings, a decorator is the first that something goes wrong with. -/
def FirstMishap (chain : DecoratorChain) (r : Response) (configs : List DecoratorConfig)
    (config : DecoratorConfig) (m : Mishap) : Prop :=
  ∃ before after s, Sorted.stable DecoratorConfig.place configs = before ++ config :: after ∧
    chain.outcome r before = .ok s ∧ chain.Suffers s config m

theorem make_of_missing (typed : config.type = .str name)
    (missing : chain.factory? config.type = none) :
    chain.make config = .error (Mishap.unknownType.told config.type) := by
  rw [typed] at missing ⊢
  unfold make
  rw [typed]
  simp only [missing]
  rfl

/-- With a factory only a fault that tells of the settings is changed on the way. -/
theorem make_of_found {make : DecoratorFactory} (typed : config.type = .str name)
    (found : chain.factory? config.type = some make) :
    chain.make config =
      match make config with
      | .ok d => .ok d
      | .error failure =>
        .error (((Mishap.making failure).bare?).elim ((Mishap.making failure).told config.type)
          .fault) := by
  rw [typed] at found
  unfold DecoratorChain.make
  rw [typed]
  simp only [found]
  cases made : make config with
  | ok d => rfl
  | error failure =>
    cases failure with
    | search report cause => rfl
    | fault fault =>
      unfold Mishap.bare?
      dsimp only
      split
      · rfl
      · rfl

theorem turn_of_suffers (typed : config.type = .str name) (h : chain.Suffers r config m) :
    chain.turn r config = .error (m.bare?.elim (m.told config.type) .fault) := by
  unfold turn
  cases h with
  | unknownType missing =>
    rw [make_of_missing typed missing]
    rfl
  | making found failed =>
    rw [make_of_found typed found, failed]
    rfl
  | running found made failed =>
    rw [make_of_found typed found, made]
    simp only [bind, Except.bind, failed]
    rfl

/-- A turn that fails has a mishap. -/
theorem exists_suffers {e : Failure} (typed : config.type = .str name)
    (h : chain.turn r config = .error e) : ∃ m, chain.Suffers r config m := by
  cases found : chain.factory? config.type with
  | none => exact ⟨_, .unknownType found⟩
  | some make =>
    cases made : make config with
    | error failure => exact ⟨_, .making found made⟩
    | ok d =>
      cases ran : d r with
      | error failure => exact ⟨_, .running found made ran⟩
      | ok next =>
        unfold turn at h
        rw [make_of_found typed found, made] at h
        simp only [bind, Except.bind, ran] at h
        cases h

/-- The built-in decorators whose making has a fault that comes up bare are those with misshapen
settings. -/
theorem bare_of_builtin {make : DecoratorFactory} (h : (.str name, make) ∈ builtin.factories) :
    make config = .error (.fault fault) ∧ isSettingsFault fault.kind = false ↔
      IsMisshapen name config.config fault := by
  have made {δ : Type} {make : Value → Except Fault δ} {run : δ → Entries → Except Fault Entries} :
      factory make run config = .error (.fault fault) ↔ make config.config = .error fault := by
    unfold factory
    cases make config.config with
    | ok d =>
      constructor
      · intro h
        cases h
      · intro h
        cases h
    | error other =>
      constructor
      · intro h
        exact congrArg Except.error (Failure.fault.inj (Except.error.inj h))
      · intro h
        exact congrArg (fun e => Except.error (Failure.fault e)) (Except.error.inj h)
  simp only [builtin, List.mem_cons, List.not_mem_nil, or_false, Prod.mk.injEq, Value.str.injEq] at h
  rcases h with ⟨rfl, rfl⟩ | ⟨rfl, rfl⟩ | ⟨rfl, rfl⟩
  · rw [made, SeverityMapper.ofConfig_eq_error]
    constructor
    · rintro ⟨h, -⟩
      exact h
    · intro h
      exact ⟨h, h.untold⟩
  · rw [made]
    constructor
    · rintro ⟨failed, untold⟩
      rw [TemplateWriter.isSettingsFault_of_ofConfig failed] at untold
      cases untold
    · intro h
      exact absurd h not_isMisshapen_template
  · rw [made]
    constructor
    · rintro ⟨failed, untold⟩
      exact (TableLookup.ofConfig_eq_error untold).1 failed
    · intro h
      exact ⟨(TableLookup.ofConfig_eq_error h.untold).2 h, h.untold⟩

/-- A chain fails with its first mishap, in the order of the settings, and only with one.  The mishap is
reported with the type of its decorator, and a fault in it is the cause, unless it is a fault in making
the decorator that does not tell of the settings.  Of the built-in decorators those with misshapen
settings have such a fault. -/
theorem outcome_failures (chain : DecoratorChain) (r : Response) (configs : List DecoratorConfig)
    (placed : ∀ c ∈ configs, c.isPlaced = true) (typed : ∀ c ∈ configs, ∃ name, c.type = .str name) :
    ((∃ s, chain.outcome r configs = .ok s) ∨
        ∃ config m, chain.FirstMishap r configs config m) ∧
      (∀ config m, chain.FirstMishap r configs config m →
        (m.bare? = none → chain.outcome r configs = .error (m.told config.type) ∧
          (m.told config.type).isReport = true) ∧
        ∀ fault, m.bare? = some fault → chain.outcome r configs = .error (.fault fault) ∧
          m = .making (.fault fault) ∧ isSettingsFault fault.kind = false) ∧
      ∀ name make, (.str name, make) ∈ builtin.factories → ∀ config fault,
        make config = .error (.fault fault) ∧ isSettingsFault fault.kind = false ↔
          IsMisshapen name config.config fault := by
  refine ⟨?_, ?_, ?_⟩
  · cases h : chain.outcome r configs with
    | ok s => exact .inl ⟨s, rfl⟩
    | error e =>
      right
      obtain ⟨before, config, after, s, inOrder, fine, failed⟩ :=
        (chain.outcome_eq_error_iff r placed).1 h
      obtain ⟨name, type⟩ := typed config (Sorted.mem_of_stable_eq inOrder)
      rw [outcome_singleton] at failed
      obtain ⟨m, suffers⟩ := exists_suffers type failed
      exact ⟨config, m, before, after, s, inOrder, fine, suffers⟩
  · rintro config m ⟨before, after, s, inOrder, fine, suffers⟩
    obtain ⟨name, type⟩ := typed config (Sorted.mem_of_stable_eq inOrder)
    have failed : chain.outcome r configs = .error (m.bare?.elim (m.told config.type) .fault) := by
      apply (chain.outcome_eq_error_iff r placed).2
      refine ⟨before, config, after, s, inOrder, fine, ?_⟩
      rw [outcome_singleton]
      exact turn_of_suffers type suffers
    constructor
    · intro told
      rw [told] at failed
      exact ⟨failed, m.isReport_told config.type⟩
    · intro fault bare
      rw [bare] at failed
      exact ⟨failed, Mishap.bare?_eq_some.1 bare⟩
  · intro name make listed config fault
    exact bare_of_builtin listed

/-- A table lookup that does its work, and after it a template without its text. -/
theorem outcome_failures_missing_template :
    let start : DateTime := ⟨0, some .utc, by decide⟩
    let m : Summary := ⟨.map [], [(.str "_id", .str "i"), (.str "a", .str "x")], .str "graylog_0"⟩
    let r : Response := ⟨.str "*", .str "*", [m], .int 1, start, start, [], [], 0⟩
    let first : DecoratorConfig :=
      { type := .str "lookup_table", order := .int 1
        config := .record [("source_field", .str "a"), ("table", .record [("x", .str "y")])] }
    let second : DecoratorConfig := { type := .str "format_string", order := .int 2 }
    let missing : Fault := .missingKey (.str "format_string")
    builtin.outcome r [first, second] =
      .error (.search (.failedDecoration (.str "format_string")
        ("invalid configuration: " ++ missing.message)) (some (.fault missing))) := by
  intro start m r first second missing
  have placed : ∀ c ∈ [first, second], c.isPlaced = true := by decide
  have typed : ∀ c ∈ [first, second], ∃ name, c.type = .str name := by
    intro c hc
    rcases List.mem_pair.1 hc with rfl | rfl
    · exact ⟨_, rfl⟩
    · exact ⟨_, rfl⟩
  have before : first.place ≤ second.place := by decide
  have ascends : Sorted.Ascends DecoratorConfig.place [first, second] := List.pairwise_pair.2 before
  let changed : Summary := { m with fields := m.fields ++ [(.str "a_decorated", .str "y")] }
  have fine : builtin.outcome r [first] = .ok { r with messages := [changed] } := by
    rw [outcome_singleton]
    rfl
  have suffers : builtin.FirstMishap r [first, second] second (.making (.fault missing)) :=
    ⟨[first], [], _, Sorted.stable_of_ascends ascends, fine, .making rfl rfl⟩
  exact (((builtin.outcome_failures r [first, second] placed typed).2.1 second _ suffers).1 rfl).1

/-- A table lookup whose table is a list is not reported. -/
theorem outcome_table_of_list :
    let start : DateTime := ⟨0, some .utc, by decide⟩
    let m : Summary := ⟨.map [], [(.str "_id", .str "i"), (.str "a", .str "x")], .str "graylog_0"⟩
    let r : Response := ⟨.str "*", .str "*", [m], .int 1, start, start, [], [], 0⟩
    let config : DecoratorConfig :=
      { type := .str "lookup_table"
        config := .record [("source_field", .str "a"), ("table", .list [])] }
    builtin.outcome r [config] = .error (.fault (.noAttribute "list" "items")) := by
  intro start m r config
  rw [outcome_singleton]
  rfl

end DecoratorChain

end LogSearch
