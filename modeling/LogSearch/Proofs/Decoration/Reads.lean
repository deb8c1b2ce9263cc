import LogSearch.Proofs.Decoration.Frame
import LogSearch.Proofs.Decoration.Template

/-!
# Where the built-in decorators read

What a built-in decorator writes into a message depends on what is under a few names: the field that it
reads, or the fields that its template names.  So a decorator does not see what is written under any
other key.

Main statements: `DecoratorConfig.looksAt_reads`, and `DecoratorConfig.ignores_of_makes` for keys that
settings do not name.
-/

namespace LogSearch

theorem Value.fixed_eq_ok_iff {v : Value} : v.fixed = .ok () ↔ v.changeable? = none := by
  unfold fixed
  cases v.changeable? with
  | none => exact iff_of_true rfl rfl
  | some part => exact iff_of_false nofun nofun

namespace FieldWriter

variable {d : FieldWriter} {names : List Value} {key : Value}

/-- What a writer writes into a message depends on what is under some names only. -/
def LooksAt (d : FieldWriter) (names : List Value) : Prop :=
  ∀ m m' : Entries, (∀ n ∈ names, Entries.get? m n = Entries.get? m' n) → d.value? m = d.value? m'

/-- What a writer writes does not depend on what is under a key, if that can be a key. -/
def Ignores (d : FieldWriter) (key : Value) : Prop :=
  key.fixed = .ok () → ∀ message v, d.value? (Entries.put message key v) = d.value? message

theorem LooksAt.ignores (h : d.LooksAt names) (apart : key.fixed = .ok () → ∀ n ∈ names, key.Apart n) :
    d.Ignores key := by
  intro fixed message v
  refine h _ _ fun n member => ?_
  exact Entries.get?_put_apart (apart fixed n member)

end FieldWriter

section Names

theorem SeverityMapper.looksAt (d : SeverityMapper) : d.writer.LooksAt [d.source] := by
  intro m m' same
  have found := same d.source List.mem_cons_self
  unfold writer
  dsimp only [Value.getOr]
  rw [found]

theorem TemplateWriter.looksAt (d : TemplateWriter) :
    d.writer.LooksAt ((Template.names d.template.toList).map .str) := by
  intro m m' same
  have found : ∀ s ∈ Template.names d.template.toList,
      Entries.get? m (.str s) = Entries.get? m' (.str s) := by
    intro s member
    exact same _ (List.mem_map_of_mem member)
  have all : d.hasAll m = d.hasAll m' := by
    unfold hasAll
    rw [Bool.eq_iff_iff, List.all_eq_true, List.all_eq_true]
    refine forall₂_congr fun s member => ?_
    rw [Entries.has_eq_isSome_get?, Entries.has_eq_isSome_get?, found s member]
  have texts : d.text m = d.text m' :=
    Template.render_congr fun s member => by rw [found s member]
  unfold writer
  dsimp only
  rw [all, texts]

theorem TableLookup.looksAt (d : TableLookup) : d.writer.LooksAt [d.source] := by
  intro m m' same
  have found := same d.source List.mem_cons_self
  unfold writer
  dsimp only
  rw [found]

variable {config : Value}

theorem SeverityMapper.source_of_ofConfig {d : SeverityMapper} (h : ofConfig config = .ok d) :
    ∃ entries, config = .map entries ∧
      d.source = (Entries.get? entries (.str "source_field")).getD (.str "level") := by
  by_cases isMap : config.IsMap
  · obtain ⟨entries, rfl⟩ := isMap
    obtain rfl := Except.ok.inj h
    exact ⟨entries, rfl, rfl⟩
  · unfold ofConfig at h
    rw [Value.field_of_other isMap] at h
    cases h

theorem TemplateWriter.template_of_ofConfig {d : TemplateWriter} (h : ofConfig config = .ok d) :
    ∃ entries, config = .map entries ∧
      Entries.get? entries (.str "format_string") = some (.str d.template) := by
  obtain ⟨template, hasTemplate, h⟩ := exists_of_bind_eq_ok h
  obtain ⟨entries, rfl, found⟩ := Value.exists_of_item hasTemplate
  obtain ⟨target, -, h⟩ := exists_of_bind_eq_ok h
  obtain ⟨requireAll, -, h⟩ := exists_of_bind_eq_ok h
  cases template with
  | str template =>
    obtain rfl := Except.ok.inj h
    exact ⟨entries, rfl, found⟩
  | _ => cases h

theorem TableLookup.source_of_ofConfig {d : TableLookup} (h : ofConfig config = .ok d) :
    ∃ entries, config = .map entries ∧
      Entries.get? entries (.str "source_field") = some d.source := by
  obtain ⟨source, hasSource, h⟩ := exists_of_bind_eq_ok h
  obtain ⟨entries, rfl, found⟩ := Value.exists_of_item hasSource
  obtain ⟨table, -, h⟩ := exists_of_bind_eq_ok h
  obtain ⟨target, -, h⟩ := exists_of_bind_eq_ok h
  obtain ⟨default, -, h⟩ := exists_of_bind_eq_ok h
  obtain ⟨rows, -, h⟩ := exists_of_bind_eq_ok h
  obtain rfl := Except.ok.inj h
  exact ⟨entries, rfl, found⟩

end Names

namespace DecoratorConfig

variable {c : DecoratorConfig} {d : FieldWriter}

/-- The names under which a built-in decorator with some settings reads. -/
def reads (c : DecoratorConfig) : List Value :=
  match c.type, c.config with
  | .str type, .map entries =>
    let source := Entries.get? entries (.str "source_field")
    if type = "syslog_severity_mapper" then [source.getD (.str "level")]
    else if type = "format_string" then
      match Entries.get? entries (.str "format_string") with
      | some (.str template) => (Template.names template.toList).map .str
      | _ => []
    else if type = "lookup_table" then source.toList
    else []
  | _, _ => []

/-- A built-in decorator looks at the names that its settings give. -/
theorem looksAt_reads (h : c.Makes d) : d.LooksAt c.reads := by
  obtain ⟨name, make, listed, type, made⟩ := h
  simp only [FieldWriter.builtin, List.mem_cons, List.not_mem_nil, or_false, Prod.mk.injEq] at listed
  rcases listed with ⟨rfl, rfl⟩ | ⟨rfl, rfl⟩ | ⟨rfl, rfl⟩
  · obtain ⟨mapper, ofConfig, rfl⟩ := exists_of_map_eq_ok made
    obtain ⟨entries, settings, source⟩ := SeverityMapper.source_of_ofConfig ofConfig
    simpa [reads, type, settings, source] using mapper.looksAt
  · obtain ⟨template, ofConfig, rfl⟩ := exists_of_map_eq_ok made
    obtain ⟨entries, settings, found⟩ := TemplateWriter.template_of_ofConfig ofConfig
    simpa [reads, type, settings, found] using template.looksAt
  · obtain ⟨table, ofConfig, rfl⟩ := exists_of_map_eq_ok made
    obtain ⟨entries, settings, source⟩ := TableLookup.source_of_ofConfig ofConfig
    simpa [reads, type, settings, source] using table.looksAt

variable {v : Value}

/-- A decorator does not see what is written under a key that is none of those it reads. -/
theorem ignores_of_makes (h : c.Makes d) (unread : ∀ n ∈ c.reads, v.alike n = false) : d.Ignores v := by
  refine (looksAt_reads h).ignores ?_
  intro fixed n member
  exact Value.apart_of_not_alike (Value.fixed_eq_ok_iff.1 fixed) (unread n member)

end DecoratorConfig

end LogSearch
