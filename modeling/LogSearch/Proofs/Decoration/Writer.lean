import LogSearch.Decoration.Builtin
import LogSearch.Proofs.Flow
import LogSearch.Proofs.Value.Entries

/-!
# Decorators that write one field

Each built-in decorator finds out what it has to write into a message, and writes that under one name,
its target.  A `FieldWriter` is such a decorator, whatever it writes; so what it leaves alone is proved
once, for writers.

Main statement: `FieldWriter.get?_of_writes`: after some writers, a message has under a name what was
written there last, and what it had there if nothing was.
-/

namespace LogSearch

/-- A decorator of messages that writes at most one field. -/
structure FieldWriter where
  target : Value
  /-- What is written into a message, if anything. -/
  value? : Entries → Except Fault (Option Value)

namespace FieldWriter

variable {d : FieldWriter} {writers : List FieldWriter} {message changed : Entries} {name : String}

/-- Changes a message. -/
def decorate (d : FieldWriter) (message : Entries) : Except Fault Entries := do
  match ← d.value? message with
  | none => return message
  | some v =>
    d.target.fixed
    return Entries.put message d.target v

/-- Changes a message by some writers, one after another. -/
def decorateAll (writers : List FieldWriter) (message : Entries) : Except Fault Entries :=
  writers.foldlM (fun message d => d.decorate message) message

/-- The values that some writers, one after another, write under a name. -/
def written (name : String) : List FieldWriter → Entries → List Value
  | [], _ => []
  | d :: rest, message =>
    match d.value? message with
    | .ok (some v) =>
      (if d.target.alike (.str name) then [v] else []) ++
        written name rest (Entries.put message d.target v)
    | _ => written name rest message

/-- A writer keeps a message that it has nothing to write into, and else puts it under its target. -/
theorem decorate_eq_ok_iff : d.decorate message = .ok changed ↔
    (d.value? message = .ok none ∧ changed = message) ∨
      ∃ v, d.value? message = .ok (some v) ∧ d.target.fixed = .ok () ∧
        changed = Entries.put message d.target v := by
  constructor
  · intro h
    obtain ⟨found, value, h⟩ := exists_of_bind_eq_ok h
    cases found with
    | none => exact .inl ⟨value, (Except.ok.inj h).symm⟩
    | some v =>
      obtain ⟨⟨⟩, fixed, h⟩ := exists_of_bind_eq_ok h
      exact .inr ⟨v, value, fixed, (Except.ok.inj h).symm⟩
  · unfold decorate
    rintro (⟨value, rfl⟩ | ⟨v, value, fixed, rfl⟩)
    · rw [value]
      rfl
    · rw [value]
      simp only [bind, Except.bind, fixed]
      rfl

/-- A writer whose target can be a key changes the messages for which it finds out what to write. -/
theorem exists_decorate_iff (fixed : d.target.fixed = .ok ()) :
    (∃ changed, d.decorate message = .ok changed) ↔ ∃ written, d.value? message = .ok written := by
  constructor
  · rintro ⟨changed, done⟩
    rcases decorate_eq_ok_iff.1 done with ⟨value, -⟩ | ⟨v, value, -, -⟩
    · exact ⟨_, value⟩
    · exact ⟨_, value⟩
  · rintro ⟨_ | v, value⟩
    · exact ⟨_, decorate_eq_ok_iff.2 (.inl ⟨value, rfl⟩)⟩
    · exact ⟨_, decorate_eq_ok_iff.2 (.inr ⟨v, value, fixed, rfl⟩)⟩

/-- The first of some writers changes a message, and the others what it makes of it. -/
theorem decorateAll_cons_eq_ok_iff : decorateAll (d :: writers) message = .ok changed ↔
    ∃ next, d.decorate message = .ok next ∧ decorateAll writers next = .ok changed := by
  rw [decorateAll, List.foldlM_cons]
  constructor
  · exact exists_of_bind_eq_ok
  · rintro ⟨next, first, others⟩
    rw [first]
    exact others

theorem decorateAll_singleton (d : FieldWriter) (message : Entries) :
    decorateAll [d] message = d.decorate message := by
  rw [decorateAll, List.foldlM_cons]
  exact bind_pure _

/-- After some writers a message has under a name what was written there last. -/
theorem get?_of_writes (h : decorateAll writers message = .ok changed) :
    Entries.get? changed (.str name) =
      (written name writers message).getLast?.or (Entries.get? message (.str name)) := by
  induction writers generalizing message with
  | nil =>
    obtain rfl := Except.ok.inj h
    rfl
  | cons d rest ih =>
    obtain ⟨next, first, h⟩ := decorateAll_cons_eq_ok_iff.1 h
    rw [ih h]
    rcases decorate_eq_ok_iff.1 first with ⟨value, rfl⟩ | ⟨v, value, -, rfl⟩
    · simp only [written, value]
    · simp only [written, value]
      -- What was put under the name counts only if nothing is written there later.
      by_cases target : d.target = .str name
      · rw [target, if_pos (Value.alike_str_self name), Entries.get?_put_self, List.getLast?_append,
          Option.or_assoc]
        rfl
      · rw [if_neg (mt Value.alike_str_iff.1 target), List.nil_append,
          Entries.get?_str_put_ne target]

theorem written_eq_nil (h : ∀ d ∈ writers, d.target ≠ .str name) (message : Entries) :
    written name writers message = [] := by
  induction writers generalizing message with
  | nil => rfl
  | cons d rest ih =>
    have others := ih fun e he => h e (List.mem_cons_of_mem d he)
    have target : ¬ d.target.alike (.str name) = true :=
      mt Value.alike_str_iff.1 (h d List.mem_cons_self)
    unfold written
    split
    · rw [if_neg target, others, List.append_nil]
    · exact others message

end FieldWriter

/-- The writer that a severity mapper is. -/
def SeverityMapper.writer (d : SeverityMapper) : FieldWriter where
  target := d.target
  value? message := do
    let value ← (Value.map message).getOr d.source .null
    match value.toInt with
    | .ok level => return (severityText? level).map .str
    | .error fault => if fault.kind == .type || fault.kind.isValue then return none else throw fault

theorem SeverityMapper.decorate_eq (d : SeverityMapper) : decorate d = d.writer.decorate := by
  funext message
  unfold decorate FieldWriter.decorate writer
  dsimp only
  cases (Value.map message).getOr d.source .null with
  | error fault => rfl
  | ok value =>
    dsimp only [bind, Except.bind]
    cases value.toInt with
    | ok level =>
      dsimp only
      cases severityText? level <;> rfl
    | error fault =>
      dsimp only
      split <;> rfl

/-- The writer that a template is. -/
def TemplateWriter.writer (d : TemplateWriter) : FieldWriter where
  target := d.target
  value? message :=
    .ok (if d.requireAll && !d.hasAll message then none else some (.str (d.text message)))

theorem TemplateWriter.decorate_eq (d : TemplateWriter) : decorate d = d.writer.decorate := by
  funext message
  unfold decorate FieldWriter.decorate writer
  dsimp only [bind, Except.bind]
  split <;> rfl

/-- The writer that a table is. -/
def TableLookup.writer (d : TableLookup) : FieldWriter where
  target := d.target
  value? message := do
    d.source.fixed
    return (Entries.get? message d.source).bind fun v =>
      match (d.find? (fieldText v)).getD d.default with
      | .null => none
      | found => some found

theorem TableLookup.decorate_eq (d : TableLookup) : decorate d = d.writer.decorate := by
  funext message
  unfold decorate FieldWriter.decorate writer
  dsimp only
  cases d.source.fixed with
  | error fault => rfl
  | ok _ =>
    dsimp only [bind, Except.bind]
    cases Entries.get? message d.source with
    | none => rfl
    | some v =>
      dsimp only [Option.bind]
      cases (d.find? (fieldText v)).getD d.default <;> rfl

end LogSearch
