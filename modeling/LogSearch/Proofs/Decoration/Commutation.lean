import LogSearch.Proofs.Decoration.Alone
import LogSearch.Proofs.Decoration.Reads

/-!
# Decorators that may change places

Two built-in decorators are independent when they write under different names and neither reads where
the other writes.  Then it does not matter which comes first: both sequences succeed or neither does,
and they leave the same fields in each message, though not always in the same sequence.

Main statement: `DecoratorChain.inTurn_comm`.
-/

namespace LogSearch

namespace FieldWriter

variable {d e : FieldWriter} {message next changed : Entries}

/-- Two writers write under keys apart from each other, and neither sees what the other writes. -/
structure Independent (d e : FieldWriter) : Prop where
  apart : d.target.fixed = .ok () → e.target.fixed = .ok () → d.target.Apart e.target
  unseen : e.Ignores d.target
  unseeing : d.Ignores e.target

theorem Independent.symm (h : Independent d e) : Independent e d where
  apart fixed fixed' := (h.apart fixed' fixed).symm
  unseen := h.unseeing
  unseeing := h.unseen

/-- Independent writers may change places. -/
theorem Independent.exists_decorate (h : Independent d e) (first : d.decorate message = .ok next)
    (second : e.decorate next = .ok changed) :
    ∃ next' changed', e.decorate message = .ok next' ∧ d.decorate next' = .ok changed' ∧
      changed.Perm changed' := by
  rcases decorate_eq_ok_iff.1 first with ⟨value, rfl⟩ | ⟨v, value, fixed, rfl⟩
  · rcases decorate_eq_ok_iff.1 second with ⟨-, rfl⟩ | ⟨w, -, fixed', rfl⟩
    · exact ⟨_, _, second, first, .refl _⟩
    · have same := h.unseeing fixed' next w
      exact ⟨_, _, second, decorate_eq_ok_iff.2 (.inl ⟨same.trans value, rfl⟩), .refl _⟩
  · have same := h.unseen fixed message v
    rcases decorate_eq_ok_iff.1 second with ⟨value', rfl⟩ | ⟨w, value', fixed', rfl⟩
    · exact ⟨_, _, decorate_eq_ok_iff.2 (.inl ⟨same.symm.trans value', rfl⟩), first, .refl _⟩
    · have same' := h.unseeing fixed' message w
      exact ⟨_, _, decorate_eq_ok_iff.2 (.inr ⟨w, same.symm.trans value', fixed', rfl⟩),
        decorate_eq_ok_iff.2 (.inr ⟨v, same'.trans value, fixed, rfl⟩),
        Entries.put_comm (h.apart fixed fixed')⟩

end FieldWriter

namespace Summary

variable {d e : FieldWriter} {m changed : Summary}

/-- Two messages are the same up to the sequence of their fields. -/
structure Agrees (m other : Summary) : Prop where
  highlights : other.highlights = m.highlights
  index : other.index = m.index
  fields : m.fields.Perm other.fields

/-- A message becomes the same, up to the sequence of its fields, whichever of two independent writers
comes first. -/
theorem Becomes.swap (h : Becomes [d, e] m changed) (independent : d.Independent e) :
    ∃ other, Becomes [e, d] m other ∧ changed.Agrees other := by
  obtain ⟨fields, written, rfl⟩ := h
  obtain ⟨next, first, second⟩ := FieldWriter.decorateAll_cons_eq_ok_iff.1 written
  rw [FieldWriter.decorateAll_singleton] at second
  obtain ⟨next', fields', first', second', perm⟩ := independent.exists_decorate first second
  have written' : FieldWriter.decorateAll [e, d] m.fields = .ok fields' := by
    rw [FieldWriter.decorateAll_cons_eq_ok_iff]
    exact ⟨next', first', second' ▸ FieldWriter.decorateAll_singleton d next'⟩
  exact ⟨{ m with fields := fields' }, ⟨fields', written', rfl⟩, rfl, rfl, perm⟩

end Summary

/-- Two decorators write under different names, and neither reads where the other writes. -/
structure DecoratorConfig.Independent (first second : DecoratorConfig) : Prop where
  targets : ∀ t ∈ first.target?, ∀ u ∈ second.target?, t.alike u = false
  unread : ∀ t ∈ first.target?, ∀ n ∈ second.reads, t.alike n = false
  unreading : ∀ t ∈ second.target?, ∀ n ∈ first.reads, t.alike n = false

namespace DecoratorConfig

variable {first second : DecoratorConfig} {d e : FieldWriter}

/-- The writers of independent decorators are independent. -/
theorem independent_of_makes (makes : first.Makes d) (makes' : second.Makes e)
    (h : first.Independent second) : d.Independent e := by
  have target := target?_of_makes makes
  have target' := target?_of_makes makes'
  refine ⟨?_, ?_, ?_⟩
  · intro fixed _
    exact Value.apart_of_not_alike (Value.fixed_eq_ok_iff.1 fixed) (h.targets _ target _ target')
  · exact ignores_of_makes makes' (h.unread _ target)
  · exact ignores_of_makes makes (h.unreading _ target')

end DecoratorConfig

namespace DecoratorChain

variable {r s : Response} {first second : DecoratorConfig}

/-- What a decorator makes of a response, and another then of that. -/
def inTurn (chain : DecoratorChain) (r : Response) (first second : DecoratorConfig) :
    Except Failure Response := do
  chain.outcome (← chain.outcome r [first]) [second]

theorem inTurn_eq (chain : DecoratorChain) (r : Response) (first second : DecoratorConfig) :
    chain.inTurn r first second = [first, second].foldlM chain.turn r := by
  unfold inTurn
  simp only [outcome_singleton, List.foldlM_cons, List.foldlM_nil, bind_pure]

theorem inTurn_eq_ok_iff : builtin.inTurn r first second = .ok s ↔
    ∃ d e, first.Makes d ∧ second.Makes e ∧
      ∃ messages, List.Forall₂ (Summary.Becomes [d, e]) r.messages messages ∧
        s = { r with messages } := by
  rw [inTurn_eq, turns_eq_ok_iff]
  constructor
  · rintro ⟨writers, makes, become⟩
    obtain ⟨d, _, first, rest, rfl⟩ := List.forall₂_cons_left_iff.1 makes
    obtain ⟨e, _, second, none, rfl⟩ := List.forall₂_cons_left_iff.1 rest
    obtain rfl := List.forall₂_nil_left_iff.1 none
    exact ⟨d, e, first, second, become⟩
  · rintro ⟨d, e, first, second, become⟩
    exact ⟨[d, e], .cons first (.cons second .nil), become⟩

/-- What two decorators make of a response in their turn is up to the sequence of fields what they make
of it the other way round, if their writers are independent. -/
theorem exists_inTurn_swap
    (independent : ∀ d e, first.Makes d → second.Makes e → d.Independent e)
    (done : builtin.inTurn r first second = .ok s) :
    ∃ s', builtin.inTurn r second first = .ok s' ∧ s' = { s with messages := s'.messages } ∧
      List.Forall₂ Summary.Agrees s.messages s'.messages := by
  obtain ⟨d, e, makes, makes', messages, become, rfl⟩ := inTurn_eq_ok_iff.1 done
  obtain ⟨others, become', agree⟩ :=
    exists_beside_of_forall₂ become fun m changed h => h.swap (independent d e makes makes')
  exact ⟨_, inTurn_eq_ok_iff.2 ⟨e, d, makes', makes, others, become', rfl⟩, rfl, agree⟩

/-- Independent decorators may change places: they succeed in either sequence or in neither, and leave
the same fields in each message. -/
theorem inTurn_comm (r : Response) (independent : first.Independent second) :
    ((∃ s, builtin.inTurn r first second = .ok s) ↔ ∃ s, builtin.inTurn r second first = .ok s) ∧
      ∀ s s', builtin.inTurn r first second = .ok s → builtin.inTurn r second first = .ok s' →
        s' = { s with messages := s'.messages } ∧
          List.Forall₂ Summary.Agrees s.messages s'.messages := by
  have writers : ∀ d e, first.Makes d → second.Makes e → d.Independent e :=
    fun d e makes makes' => DecoratorConfig.independent_of_makes makes makes' independent
  refine ⟨⟨?_, ?_⟩, ?_⟩
  · rintro ⟨s, done⟩
    obtain ⟨s', done', -⟩ := exists_inTurn_swap writers done
    exact ⟨s', done'⟩
  · rintro ⟨s', done'⟩
    obtain ⟨s, done, -⟩ := exists_inTurn_swap (fun e d makes makes' => (writers d e makes' makes).symm)
      done'
    exact ⟨s, done⟩
  · intro s s' done done'
    obtain ⟨other, done'', same⟩ := exists_inTurn_swap writers done
    obtain rfl : s' = other := Except.ok.inj (done'.symm.trans done'')
    exact same

/-- A mapper that writes beside the level, and a template that takes another field: the two new fields
change places. -/
theorem inTurn_comm_mapper_template :
    let start : DateTime := ⟨0, some .utc, by decide⟩
    let m : Summary := ⟨.map [], [(.str "_id", .str "i"), (.str "level", .int 3), (.str "a", .str "x")],
      .str "graylog_0"⟩
    let r : Response := ⟨.str "*", .str "*", [m], .int 1, start, start, [], [], 0⟩
    let first : DecoratorConfig :=
      { type := .str "syslog_severity_mapper", config := .record [("target_field", .str "severity")] }
    let second : DecoratorConfig :=
      { type := .str "format_string"
        config := .record [("format_string", .str "at $\x7ba\x7d"), ("target_field", .str "text")] }
    let severity : Value × Value := (.str "severity", .str "Error (3)")
    let text : Value × Value := (.str "text", .str "at x")
    first.Independent second ∧
      ∃ s s', builtin.inTurn r first second = .ok s ∧ builtin.inTurn r second first = .ok s' ∧
        s.messages.map Summary.fields = [m.fields ++ [severity, text]] ∧
        s'.messages.map Summary.fields = [m.fields ++ [text, severity]] ∧
        List.Forall₂ Summary.Agrees s.messages s'.messages := by
  intro start m r first second severity text
  have targets : first.target? = some (.str "severity") ∧ second.target? = some (.str "text") :=
    ⟨by cbv, by cbv⟩
  have reads : first.reads = [.str "level"] ∧ second.reads = [.str "a"] := ⟨by cbv, by cbv⟩
  have independent : first.Independent second := by
    refine ⟨?_, ?_, ?_⟩
    · intro t target u target'
      obtain rfl := Option.some.inj (targets.1.symm.trans target)
      obtain rfl := Option.some.inj (targets.2.symm.trans target')
      decide
    · intro t target n member
      obtain rfl := Option.some.inj (targets.1.symm.trans target)
      obtain rfl := List.mem_singleton.1 (reads.2 ▸ member)
      decide
    · intro t target n member
      obtain rfl := Option.some.inj (targets.2.symm.trans target)
      obtain rfl := List.mem_singleton.1 (reads.1 ▸ member)
      decide
  have done : builtin.inTurn r first second =
      .ok { r with messages := [{ m with fields := m.fields ++ [severity, text] }] } := by
    rw [inTurn_eq]
    cbv
  have done' : builtin.inTurn r second first =
      .ok { r with messages := [{ m with fields := m.fields ++ [text, severity] }] } := by
    rw [inTurn_eq]
    cbv
  have agree := ((inTurn_comm r independent).2 _ _ done done').2
  exact ⟨independent, _, _, done, done', rfl, rfl, agree⟩

end DecoratorChain

end LogSearch
