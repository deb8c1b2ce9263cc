import LogSearch.Proofs.Decoration.Reads
import LogSearch.Proofs.Decoration.Severity

/-!
# Decorators that are applied again

A built-in decorator that does not read where it writes finds in a message that it has changed what it
found before, and so changes nothing when it is applied again.  A mapper of severities may well read
where it writes: what it writes is no integer's text, so that it writes nothing for it.

Main statement: `DecoratorChain.outcome_again`.
-/

namespace LogSearch

namespace FieldWriter

variable {d : FieldWriter} {message changed : Entries}

/-- A writer leaves the messages that it has changed as they are. -/
def Settles (d : FieldWriter) : Prop :=
  ∀ message changed, d.decorate message = .ok changed → d.decorate changed = .ok changed

theorem Settles.onSummary (h : d.Settles) {m next : Summary}
    (done : Decorator.onSummary d.decorate m = .ok next) :
    Decorator.onSummary d.decorate next = .ok next := by
  obtain ⟨fields, written, rfl⟩ := Summary.becomes_of_onSummary done
  unfold Decorator.onSummary
  rw [h _ _ written]
  rfl

/-- A writer that would write the same again leaves the message as it is. -/
theorem decorate_of_again {v : Value} (fixed : d.target.fixed = .ok ())
    (value : d.value? (Entries.put message d.target v) = .ok (some v)) :
    d.decorate (Entries.put message d.target v) = .ok (Entries.put message d.target v) :=
  decorate_eq_ok_iff.2 (.inr ⟨v, value, fixed, (Entries.put_put _ _ _ _).symm⟩)

/-- A writer that does not see what it writes settles. -/
theorem settles_of_ignores (h : d.Ignores d.target) : d.Settles := by
  intro message changed done
  rcases decorate_eq_ok_iff.1 done with ⟨-, rfl⟩ | ⟨v, value, fixed, rfl⟩
  · exact done
  · exact decorate_of_again fixed ((h fixed message v).trans value)

end FieldWriter

namespace SeverityMapper

variable {value : Value} {text : String}

/-- The text of a severity is no integer's, since it begins with a letter. -/
theorem not_countsAs_of_shows (h : Shows value text) (n : Int) : ¬ (Value.str text).CountsAs n := by
  obtain ⟨m, name, listed, -, rfl⟩ := h
  have letter : ∀ name ∈ names, ∃ c ∈ name.toList.head?, 65 ≤ c.toNat ∧ c.toNat ≤ 90 := by
    simp [names]
  obtain ⟨c, first, low, high⟩ := letter name (List.mem_of_getElem? listed)
  obtain ⟨r, begins⟩ := List.head?_eq_some_iff.1 first
  intro counts
  cases counts with
  | str written =>
    rw [String.toList_append, String.toList_append, String.toList_append, begins] at written
    exact Text.not_isInteger_of_capital low high written

/-- What a mapper writes it takes for no severity. -/
theorem not_shows_of_shows (h : Shows value text) (other : String) : ¬ Shows (.str text) other := by
  rintro ⟨n, name, -, counts, -⟩
  exact not_countsAs_of_shows h n counts

/-- A message has a value that shows as a severity. -/
theorem isSome_of_shows {d : SeverityMapper} {message : Entries} (h : Shows (d.found message) text) :
    (Entries.get? message d.source).isSome = true := by
  cases present : Entries.get? message d.source with
  | some v => rfl
  | none =>
    obtain ⟨n, name, -, counts, -⟩ := h
    rw [found, present] at counts
    cases counts

/-- A mapper settles, wherever it reads and writes. -/
theorem settles (d : SeverityMapper) : d.writer.Settles := by
  intro message changed done
  rcases FieldWriter.decorate_eq_ok_iff.1 done with ⟨-, rfl⟩ | ⟨v, value, fixed, rfl⟩
  · exact done
  · obtain ⟨readable, text, shown, rfl⟩ := shows_of_value? value
    -- The mapper finds what it found before, or else its own text.
    rcases Entries.get?_put_cases message d.target (.str text) d.source (isSome_of_shows shown) with
      same | own
    · have again : d.found (Entries.put message d.target (.str text)) = d.found message :=
        congrArg (·.getD .null) same
      exact FieldWriter.decorate_of_again fixed (value?_of_shows readable (again ▸ shown))
    · have again : d.found (Entries.put message d.target (.str text)) = .str text :=
        congrArg (·.getD .null) own
      have silent : d.writer.value? (Entries.put message d.target (.str text)) = .ok none := by
        apply value?_of_not_shows readable
        · rw [again]
          exact nofun
        · rw [again]
          exact not_shows_of_shows shown
      exact FieldWriter.decorate_eq_ok_iff.2 (.inl ⟨silent, rfl⟩)

end SeverityMapper

namespace DecoratorConfig

variable {c : DecoratorConfig} {d : FieldWriter}

/-- A decorator does not feed on what it writes: it maps severities, or reads under other names than
its target. -/
def IsSettled (c : DecoratorConfig) : Prop :=
  c.type = .str "syslog_severity_mapper" ∨ ∀ t ∈ c.target?, ∀ n ∈ c.reads, t.alike n = false

theorem settles_of_makes (makes : c.Makes d) (h : c.IsSettled) : d.Settles := by
  rcases h with mapper | unread
  · obtain ⟨name, make, listed, type, made⟩ := makes
    obtain rfl : name = "syslog_severity_mapper" := Value.str.inj (type.symm.trans mapper)
    simp only [FieldWriter.builtin, List.mem_cons, List.not_mem_nil, or_false, Prod.mk.injEq] at listed
    rcases listed with ⟨-, rfl⟩ | ⟨impossible, -⟩ | ⟨impossible, -⟩
    · obtain ⟨mapper, -, rfl⟩ := exists_of_map_eq_ok made
      exact mapper.settles
    · exact absurd impossible (by decide)
    · exact absurd impossible (by decide)
  · have target := target?_of_makes makes
    exact FieldWriter.settles_of_ignores (ignores_of_makes makes (unread _ target))

end DecoratorConfig

namespace DecoratorChain

variable {r s : Response} {config : DecoratorConfig}

/-- A built-in decorator that does not feed on what it writes changes nothing when it is applied again,
by another chain or by the same one. -/
theorem outcome_again (settled : config.IsSettled)
    (done : builtin.outcome r [config] = .ok s) :
    builtin.outcome s [config] = .ok s ∧
      (config.isPlaced = true → builtin.outcome r [config, config] = .ok s) := by
  have again : builtin.outcome s [config] = .ok s := by
    rw [outcome_singleton, turn_eq_ok_iff] at done ⊢
    obtain ⟨d, makes, messages, each, rfl⟩ := done
    have settles := DecoratorConfig.settles_of_makes makes settled
    refine ⟨d, makes, messages, List.forall₂_same.2 ?_, rfl⟩
    intro next member
    obtain ⟨m, -, written⟩ := exists_mem_of_forall₂ each member
    exact settles.onSummary written
  refine ⟨again, ?_⟩
  intro placed
  have placedBoth : ∀ c ∈ [config] ++ [config], c.isPlaced = true := by simpa using placed
  rw [← List.singleton_append, builtin.outcome_append r placedBoth (by simp), done]
  exact again

/-- A mapper that writes where it reads, twice in a chain. -/
theorem outcome_again_in_place :
    let start : DateTime := ⟨0, some .utc, by decide⟩
    let m : Summary := ⟨.map [], [(.str "_id", .str "i"), (.str "level", .int 3)], .str "graylog_0"⟩
    let changed : Summary := { m with fields := [(.str "_id", .str "i"), (.str "level", .str "Error (3)")] }
    let r : Response := ⟨.str "*", .str "*", [m], .int 1, start, start, [], [], 0⟩
    let config : DecoratorConfig := { type := .str "syslog_severity_mapper" }
    config.IsSettled ∧ config.isPlaced = true ∧
      builtin.outcome r [config] = .ok { r with messages := [changed] } ∧
      builtin.outcome { r with messages := [changed] } [config] = .ok { r with messages := [changed] } ∧
      builtin.outcome r [config, config] = .ok { r with messages := [changed] } := by
  intro start m changed r config
  have settled : config.IsSettled := .inl rfl
  have placed : config.isPlaced = true := rfl
  have done : builtin.outcome r [config] = .ok { r with messages := [changed] } := by
    rw [outcome_singleton]
    cbv
  obtain ⟨again, twice⟩ := outcome_again settled done
  exact ⟨settled, placed, done, again, twice placed⟩

end DecoratorChain

end LogSearch
