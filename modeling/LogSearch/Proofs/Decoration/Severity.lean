import LogSearch.Proofs.Decoration.Alone
import LogSearch.Proofs.Value.Integer

/-!
# What a mapper of severities writes

A mapper takes the value of a field for an integer.  If that is the number of a severity it writes the
severity's name and number, and else it leaves the message alone, whether the value is another integer
or none.  The exception is an infinity, for which the mapper fails, and with it the chain.

Main statement: `SeverityMapper.decorate_outcome`.
-/

namespace LogSearch

namespace SeverityMapper

variable {d : SeverityMapper} {message : Entries} {value v : Value} {text : String} {level : Int}

/-- The value that a mapper takes for the number of a severity. -/
def found (d : SeverityMapper) (message : Entries) : Value :=
  (Entries.get? message d.source).getD .null

/-- A value counts as the number of a severity, and a text shows that severity's name and number. -/
def Shows (value : Value) (text : String) : Prop :=
  ∃ (n : Nat) (name : String), names[n]? = some name ∧ value.CountsAs n ∧
    text = name ++ " (" ++ String.ofList (Text.decimal n) ++ ")"

theorem severityText?_eq_some_iff : severityText? level = some text ↔
    ∃ (n : Nat) (name : String), names[n]? = some name ∧ level = n ∧
      text = name ++ " (" ++ String.ofList (Text.decimal n) ++ ")" := by
  unfold severityText?
  constructor
  · intro h
    split at h
    · cases h
    · rename_i natural
      obtain ⟨n, rfl⟩ := Int.eq_ofNat_of_zero_le (Int.not_lt.1 natural)
      obtain ⟨name, listed, rfl⟩ := Option.map_eq_some_iff.1 h
      exact ⟨n, name, listed, rfl, rfl⟩
  · rintro ⟨n, name, listed, rfl, rfl⟩
    have natural : ¬ (n : Int) < 0 := Int.not_lt.2 (Int.natCast_nonneg n)
    rw [if_neg natural, Int.toNat_natCast, listed]
    rfl

/-- A value shows as the text of the integer that it is read as. -/
theorem shows_iff : Shows value text ↔
    ∃ level, value.toInt = .ok level ∧ severityText? level = some text := by
  constructor
  · rintro ⟨n, name, listed, counts, rfl⟩
    exact ⟨n, Value.toInt_eq_ok_iff.2 counts, severityText?_eq_some_iff.2 ⟨n, name, listed, rfl, rfl⟩⟩
  · rintro ⟨level, read, shown⟩
    obtain ⟨n, name, listed, rfl, rfl⟩ := severityText?_eq_some_iff.1 shown
    exact ⟨n, name, listed, Value.toInt_eq_ok_iff.1 read, rfl⟩

theorem getOr_eq (fixed : d.source.fixed = .ok ()) :
    (Value.map message).getOr d.source .null = .ok (d.found message) := by
  unfold Value.getOr
  simp only [bind, Except.bind, fixed]
  rfl

theorem value?_of_shows (fixed : d.source.fixed = .ok ()) (h : Shows (d.found message) text) :
    d.writer.value? message = .ok (some (.str text)) := by
  obtain ⟨level, read, shown⟩ := shows_iff.1 h
  unfold writer
  simp only [bind, Except.bind, getOr_eq fixed, read, shown]
  rfl

/-- An integer that is no severity's is written nothing for, and no more is a value that no integer is
read from, except an infinity. -/
theorem value?_of_not_shows (fixed : d.source.fixed = .ok ()) (finite : ¬ (d.found message).IsInfinite)
    (h : ∀ text, ¬ Shows (d.found message) text) : d.writer.value? message = .ok none := by
  unfold writer
  simp only [bind, Except.bind, getOr_eq fixed]
  cases read : (d.found message).toInt with
  | ok level =>
    cases shown : severityText? level with
    | none => simp only [shown]; rfl
    | some text => exact absurd (shows_iff.2 ⟨level, read, shown⟩) (h text)
  | error fault =>
    have kind : (fault.kind == .type || fault.kind.isValue) = true := by
      rcases Value.kind_of_toInt read finite with type | value
      · rw [type]
        rfl
      · rw [value, Bool.or_true]
    simp only [kind, if_true]
    rfl

theorem value?_of_isInfinite (fixed : d.source.fixed = .ok ()) (h : (d.found message).IsInfinite) :
    d.writer.value? message = .error .infinityToInteger := by
  unfold writer
  simp only [bind, Except.bind, getOr_eq fixed, Value.toInt_of_isInfinite h]
  rfl

/-- What a mapper writes shows the value that it found. -/
theorem shows_of_value? (h : d.writer.value? message = .ok (some v)) :
    d.source.fixed = .ok () ∧ ∃ text, Shows (d.found message) text ∧ v = .str text := by
  obtain ⟨value, got, h⟩ := exists_of_bind_eq_ok h
  obtain ⟨⟨⟩, fixed, -⟩ := exists_of_bind_eq_ok got
  obtain rfl := Except.ok.inj (got.symm.trans (getOr_eq fixed))
  refine ⟨fixed, ?_⟩
  split at h
  · rename_i level read
    obtain ⟨text, shown, rfl⟩ := Option.map_eq_some_iff.1 (Except.ok.inj h)
    exact ⟨text, shows_iff.2 ⟨level, read, shown⟩, rfl⟩
  · split at h <;> cases h

/-- With a source that can be a key, a mapper fails for an infinity only. -/
theorem exists_value?_iff (fixed : d.source.fixed = .ok ()) :
    (∃ written, d.writer.value? message = .ok written) ↔ ¬ (d.found message).IsInfinite := by
  constructor
  · rintro ⟨written, value⟩ infinite
    rw [value?_of_isInfinite fixed infinite] at value
    cases value
  · intro finite
    by_cases shown : ∃ text, Shows (d.found message) text
    · obtain ⟨text, shown⟩ := shown
      exact ⟨_, value?_of_shows fixed shown⟩
    · exact ⟨_, value?_of_not_shows fixed finite (not_exists.1 shown)⟩

/-- A mapper with texts for its names writes the severity that the value of its source counts as, with
its number, under its target and nowhere else, and leaves alone messages whose value counts as none.
It fails for those whose value is an infinity, and for no others; and so does the chain. -/
theorem decorate_outcome (source target : String) :
    let d : SeverityMapper := ⟨.str source, .str target⟩
    (∀ message text, Shows (d.found message) text →
        d.decorate message = .ok (Entries.put message (.str target) (.str text))) ∧
      (∀ message, (∀ text, ¬ Shows (d.found message) text) → ¬ (d.found message).IsInfinite →
        d.decorate message = .ok message) ∧
      (∀ message, (d.found message).IsInfinite → d.decorate message = .error .infinityToInteger) ∧
      ∀ (r : Response) (config : DecoratorConfig), config.Makes d.writer →
        ((∃ s, DecoratorChain.builtin.outcome r [config] = .ok s) ↔
          ∀ m ∈ r.messages, ¬ (d.found m.fields).IsInfinite) := by
  intro d
  have fixed : d.source.fixed = .ok () := rfl
  have fixed' : d.writer.target.fixed = .ok () := rfl
  rw [decorate_eq]
  refine ⟨?_, ?_, ?_, ?_⟩
  · intro message text shown
    exact FieldWriter.decorate_eq_ok_iff.2 (.inr ⟨_, value?_of_shows fixed shown, fixed', rfl⟩)
  · intro message unshown finite
    exact FieldWriter.decorate_eq_ok_iff.2 (.inl ⟨value?_of_not_shows fixed finite unshown, rfl⟩)
  · intro message infinite
    unfold FieldWriter.decorate
    rw [value?_of_isInfinite fixed infinite]
    rfl
  · intro r config makes
    rw [DecoratorChain.exists_outcome_of_makes makes]
    refine forall₂_congr fun m hm => ?_
    rw [FieldWriter.exists_decorate_iff fixed', exists_value?_iff fixed]

/-- A level that is written with spaces, a sign and a digit of another script, beside one that is no
number. -/
theorem decorate_outcome_text :
    let d : SeverityMapper := ⟨.str "level", .str "severity"⟩
    let start : DateTime := ⟨0, some .utc, by decide⟩
    let m : Summary := ⟨.map [], [(.str "_id", .str "i"), (.str "level", .str " +٣ ")], .str "graylog_0"⟩
    let other : Summary := ⟨.map [], [(.str "_id", .str "j"), (.str "level", .null)], .str "graylog_0"⟩
    let r : Response := ⟨.str "*", .str "*", [m, other], .int 2, start, start, [], [], 0⟩
    let config : DecoratorConfig :=
      { type := .str "syslog_severity_mapper", config := .record [("target_field", .str "severity")] }
    Shows (d.found m.fields) "Error (3)" ∧
      d.decorate m.fields = .ok (m.fields ++ [(.str "severity", .str "Error (3)")]) ∧
      d.decorate other.fields = .ok other.fields ∧
      config.Makes d.writer ∧ ∃ s, DecoratorChain.builtin.outcome r [config] = .ok s := by
  intro d start m other r config
  obtain ⟨shows, silent, -, chain⟩ := decorate_outcome "level" "severity"
  have written : Text.IsInteger Text.digitValue? " +٣ ".toList 3 :=
    ⟨[' '], ['+'], ['٣'], [' '], 1, [3], rfl, rfl, .plus, .digit (by decide), by decide, rfl, rfl⟩
  have shown : Shows (d.found m.fields) "Error (3)" := ⟨3, "Error", rfl, .str written, by cbv⟩
  have unshown : ∀ text, ¬ Shows (d.found other.fields) text := by
    intro text shown
    obtain ⟨level, read, -⟩ := shows_iff.1 shown
    cases read
  have finite : ∀ m' ∈ [m, other], ¬ (d.found m'.fields).IsInfinite := by
    intro m' member
    rcases List.mem_pair.1 member with rfl | rfl <;> rintro ⟨negative, infinite⟩ <;> cases infinite
  have makes : config.Makes d.writer := ⟨_, _, List.mem_cons_self, rfl, by cbv⟩
  refine ⟨shown, shows _ _ shown, ?_, makes, (chain r config makes).2 finite⟩
  exact silent _ unshown (finite other (by simp))

/-- For a level that is an infinity the mapper changes no message, and the chain fails. -/
theorem decorate_infinity :
    let d : SeverityMapper := ⟨.str "level", .str "level"⟩
    let start : DateTime := ⟨0, some .utc, by decide⟩
    let m : Summary :=
      ⟨.map [], [(.str "_id", .str "i"), (.str "level", .float (.infinite false))], .str "graylog_0"⟩
    let r : Response := ⟨.str "*", .str "*", [m], .int 1, start, start, [], [], 0⟩
    d.decorate m.fields = .error .infinityToInteger ∧
      DecoratorChain.builtin.outcome r [{ type := .str "syslog_severity_mapper" }] =
        .error (.search (.failedDecoration (.str "syslog_severity_mapper")
          "cannot convert float infinity to integer") (some (.fault .infinityToInteger))) := by
  intro d start m r
  constructor
  · cbv
  · rw [DecoratorChain.outcome_singleton]
    rfl

end SeverityMapper

end LogSearch
