import LogSearch.Proofs.Decoration.Alone
import LogSearch.Proofs.Decoration.Frame
import LogSearch.Proofs.Decoration.Severity
import LogSearch.Proofs.Json.Data
import LogSearch.Proofs.Message.Idempotence
import LogSearch.Proofs.Message.Times

/-!
# Answers are JSON data

The hits of a backend and the settings of decorators are JSON data.  Reading a hit puts a time among the
fields of its message, which is no JSON data; the decorators may copy, overwrite and add fields after
that, and when the answer is shown only the values of the fields are looked at, not what is inside them.
That is enough, because a time is never anywhere but directly under its own name: reading puts it there,
and the built-in decorators write data only.  One step lemma says that of a writer, and by induction it
holds after any number of them.

Main statement: `Assembly.assemble_data`.
-/

namespace LogSearch

/-- What may stand under a key of a message: data, and under its own name a time. -/
def Value.Fits (key v : Value) : Prop := v.isJson = true ∨ key = timeField ∧ ∃ t, v = .time t

/-- The fields of a message are data under texts, but that there may be a time under its name. -/
def Entries.AreData (entries : Entries) : Prop :=
  ∀ e ∈ entries, (∃ name, e.1 = .str name) ∧ e.1.Fits e.2

/-- A writer writes data under a text, if anything. -/
structure FieldWriter.WritesData (d : FieldWriter) : Prop where
  target : ∃ name, d.target = .str name
  value : ∀ message v, d.value? message = .ok (some v) → v.isJson = true

section Writers

variable {message changed : Entries} {d : FieldWriter} {writers : List FieldWriter} {name : String}
  {v : Value}

theorem Entries.mem_put_str {e : Value × Value} (h : e ∈ put message (.str name) v) :
    e ∈ message ∨ e = (.str name, v) := by
  induction message with
  | nil => exact .inr (List.mem_singleton.1 h)
  | cons head rest ih =>
    obtain ⟨k, w⟩ := head
    rw [put_cons] at h
    split at h
    · rename_i like
      obtain rfl := Value.alike_str_iff.1 like
      exact (List.mem_cons.1 h).elim .inr fun old => .inl (List.mem_cons_of_mem _ old)
    · rcases List.mem_cons.1 h with rfl | h
      · exact .inl List.mem_cons_self
      · exact (ih h).imp_left (List.mem_cons_of_mem _)

theorem Entries.AreData.put (data : message.AreData) (fits : (Value.str name).Fits v) :
    (Entries.put message (.str name) v).AreData := by
  intro e member
  rcases Entries.mem_put_str member with old | rfl
  · exact data e old
  · exact ⟨⟨name, rfl⟩, fits⟩

theorem Entries.AreData.drop (data : message.AreData) (key : Value) :
    (Entries.drop message key).AreData :=
  fun e member => data e (List.mem_of_mem_filter member)

/-- A writer of data leaves times where they may be. -/
theorem Entries.AreData.decorate (data : message.AreData) (writes : d.WritesData)
    (done : d.decorate message = .ok changed) : changed.AreData := by
  rcases FieldWriter.decorate_eq_ok_iff.1 done with ⟨-, rfl⟩ | ⟨v, value, -, rfl⟩
  · exact data
  · obtain ⟨name, target⟩ := writes.target
    rw [target]
    exact data.put (.inl (writes.value message v value))

theorem Entries.AreData.decorateAll (data : message.AreData) (write : ∀ d ∈ writers, d.WritesData)
    (done : FieldWriter.decorateAll writers message = .ok changed) : changed.AreData := by
  induction writers generalizing message with
  | nil =>
    obtain rfl := Except.ok.inj done
    exact data
  | cons d rest ih =>
    obtain ⟨writes, others⟩ := List.forall_mem_cons.1 write
    obtain ⟨next, first, done⟩ := FieldWriter.decorateAll_cons_eq_ok_iff.1 done
    exact ih (data.decorate writes first) others done

/-- What is written under a name is data. -/
theorem FieldWriter.isJson_of_mem_written (write : ∀ d ∈ writers, d.WritesData)
    (member : v ∈ written name writers message) : v.isJson = true := by
  induction writers generalizing message with
  | nil => cases member
  | cons d rest ih =>
    obtain ⟨writes, others⟩ := List.forall_mem_cons.1 write
    unfold written at member
    split at member
    · rename_i w value
      rcases List.mem_append.1 member with here | later
      · split at here
        · obtain rfl := List.mem_singleton.1 here
          exact writes.value message _ value
        · cases here
      · exact ih others later
    · exact ih others member

end Writers

section Settings

variable {config : Value} {c : DecoratorConfig} {d : FieldWriter}

theorem SeverityMapper.isJson_of_value? {d : SeverityMapper} {message : Entries} {v : Value}
    (h : d.writer.value? message = .ok (some v)) : v.isJson = true := by
  obtain ⟨-, text, -, rfl⟩ := shows_of_value? h
  rfl

theorem TemplateWriter.isJson_of_value? {d : TemplateWriter} {message : Entries} {v : Value}
    (h : d.writer.value? message = .ok (some v)) : v.isJson = true := by
  have written := Except.ok.inj h
  rw [Option.ite_none_left_eq_some] at written
  obtain rfl := Option.some.inj written.2
  rfl

/-- A table made of data holds data. -/
theorem TableLookup.isJson_of_ofConfig {d : TableLookup} (made : ofConfig config = .ok d)
    (json : config.isJson = true) : (∀ row ∈ d.table, row.2.isJson = true) ∧ d.default.isJson = true := by
  obtain ⟨source, -, made⟩ := exists_of_bind_eq_ok made
  obtain ⟨table, hasTable, made⟩ := exists_of_bind_eq_ok made
  obtain ⟨target, -, made⟩ := exists_of_bind_eq_ok made
  obtain ⟨default, hasDefault, made⟩ := exists_of_bind_eq_ok made
  obtain ⟨rows, isMap, made⟩ := exists_of_bind_eq_ok made
  obtain rfl := Except.ok.inj made
  have tableJson := Value.isJson_of_field hasTable json rfl
  refine ⟨fun row member => ?_, Value.isJson_of_field hasDefault json rfl⟩
  obtain ⟨⟨k, v⟩, given, rfl⟩ := List.mem_map.1 member
  cases table with
  | map entries =>
    obtain rfl := Except.ok.inj isMap
    exact (Value.isJson_map.1 tableJson _ given).2
  | _ => cases isMap

theorem TableLookup.isJson_of_value? {d : TableLookup} {message : Entries} {v : Value}
    (rows : ∀ row ∈ d.table, row.2.isJson = true) (other : d.default.isJson = true)
    (h : d.writer.value? message = .ok (some v)) : v.isJson = true := by
  obtain ⟨_, -, h⟩ := exists_of_bind_eq_ok h
  obtain ⟨w, -, found⟩ := Option.bind_eq_some_iff.1 (Except.ok.inj h)
  have json : ((d.find? (fieldText w)).getD d.default).isJson = true := by
    cases row : d.find? (fieldText w) with
    | none => exact other
    | some held =>
      obtain ⟨entry, isRow, rfl⟩ := Option.map_eq_some_iff.1 row
      exact rows entry (List.mem_reverse.1 (List.mem_of_find?_eq_some isRow))
  split at found
  · cases found
  · obtain rfl := Option.some.inj found
    exact json

/-- Settings that are data make a writer of data. -/
theorem DecoratorConfig.writesData_of_makes (makes : c.Makes d) (json : c.config.isJson = true)
    (named : c.HasTextTarget) : d.WritesData := by
  refine ⟨named _ (target?_of_makes makes), ?_⟩
  obtain ⟨name, make, listed, -, made⟩ := makes
  simp only [FieldWriter.builtin, List.mem_cons, List.not_mem_nil, or_false, Prod.mk.injEq] at listed
  rcases listed with ⟨-, rfl⟩ | ⟨-, rfl⟩ | ⟨-, rfl⟩
  · obtain ⟨mapper, -, rfl⟩ := exists_of_map_eq_ok made
    exact fun _ _ => SeverityMapper.isJson_of_value?
  · obtain ⟨template, -, rfl⟩ := exists_of_map_eq_ok made
    exact fun _ _ => TemplateWriter.isJson_of_value?
  · obtain ⟨table, ofConfig, rfl⟩ := exists_of_map_eq_ok made
    obtain ⟨rows, other⟩ := TableLookup.isJson_of_ofConfig ofConfig json
    exact fun _ _ => TableLookup.isJson_of_value? rows other

theorem DecoratorChain.exists_config {configs : List DecoratorConfig} {writers : List FieldWriter}
    (made : Writers configs writers) (hd : d ∈ writers) : ∃ c ∈ configs, c.Makes d := by
  obtain ⟨sorted, inOrder, makes⟩ := made
  obtain ⟨c, hc, made⟩ := exists_mem_of_forall₂ makes hd
  exact ⟨c, (Sorted.perm_of_sortBy inOrder).mem_iff.1 hc, made⟩

end Settings

/-- The source and the highlights of a hit are data. -/
structure Hit.IsData (h : Hit) : Prop where
  source : h.source.isJson = true
  highlights : h.highlights.isJson = true

/-- The time in UTC that a hit has, if its source gives one. -/
def Hit.time? (h : Hit) : Option DateTime :=
  match h.source with
  | .map source => (Entries.get? source timeField).bind fun v => (h.messageTime v).toOption
  | _ => none

/-- What a record has that answers a search: under their names the identifier, the messages, the first and
the last instant, the number found in all, and the name if there is one. -/
structure Value.Answers (v : Value) (spec : SearchSpec) (messages : List Value) (range : TimeRange)
    (total : Value) : Prop where
  id : v.under? ["id"] = some spec.id
  type : v.under? ["type"] = some (.str "messages")
  messages : v.under? ["messages"] = some (.list messages)
  scale : v.under? ["effective_timerange", "type"] = some (.str "absolute")
  first : v.under? ["effective_timerange", "from"] = some (.str range.first.iso)
  last : v.under? ["effective_timerange", "to"] = some (.str range.last.iso)
  total : v.under? ["total_results"] = some total
  name : v.under? ["name"] = match spec.name with
    | .null => none
    | name => some name

/-- A message is shown with data but for a time among its fields. -/
structure Summary.IsData (s : Summary) : Prop where
  highlights : s.highlights.isJson = true
  fields : s.fields.AreData
  index : s.index.isJson = true

section Reading

variable {h : Hit} {m : Message} {source fields : Entries}

theorem Hit.areData_of_fields (made : h.fields source = .ok fields) (json : (Value.map source).isJson = true) :
    fields.AreData := by
  have given : source.AreData := fun e member =>
    (Value.isJson_map.1 json e member).imp_right .inl
  rw [fields_eq] at made
  split at made
  · obtain rfl := Except.ok.inj made
    exact given.drop _
  · obtain ⟨t, -, rfl⟩ := exists_of_map_eq_ok made
    exact (given.drop _).put (.inr ⟨rfl, t, rfl⟩)

theorem Hit.isData_of_read (data : h.IsData) (read : h.read = .ok m) : m.summary.IsData := by
  obtain ⟨source, isMap, made, -⟩ := exists_of_read read
  obtain ⟨shown, isShown, each⟩ := showsHighlights_of_read read
  refine ⟨?_, (areData_of_fields made (isMap ▸ data.source)).put (.inl rfl), rfl⟩
  rw [isShown]
  refine Value.isJson_map.2 fun entry member => ?_
  obtain ⟨given, isGiven, same, vs, -, texts⟩ := exists_mem_of_forall₂ each member
  rw [same, texts]
  refine ⟨?_, Value.isJson_texts _⟩
  have json := data.highlights
  cases shape : h.highlights with
  | map entries =>
    rw [shape] at json isGiven
    exact (Value.isJson_map.1 json _ isGiven).1
  | _ =>
    rw [shape] at isGiven
    cases isGiven

/-- The time among the fields of a message is that of its hit. -/
theorem Hit.get?_time_of_read (read : h.read = .ok m) :
    Entries.get? m.fields timeField = h.time?.map Value.time := by
  obtain ⟨source, isMap, made, -⟩ := exists_of_read read
  unfold time?
  rw [isMap]
  rw [fields_eq] at made
  dsimp only
  cases given : Entries.get? source timeField with
  | none =>
    rw [given] at made
    rw [← Except.ok.inj made]
    exact (Entries.get?_drop_ne timeField_ne_idField).trans given
  | some v =>
    rw [given] at made
    obtain ⟨t, isTime, made⟩ := exists_of_map_eq_ok made
    rw [← made, Option.bind_some, isTime]
    exact Entries.get?_put_self

end Reading

section Showing

variable {s changed : Summary} {writers : List FieldWriter} {h : Hit} {m : Message} {key v : Value}

/-- Data are shown as they are. -/
theorem Summary.shown_of_isJson (json : v.isJson = true) : shown v = v := by
  cases v with
  | time t => cases json
  | _ => rfl

theorem Summary.isJson_shown (fits : key.Fits v) : (shown v).isJson = true := by
  rcases fits with json | ⟨-, t, rfl⟩
  · rwa [shown_of_isJson json]
  · rfl

theorem Summary.IsData.isJson_record (data : s.IsData) : s.record.isJson = true := by
  have fields : (Value.map (s.fields.map fun field => (field.1, shown field.2))).isJson = true := by
    refine Value.isJson_map.2 fun entry member => ?_
    obtain ⟨field, isField, rfl⟩ := List.mem_map.1 member
    exact (data.fields field isField).imp_right Summary.isJson_shown
  refine Value.isJson_record fun part member => ?_
  simp only [List.mem_cons, List.not_mem_nil, or_false] at member
  rcases member with rfl | rfl | rfl
  · exact data.highlights
  · exact fields
  · exact data.index

theorem Summary.IsData.becomes (data : s.IsData) (write : ∀ d ∈ writers, d.WritesData)
    (become : s.Becomes writers changed) : changed.IsData := by
  obtain ⟨fields, done, rfl⟩ := become
  exact ⟨data.highlights, data.fields.decorateAll write done, data.index⟩

/-- Under the name of the time a message shows what is there. -/
theorem Summary.under?_time (s : Summary) :
    s.record.under? ["message", "timestamp"] = (Entries.get? s.fields timeField).map shown := by
  rw [← Entries.get?_map, record, Value.under?_record]
  exact Option.bind_fun_some _

/-- After writers of data a message of a hit shows what they wrote last under the name of its time, and
else the text of the time of the hit. -/
theorem Summary.under?_time_of_becomes (read : h.read = .ok m) (write : ∀ d ∈ writers, d.WritesData)
    (become : m.summary.Becomes writers changed) :
    changed.record.under? ["message", "timestamp"] =
      (FieldWriter.written "timestamp" writers m.summary.fields).getLast?.or
        (h.time?.map fun u => .str u.iso) := by
  obtain ⟨fields, done, rfl⟩ := become
  have given : Entries.get? m.summary.fields timeField = h.time?.map Value.time :=
    (Entries.get?_put_ne Hit.timeField_ne_idField).trans (Hit.get?_time_of_read read)
  rw [under?_time]
  change (Entries.get? fields timeField).map shown = _
  rw [timeField, FieldWriter.get?_of_writes done, ← timeField, given]
  cases last : (FieldWriter.written "timestamp" writers m.summary.fields).getLast? with
  | none => cases h.time? <;> rfl
  | some v =>
    have json := FieldWriter.isJson_of_mem_written write (List.mem_of_getLast? last)
    exact congrArg some (shown_of_isJson json)

/-- An answer of messages that are data is data. -/
theorem Envelope.isJson_record {e : Envelope} (id : e.id.isJson = true)
    (messages : ∀ m ∈ e.messages, m.record.isJson = true) (total : e.total.isJson = true)
    (name : e.name.isJson = true) : e.record.isJson = true := by
  have listed : (Value.list (e.messages.map Summary.record)).isJson = true := by
    refine Value.isJson_list.2 fun v hv => ?_
    obtain ⟨m, hm, rfl⟩ := List.mem_map.1 hv
    exact messages m hm
  refine Value.isJson_record fun part member => ?_
  simp only [List.mem_append, List.mem_cons, List.not_mem_nil, or_false] at member
  rcases member with (rfl | rfl | rfl | rfl | rfl) | member
  · exact id
  · rfl
  · exact listed
  · rfl
  · exact total
  · split at member
    · cases member
    · rw [List.mem_singleton.1 member]
      exact name

/-- An answer shows what it is made of. -/
theorem Envelope.answers_record (spec : SearchSpec) (messages : List Summary) (range : TimeRange)
    (total : Value) :
    (record ⟨spec.id, messages, range, total, spec.name⟩).Answers spec (messages.map Summary.record)
      range total := by
  unfold record
  constructor <;> rw [Value.under?_record]
  case name => cases spec.name <;> rfl
  all_goals rfl

end Showing

namespace Assembly

open LogSearch.Flow (Ends)

variable {σ : Type} {spec : SearchSpec} {hits : List Hit} {total : Value} {range : TimeRange}

/-- A chain that succeeds has an outcome. -/
theorem outcome_of_decorate {chain : DecoratorChain} {r : Response} {configs : List DecoratorConfig}
    {revision : Revision} {s t : Session σ}
    (h : Flow.exec (chain.decorate r configs) s = (.ok revision, t)) :
    chain.outcome r configs = .ok (revision.apply r) := by
  obtain ⟨result, ends, same⟩ := chain.ends_outcome r configs s.world
  obtain ⟨log, ran⟩ := ends s.log
  obtain rfl := (Prod.mk.inj (h.symm.trans ran)).1
  exact same.symm

/-- The messages of an answer are those of the hits, as the writers that the settings make have changed
them. -/
theorem exists_writers_of_exec {signal : Option (Cancellation σ)} {answer : Envelope} {s t : Session σ}
    (h : Flow.exec (assemble spec hits total range DecoratorChain.builtin.decorators signal) s =
      (.ok answer, t)) :
    ∃ writers messages, DecoratorChain.Writers spec.decorators writers ∧
      List.Forall₂ (fun hit changed => ∃ m, Hit.read hit = .ok m ∧ m.summary.Becomes writers changed)
        hits messages ∧
      answer = ⟨spec.id, messages, range, total, spec.name⟩ := by
  obtain ⟨messages, done, _, _, reads, decorated, rfl⟩ := exists_of_exec_assemble h
  obtain ⟨writers, made, changed, become, applied⟩ :=
    DecoratorChain.outcome_eq_ok_iff.1 (outcome_of_decorate decorated)
  refine ⟨writers, changed, made, ?_, ?_⟩
  · rw [response, List.forall₂_map_left_iff] at become
    exact forall₂_comp (fun hit m changed read become => ⟨m, read, become⟩) reads become
  · rw [applied]
    rfl

/-- When the hits, the settings of the built-in decorators, the identifier, the name and the total are
data, and the decorators write under texts, the record of an answer is data and has these parts.  Each
message in it has as its time what the decorators wrote last under that name, and the text of the time of
its hit if they wrote nothing there; and they write nothing there when it is no target.  There is an
answer when the hits are read and the decorators succeed with their messages. -/
theorem assemble_data (spec : SearchSpec) (hits : List Hit) (total : Value) (range : TimeRange)
    (data : ∀ hit ∈ hits, hit.IsData) (id : spec.id.isJson = true) (name : spec.name.isJson = true)
    (counted : total.isJson = true)
    (settings : ∀ c ∈ spec.decorators, c.config.isJson = true ∧ c.HasTextTarget) :
    (∀ (signal : Option (Cancellation σ)) (s t : Session σ) (answer : Envelope),
      Flow.exec (assemble spec hits total range DecoratorChain.builtin.decorators signal) s =
        (.ok answer, t) →
      answer.record.isJson = true ∧
      ∃ writers shown, DecoratorChain.Writers spec.decorators writers ∧
        answer.record.Answers spec shown range total ∧
        List.Forall₂ (fun hit message => ∃ m, Hit.read hit = .ok m ∧
          let overwritten := FieldWriter.written "timestamp" writers m.summary.fields
          message.under? ["message", "timestamp"] =
            overwritten.getLast?.or (hit.time?.map fun u => .str u.iso) ∧
          ((∀ c ∈ spec.decorators, c.target? ≠ some timeField) → overwritten = []))
          hits shown) ∧
    ∀ (w : σ) (messages : List Message) (r : Response), ReadAs Hit.read hits messages →
      DecoratorChain.builtin.outcome (response spec (messages.map Message.summary) total range)
        spec.decorators = .ok r →
      ∃ answer,
        Ends (assemble spec hits total range DecoratorChain.builtin.decorators none) w (.ok answer) w := by
  constructor
  · intro signal s t answer h
    obtain ⟨writers, messages, made, each, rfl⟩ := exists_writers_of_exec h
    have write : ∀ d ∈ writers, d.WritesData := by
      intro d hd
      obtain ⟨c, hc, makes⟩ := DecoratorChain.exists_config made hd
      exact DecoratorConfig.writesData_of_makes makes (settings c hc).1 (settings c hc).2
    constructor
    · refine Envelope.isJson_record id (fun changed member => ?_) counted name
      obtain ⟨hit, isHit, m, read, become⟩ := exists_mem_of_forall₂ each member
      exact ((Hit.isData_of_read (data hit isHit) read).becomes write become).isJson_record
    · refine ⟨writers, _, made, Envelope.answers_record spec messages range total,
        List.forall₂_map_right_iff.2 (each.imp ?_)⟩
      rintro hit changed ⟨m, read, become⟩
      refine ⟨m, read, Summary.under?_time_of_becomes read write become, fun apart => ?_⟩
      refine FieldWriter.written_eq_nil (fun d hd => ?_) _
      obtain ⟨c, hc, makes⟩ := DecoratorChain.exists_config made hd
      rintro target
      exact apart c hc ((DecoratorConfig.target?_of_makes makes).trans (congrArg some target))
  · intro w messages r reads decorated
    obtain ⟨result, ends, same⟩ := DecoratorChain.builtin.ends_outcome
      (response spec (messages.map Message.summary) total range) spec.decorators w
    rw [decorated] at same
    obtain ⟨done, rfl, -⟩ := exists_of_map_eq_ok same
    exact ⟨_, ends_assemble_unsignalled reads ends⟩

/-- A message with a time ahead of UTC, through a mapper of severities. -/
theorem assemble_data_zoned :
    let start : DateTime := ⟨0, some .utc, by decide⟩
    let range : TimeRange := ⟨start, start, rfl, rfl, Int.le_refl _⟩
    let config : DecoratorConfig := { type := .str "syslog_severity_mapper" }
    let spec : SearchSpec :=
      ⟨.str "s", range, .str "*", .int 0, .int 0, [], [], [], [config], .str "n"⟩
    let hit : Hit := ⟨.str "a", .str "g",
      .map [(.str "timestamp", .str "2024-03-01T13:00:00+01:00"), (.str "level", .int 3)], .null⟩
    (∀ h ∈ [hit], h.IsData) ∧ spec.id.isJson = true ∧ spec.name.isJson = true ∧
      (∀ c ∈ spec.decorators, c.config.isJson = true ∧ c.HasTextTarget) ∧
      ∃ answer : Envelope,
        Ends (assemble spec [hit] (.int 1) range DecoratorChain.builtin.decorators none) () (.ok answer) () ∧
        answer.record.isJson = true ∧ answer.record.under? ["id"] = some (.str "s") ∧
        answer.record.under? ["total_results"] = some (.int 1) ∧
        ∃ message, answer.record.under? ["messages"] = some (.list [message]) ∧
          message.under? ["message", "timestamp"] = some (.str "2024-03-01T12:00:00+00:00") := by
  intro start range config spec hit
  have data : ∀ h ∈ [hit], h.IsData := by
    intro h member
    obtain rfl := List.mem_singleton.1 member
    exact ⟨rfl, rfl⟩
  have target : config.target? = some (.str "level") := by cbv
  have settings : ∀ c ∈ spec.decorators, c.config.isJson = true ∧ c.HasTextTarget := by
    intro c member
    obtain rfl := List.mem_singleton.1 member
    exact ⟨rfl, fun v named => ⟨"level", Option.some.inj (named.symm.trans target)⟩⟩
  have text : Hit.textTime? "2024-03-01T13:00:00+01:00" =
      some ⟨63844894800000000, some ⟨3600000000, by decide⟩, by decide⟩ := by decide +kernel
  have time : hit.messageTime (.str "2024-03-01T13:00:00+01:00") =
      .ok ⟨63844891200000000, some .utc, by decide⟩ :=
    Hit.messageTime_of_given (Hit.givenTime_of_tells (.inr ⟨_, rfl, text⟩)) (by decide +kernel)
  let m : Message := ⟨"a", "g",
    [(.str "timestamp", .time ⟨63844891200000000, some .utc, by decide⟩), (.str "level", .int 3)], []⟩
  have read : Hit.read hit = .ok m := by
    have fields : hit.fields [(.str "timestamp", .str "2024-03-01T13:00:00+01:00"), (.str "level", .int 3)] =
        .ok m.fields := by
      rw [Hit.fields_eq]
      exact congrArg (Except.map _) time
    rw [Hit.read_of_map rfl rfl rfl, fields]
    rfl
  have decorated : ∃ r, DecoratorChain.builtin.outcome
      (response spec [m.summary] (.int 1) range) [config] = .ok r := by
    rw [DecoratorChain.outcome_singleton]
    exact ⟨_, by cbv⟩
  obtain ⟨r, decorated⟩ := decorated
  obtain ⟨shows, answers⟩ :=
    assemble_data (σ := Unit) spec [hit] (.int 1) range data rfl rfl rfl settings
  obtain ⟨answer, ends⟩ := answers () [m] r (.cons read .nil) decorated
  obtain ⟨log, ran⟩ := ends []
  obtain ⟨json, writers, shown, -, parts, each⟩ := shows none _ _ answer ran
  obtain ⟨message, rest, ⟨m', read', same, nothing⟩, none, rfl⟩ := List.forall₂_cons_left_iff.1 each
  obtain rfl := List.forall₂_nil_left_iff.1 none
  refine ⟨data, rfl, rfl, settings, answer, ends, json, parts.id, parts.total, message, parts.messages, ?_⟩
  have apart : ∀ c ∈ spec.decorators, c.target? ≠ some timeField := by
    intro c member
    obtain rfl := List.mem_singleton.1 member
    rw [target]
    exact fun same => absurd (Value.str.inj (Option.some.inj same)) (by decide)
  have isTime : hit.time? = some ⟨63844891200000000, some .utc, by decide⟩ := by
    change (hit.messageTime (.str "2024-03-01T13:00:00+01:00")).toOption = _
    rw [time]
    rfl
  have text : (⟨63844891200000000, some .utc, by decide⟩ : DateTime).iso = "2024-03-01T12:00:00+00:00" := by
    decide +kernel
  rw [same, nothing apart, isTime]
  exact congrArg (fun s => some (Value.str s)) text

end Assembly

end LogSearch
