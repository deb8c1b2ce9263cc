import LogSearch.CommandLine.Request
import LogSearch.Proofs.CommandLine.Arguments
import LogSearch.Proofs.CommandLine.Surroundings
import LogSearch.Proofs.Failure
import LogSearch.Proofs.Search.Streams
import LogSearch.Proofs.Time.Range

/-!
# The search that arguments ask for

Arguments ask for a search, or something is wrong with them that is told.  There are few ways out: a time
range that leaves the calendar, and an option that was given no words at all.

Main statement: `SearchArguments.yields_spec`.
-/

namespace LogSearch.CommandLine

open LogSearch.Flow (Ends Yields)

theorem exists_of_readTime_eq_error {text : String} {fault : Fault} (h : readTime text = .error fault) :
    ∃ e, fault = .iso e := by
  unfold readTime at h
  cases read : Iso.read (withUtcOffset text) with
  | error e =>
    rw [read] at h
    exact ⟨e, (Except.error.inj h).symm⟩
  | ok t =>
    rw [read] at h
    cases h

theorem ofTimes_eq_error {first last : DateTime} {fault : Fault}
    (h : TimeRange.ofTimes first last = .error fault) :
    fault = .outsideCalendar ∨ fault.kind.isValue = true := by
  cases hu : first.toUtc? with
  | none =>
    rw [TimeRange.ofTimes_of_outside_first hu] at h
    exact .inl (Except.error.inj h).symm
  | some u =>
    cases hv : last.toUtc? with
    | none =>
      rw [TimeRange.ofTimes_of_outside_last hu hv] at h
      exact .inl (Except.error.inj h).symm
    | some v =>
      rw [TimeRange.ofTimes_of_toUtc? hu hv] at h
      split at h
      · cases h
      · obtain rfl := Except.error.inj h
        exact .inr rfl

namespace SearchArguments

/-- The end of the time range at some time. -/
def lastAt (a : SearchArguments) (now : DateTime) : Except Fault DateTime :=
  match given? a.last with
  | some text => readTime text
  | none => .ok now

/-- The time range that arguments ask for at some time. -/
def range (a : SearchArguments) (now : DateTime) : Except Fault TimeRange := do
  let last ← a.lastAt now
  let first ← a.firstTime last
  TimeRange.ofTimes first last

/-- What is wrong with arguments and is not told: they lead out of the calendar, or an option has no
words. -/
inductive Misfit (a : SearchArguments) (now : DateTime) : Fault → Prop
  | range (outside : a.range now = .error .outsideCalendar) : Misfit a now .outsideCalendar
  | sort (empty : .list [] ∈ a.sorts) : Misfit a now (.noAttribute "list" "rpartition")
  | stream (empty : .list [] ∈ a.streams) : Misfit a now (.unhashable "list")
  | limit (empty : a.limit = .list []) : Misfit a now (.incomparable "list" "int")
  | offset (empty : a.offset = .list []) : Misfit a now (.incomparable "list" "int")

variable {a : SearchArguments} {now : DateTime} {w : Trace}

theorem lastAt_eq_error {fault : Fault} (h : a.lastAt now = .error fault) : ∃ e, fault = .iso e := by
  unfold lastAt at h
  split at h
  · exact exists_of_readTime_eq_error h
  · cases h

theorem firstTime_eq_error {last : DateTime} {fault : Fault} (h : a.firstTime last = .error fault) :
    fault = .outsideCalendar ∨ fault.kind.isValue = true := by
  unfold firstTime at h
  split at h
  · obtain ⟨e, rfl⟩ := exists_of_readTime_eq_error h
    exact .inr rfl
  · split at h
    · cases h
    · exact .inl (Except.error.inj h).symm

/-- Of what is wrong with a time range only the way out of the calendar is not told. -/
theorem toldUnless_of_range {fault : Fault} (h : a.range now = .error fault) :
    (Failure.fault fault).ToldUnless (a.Misfit now) := by
  have known : fault = .outsideCalendar ∨ fault.kind.isValue = true := by
    have parts := h
    unfold range at parts
    cases hl : a.lastAt now with
    | error f =>
      rw [hl] at parts
      obtain rfl : f = fault := Except.error.inj parts
      obtain ⟨e, rfl⟩ := lastAt_eq_error hl
      exact .inr rfl
    | ok last =>
      cases hf : a.firstTime last with
      | error f =>
        rw [hl] at parts
        simp only [bind, Except.bind, hf] at parts
        obtain rfl : f = fault := Except.error.inj parts
        exact firstTime_eq_error hf
      | ok first =>
        rw [hl] at parts
        simp only [bind, Except.bind, hf] at parts
        exact ofTimes_eq_error parts
  rcases known with rfl | told
  · exact .inr (.range h)
  · exact .inl told

theorem ends_lastTime (around : Surroundings) (w : Trace) :
    Ends (a.lastTime around.host) w (ofFaults (a.lastAt around.now)) w := by
  unfold lastTime lastAt
  cases given? a.last with
  | none => exact .pure around.now w
  | some text => exact .ofFault rfl w

/-- Sorts that are given as texts are clauses by fields with names, or one of them is reported. -/
theorem mapM_readSort_cases {given : List Value} (texts : ∀ v ∈ given, ArgumentKind.text.Reads v) :
    (∃ sorts, given.mapM readSort = .ok sorts ∧ ∀ c ∈ sorts, c.isNamed = true) ∨
      ∃ e, given.mapM readSort = .error e ∧ ((∃ r c, e = .search r c ∧ e.HasText) ∨
        (e = .fault (.noAttribute "list" "rpartition") ∧ .list [] ∈ given)) := by
  induction given with
  | nil => exact .inl ⟨[], rfl, nofun⟩
  | cons v rest ih =>
    have others := ih fun u hu => texts u (List.mem_cons_of_mem v hu)
    rw [List.mapM_cons]
    cases texts v List.mem_cons_self with
    | nothing => exact .inr ⟨_, rfl, .inr ⟨rfl, List.mem_cons_self⟩⟩
    | text s =>
      change (∃ sorts, (SortClause.ofText s >>= _) = _ ∧ _) ∨ ∃ e, (SortClause.ofText s >>= _) = _ ∧ _
      rcases SortClause.ofText_cases s with ⟨c, isClause, named⟩ | ⟨r, failed, hasText⟩
      · rw [isClause]
        rcases others with ⟨sorts, read, all⟩ | ⟨e, failed, why⟩
        · rw [read]
          exact .inl ⟨c :: sorts, rfl, List.forall_mem_cons.2 ⟨named, all⟩⟩
        · rw [failed]
          refine .inr ⟨e, rfl, why.imp_right fun ⟨isFault, empty⟩ => ⟨isFault, ?_⟩⟩
          exact List.mem_cons_of_mem _ empty
      · rw [failed]
        exact .inr ⟨_, rfl, .inl ⟨r, none, rfl, hasText⟩⟩

/-- Streams are texts, unless one is given no words. -/
theorem streams_cases {given : List Value} (texts : ∀ v ∈ given, ArgumentKind.text.Reads v) :
    (∃ names : List String, given = names.map .str) ∨
      .list [] ∈ given ∧ given.forM Value.fixed = .error (.unhashable "list") := by
  induction given with
  | nil => exact .inl ⟨[], rfl⟩
  | cons v rest ih =>
    cases texts v List.mem_cons_self with
    | nothing => exact .inr ⟨List.mem_cons_self, rfl⟩
    | text s =>
      rcases ih fun u hu => texts u (List.mem_cons_of_mem _ hu) with ⟨names, rfl⟩ | ⟨empty, failed⟩
      · exact .inl ⟨s :: names, rfl⟩
      · exact .inr ⟨List.mem_cons_of_mem _ empty, failed⟩

/-- A count is a natural number, or it is negative, or it was given no words. -/
theorem checkCount_cases (what : String) {v : Value} (count : ArgumentKind.integer.Reads v) :
    (∃ n : Nat, v = .int n) ∨ ∃ fault, SearchSpec.checkCount what v = .error fault ∧
      (fault.kind.isValue = true ∨ v = .list [] ∧ fault = .incomparable "list" "int") := by
  cases count with
  | nothing => exact .inr ⟨_, rfl, .inr ⟨rfl, rfl⟩⟩
  | integer n =>
    by_cases negative : n < 0
    · refine .inr ⟨.negative what (.int n), ?_, .inl rfl⟩
      have less : (Value.int n).less (.int 0) = .ok true := by
        simp [Value.less, Value.atomLess, Value.int?, negative]
      unfold SearchSpec.checkCount
      rw [less]
      rfl
    · exact .inl ⟨n.toNat, by rw [Int.toNat_of_nonneg (by omega)]⟩

/-- The limit of a search, which the settings say if the arguments do not. -/
def limitOr (a : SearchArguments) (usual : Int) : Value :=
  match a.limit with
  | .null => .int usual
  | limit => limit

theorem reads_limitOr (read : a.IsRead) (usual : Int) :
    ArgumentKind.integer.Reads (a.limitOr usual) ∧ (a.limitOr usual = .list [] → a.limit = .list []) := by
  unfold limitOr
  rcases read.limit with none | given
  · rw [none]
    exact ⟨.integer usual, nofun⟩
  · generalize a.limit = limit at given ⊢
    cases given with
    | integer n => exact ⟨.integer n, nofun⟩
    | nothing => exact ⟨.nothing _, fun _ => rfl⟩

/-- Parts of a search that are well formed make one, unless a count does not fit. -/
theorem ofDraft_cases (read : a.IsRead) (usual : Int) (id : String) (range : TimeRange)
    {sorts : List SortClause} (named : ∀ c ∈ sorts, c.isNamed = true) (streams fields : List String) :
    let spec := SearchSpec.ofDraft
      { id := .str id, timeRange := range, queryString := .str a.query, limit := a.limitOr usual
        offset := a.offset, fields := .texts fields, sorts := sorts.map .clause
        streams := .list (streams.map .str), name := a.name }
    (∃ t : SearchTerms, t.decorators = [] ∧ spec = .ok { t.spec with name := a.name }) ∨
      ∃ fault, spec = .error fault ∧ (Failure.fault fault).ToldUnless (a.Misfit now) := by
  intro spec
  obtain ⟨isCount, given⟩ := reads_limitOr read usual
  rcases checkCount_cases "limit" isCount with ⟨limit, isLimit⟩ | ⟨fault, failed, why⟩
  · rcases checkCount_cases "offset" read.offset with ⟨offset, isOffset⟩ | ⟨fault, failed, why⟩
    · refine .inl ⟨{ id, timeRange := range, text := a.query, limit, offset, fields, sorts, streams, named },
        rfl, ?_⟩
      have fieldSet : (Value.texts fields).elementSet = .ok (fields.eraseDups.map .str) :=
        SearchSpec.elementSet_of_elements rfl
      have streamSet : (Value.list (streams.map .str)).elementSet = .ok (streams.eraseDups.map .str) :=
        SearchSpec.elementSet_of_elements rfl
      simp only [spec, SearchSpec.ofDraft, isLimit, isOffset, SearchTerms.checkCount_natural, fieldSet,
        streamSet, bind, Except.bind]
      rfl
    · refine .inr ⟨fault, ?_, ?_⟩
      · simp only [spec, SearchSpec.ofDraft, isLimit, SearchTerms.checkCount_natural, failed, bind,
          Except.bind]
      · rcases why with told | ⟨empty, rfl⟩
        · exact .inl told
        · exact .inr (.offset empty)
  · refine .inr ⟨fault, ?_, ?_⟩
    · simp only [spec, SearchSpec.ofDraft, failed, bind, Except.bind]
    · rcases why with told | ⟨empty, rfl⟩
      · exact .inl told
      · exact .inr (.limit (given empty))

/-- A name that is not given is made. -/
theorem yields_withId {α : Type} (around : Surroundings) (given : Option String)
    {rest : String → Flow Trace α} {P : α → Trace → Prop} {E : Failure → Trace → Prop}
    (each : ∀ id, (rest id).Yields w P E) :
    (match given with
      | some id => pure id >>= rest
      | none => around.host.newId >>= rest).Yields w P E := by
  cases given with
  | some id => exact each id
  | none => exact each around.newId

/-- Without a time range there is no search. -/
theorem yields_spec_of_range_error (around : Surroundings) (settings : Settings) {fault : Fault}
    (h : a.range around.now = .error fault) (w : Trace) :
    (a.spec around.host settings).Yields w (fun _ _ => False) (fun e v => v = w ∧ e = .fault fault) := by
  unfold range at h
  unfold spec
  have isLast := ends_lastTime around w (a := a)
  cases isEnd : a.lastAt around.now with
  | error f =>
    rw [isEnd] at h isLast
    cases h
    exact isLast.bind_error.yields_error ⟨rfl, rfl⟩
  | ok last =>
    rw [isEnd] at h isLast
    refine isLast.bind_yields ?_
    change (a.firstTime last >>= fun first => TimeRange.ofTimes first last) = _ at h
    cases isFirst : a.firstTime last with
    | error f =>
      rw [isFirst] at h
      cases h
      exact .ofFault_bind_error rfl ⟨rfl, rfl⟩
    | ok first =>
      rw [isFirst] at h
      refine .ofFault_bind rfl (yields_withId around _ fun id => ?_)
      exact .ofFault_bind_error h ⟨rfl, rfl⟩

/-- Arguments ask for a search that is made of terms, whatever its name, or they are told, or they do not
fit. -/
theorem yields_spec (around : Surroundings) (settings : Settings) (read : a.IsRead) (w : Trace) :
    (a.spec around.host settings).Yields w
      (fun spec v => v = w ∧ ∃ t : SearchTerms, t.decorators = [] ∧ spec = { t.spec with name := a.name })
      (fun e v => v = w ∧ e.ToldUnless (a.Misfit around.now)) := by
  cases isRange : a.range around.now with
  | error fault =>
    refine (yields_spec_of_range_error around settings isRange w).imp nofun ?_
    rintro e v ⟨rfl, rfl⟩
    exact ⟨rfl, toldUnless_of_range isRange⟩
  | ok range =>
    obtain ⟨last, isLast, others⟩ := exists_of_bind_eq_ok isRange
    obtain ⟨first, isFirst, isRange⟩ := exists_of_bind_eq_ok others
    unfold spec
    refine (isLast ▸ ends_lastTime around w).bind_yields ?_
    refine .ofFault_bind isFirst (yields_withId around _ fun id => ?_)
    refine .ofFault_bind isRange ?_
    rcases mapM_readSort_cases read.sorts with ⟨sorts, isSorts, named⟩ | ⟨e, failed, told⟩
    · refine (Ends.ofExcept isSorts w).bind_yields ?_
      rcases streams_cases read.streams with ⟨names, isNames⟩ | ⟨empty, failed⟩
      · have isSet : (Value.list a.streams).elementSet = .ok (names.eraseDups.map .str) :=
          SearchSpec.elementSet_of_elements (congrArg Except.ok isNames)
        refine .ofFault_bind isSet ?_
        rcases ofDraft_cases read settings.limit id range named names.eraseDups
          (((given? a.fields).map readFields).getD []) with ⟨t, none, made⟩ | ⟨fault, failed, told⟩
        · exact (Ends.ofFault (congrArg ofFaults made) w).yields_ok ⟨rfl, t, none, rfl⟩
        · exact (Ends.ofFault (congrArg ofFaults failed) w).yields_error ⟨rfl, told⟩
      · have noSet : (Value.list a.streams).elementSet = .error (.unhashable "list") := by
          unfold Value.elementSet
          simp only [Value.elements, bind, Except.bind, failed]
        exact .ofFault_bind_error noSet
          ⟨rfl, .inr (.stream empty)⟩
    · refine (Ends.ofExcept failed w).bind_error.yields_error ⟨rfl, ?_⟩
      rcases told with ⟨report, cause, rfl, hasText⟩ | ⟨rfl, empty⟩
      · exact hasText
      · exact .inr (.sort empty)

end SearchArguments

end LogSearch.CommandLine
