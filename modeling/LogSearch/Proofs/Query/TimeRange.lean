import LogSearch.Proofs.Query.TimeFilter
import LogSearch.Proofs.Time.Range

/-!
# What a time range depends on

Each of the two times that a time range is made of may have any offset, or none.  The range is refused
just where the instant of the first is later than that of the second.  Otherwise it goes between the
times in UTC at these instants, and so does the filter of the queries that are built for it.

Main statement: `TimeRange.ofTimes_outcome`.
-/

namespace LogSearch

namespace QueryBuilder

/-- The first filter of a query. -/
def firstFilter (query : Value) : Except Fault Value := do
  let filters ← (← query.item "bool").item "filter"
  filters.index (.int 0)

variable {σ : Type} {b : QueryBuilder} {spec : SearchSpec} {types : FieldTypes σ}
  {query : BackendQuery} {s t : Session σ}

/-- The first filter of a query that is built is that by its time range. -/
theorem firstFilter_of_exec_build (h : Flow.exec (b.build spec types) s = (.ok query, t)) :
    firstFilter query.query = .ok (rangeFilter spec.timeRange) := by
  obtain ⟨base, sorts, highlight, rfl, wanted, -⟩ := exists_parts_of_exec_build h
  obtain ⟨streams, -, wanted⟩ := exists_of_bind_eq_ok wanted
  obtain ⟨must, -, wanted⟩ := exists_of_bind_eq_ok wanted
  obtain rfl := Except.ok.inj wanted
  rfl

end QueryBuilder

/-- Of two times whose instants lie in the calendar no range is made just when the instant of the first
is the later one, and the fault shows both in UTC.  Otherwise the bounds of the range are the times in
UTC at the two instants.  The same range, and the same fault, comes of all times at these instants, and
the range comes of its own bounds.  The queries that are built for it all have its filter, and there is
one for all terms of a search. -/
theorem TimeRange.ofTimes_outcome (first last : DateTime) (hf : first.InCalendar)
    (hl : last.InCalendar) :
    ((∃ fault, ofTimes first last = .error fault ∧ fault.kind = .value) ↔
      last.instant < first.instant) ∧
    (∀ fault, ofTimes first last = .error fault →
      ∃ u v, fault = .emptyRange u v ∧ u.IsUtcOf first ∧ v.IsUtcOf last) ∧
    (first.instant ≤ last.instant →
      ∃ r, ofTimes first last = .ok r ∧ r.first.IsUtcOf first ∧ r.last.IsUtcOf last ∧
        ofTimes r.first r.last = .ok r ∧
        (∀ (σ : Type) (b : QueryBuilder) (spec : SearchSpec) (types : FieldTypes σ)
          (query : BackendQuery) (s t : Session σ), spec.timeRange = r →
          Flow.exec (b.build spec types) s = (.ok query, t) →
          QueryBuilder.firstFilter query.query = .ok (QueryBuilder.rangeFilter r)) ∧
        ∀ (σ : Type) (w : σ) (terms : SearchTerms) (highlighting : Bool)
          (known : List Value → Value → Option String), terms.timeRange = r →
          terms.spec.timeRange = r ∧ ∃ query, Flow.Ends
            (QueryBuilder.build { highlighting } terms.spec (.ofFunction known)) w (.ok query) w) ∧
    ∀ first' last' : DateTime, first'.instant = first.instant → last'.instant = last.instant →
      ofTimes first' last' = ofTimes first last := by
  refine ⟨⟨?_, fun later => ?_⟩, ?_, fun ordered => ?_, fun _ _ => ofTimes_congr⟩
  · rintro ⟨fault, failed, -⟩
    by_contra ordered
    obtain ⟨r, made, -⟩ := exists_ofTimes_of_le hf hl (Int.not_lt.1 ordered)
    rw [made] at failed
    cases failed
  · obtain ⟨u, v, failed, -⟩ := exists_ofTimes_of_lt hf hl later
    exact ⟨_, failed, rfl⟩
  · intro fault failed
    rcases lt_or_ge last.instant first.instant with later | ordered
    · obtain ⟨u, v, outcome, isUtc⟩ := exists_ofTimes_of_lt hf hl later
      exact ⟨u, v, Except.error.inj (failed.symm.trans outcome), isUtc⟩
    · obtain ⟨r, made, -⟩ := exists_ofTimes_of_le hf hl ordered
      rw [made] at failed
      cases failed
  · obtain ⟨r, made, isUtc, isUtc'⟩ := exists_ofTimes_of_le hf hl ordered
    refine ⟨r, made, isUtc, isUtc', ofTimes_bounds r, ?_, ?_⟩
    · intro σ b spec types query s t range built
      rw [← range]
      exact QueryBuilder.firstFilter_of_exec_build built
    · intro σ w terms highlighting known range
      exact ⟨range, QueryBuilder.exists_ends_build terms highlighting known w⟩

/-- A range from an hour past midnight at the start of a year, in a zone that is two hours ahead of UTC,
to the time an hour before midnight without an offset.  In UTC both are in the last hour of the year
before. -/
theorem TimeRange.ofTimes_outcome_new_year :
    let first : DateTime := ⟨63839667600000000, some ⟨7200000000, by decide⟩, by decide⟩
    let last : DateTime := ⟨63839660400000000, none, by decide⟩
    let before : DateTime := ⟨63839660399999999, none, by decide⟩
    first.date = ⟨2024, 1, 1⟩ ∧ first.clock = ⟨1, 0, 0, 0⟩ ∧
      (∃ r query, ofTimes first last = .ok r ∧ r.first.instant = r.last.instant ∧
        r.first.date = ⟨2023, 12, 31⟩ ∧ r.first.clock = ⟨23, 0, 0, 0⟩ ∧
        Flow.Ends (QueryBuilder.build { highlighting := false }
          (SearchTerms.spec { id := "s", timeRange := r }) (.ofFunction fun _ _ => none)) () (.ok query) () ∧
        QueryBuilder.firstFilter query.query = .ok (QueryBuilder.rangeFilter r)) ∧
      ∃ fault, ofTimes first before = .error fault ∧ fault.kind = .value := by
  intro first last before
  have date : first.date = ⟨2024, 1, 1⟩ := by decide +kernel
  have clock : first.clock = ⟨1, 0, 0, 0⟩ := by decide +kernel
  obtain ⟨-, -, made, -⟩ := ofTimes_outcome first last (by decide) (by decide)
  obtain ⟨r, isRange, isUtc, isUtc', -, filter, queries⟩ := made (by decide)
  obtain ⟨range, query, built⟩ :=
    queries Unit () { id := "s", timeRange := r } false (fun _ _ => none) rfl
  obtain ⟨log, ran⟩ := built []
  obtain ⟨sameDate, sameClock⟩ := (isUtc.fields ⟨2023, 12, 31⟩ ⟨23, 0, 0, 0⟩ (by decide) (by decide)).1
    (by decide +kernel)
  have instants : first.instant = last.instant := by decide
  refine ⟨date, clock, ⟨r, query, isRange, ?_, sameDate, sameClock, built,
    filter _ _ _ _ _ _ _ range ran⟩, ?_⟩
  · rw [isUtc.instant, isUtc'.instant, instants]
  · exact (ofTimes_outcome first before (by decide) (by decide)).1.2 (by decide)

end LogSearch
