import LogSearch.Message.Hit
import LogSearch.Proofs.Message.Reading
import LogSearch.Proofs.Query.Build
import LogSearch.Proofs.Query.Lookup
import LogSearch.Proofs.Time.Milliseconds
import LogSearch.Proofs.Value.Access
import LogSearch.Proofs.Value.Entries

/-!
# The filter by time keeps what lies in the range

A query names the bounds of its time range as stamps, with milliseconds.  Read as the times of hits
these are the bounds cut to milliseconds.  So among the instants of whole milliseconds the filter keeps
all that lie in the range, and of the others at most those of the millisecond that the range starts in.

Main statement: `QueryBuilder.timeFilter_keeps`.
-/

namespace LogSearch

/-- A stamp of a query gives a hit the time that it was written from, cut to milliseconds. -/
theorem Hit.messageTime_write {t : DateTime} (late : 1000 ≤ t.date.year) (utc : t.offset = some .utc)
    (h : Hit) : h.messageTime (.str (Stamp.write t)) = .ok t.cut := by
  have read : textTime? (Stamp.write t) = some t.cut.naive := by
    unfold textTime?
    rw [Stamp.read?_write late]
    rfl
  have given : h.givenTime (.str (Stamp.write t)) = .ok t.cut.naive := by
    simp only [givenTime, read]
  exact messageTime_of_given given (DateTime.toUtc?_naive utc)

namespace QueryBuilder

/-- A bound that the first filter of a query, that by time, sets to the times of messages. -/
def timeBound (query : Value) (name : String) : Except Fault Value := do
  let filters ← (← query.item "bool").item "filter"
  let filter ← filters.index (.int 0)
  (← (← filter.item "range").item "timestamp").item name

variable {σ : Type} {b : QueryBuilder} {spec : SearchSpec} {types : FieldTypes σ}
  {query : BackendQuery} {s t : Session σ}

theorem timeBound_of_baseQuery {base : Value} (h : baseQuery spec = .ok base) :
    timeBound base "gte" = .ok (.str (Stamp.write spec.timeRange.first)) ∧
      timeBound base "lte" = .ok (.str (Stamp.write spec.timeRange.last)) := by
  obtain ⟨streams, -, h⟩ := exists_of_bind_eq_ok h
  obtain ⟨must, -, h⟩ := exists_of_bind_eq_ok h
  obtain rfl := Except.ok.inj h
  constructor <;> rfl

/-- The filter by time of a query that is built sets the bounds of the time range. -/
theorem timeBound_of_exec_build (h : Flow.exec (b.build spec types) s = (.ok query, t)) :
    timeBound query.query "gte" = .ok (.str (Stamp.write spec.timeRange.first)) ∧
      timeBound query.query "lte" = .ok (.str (Stamp.write spec.timeRange.last)) := by
  obtain ⟨base, sorts, highlight, rfl, wanted, -⟩ := exists_parts_of_exec_build h
  exact timeBound_of_baseQuery wanted

/-- A query for some terms is built when the type of every field is known or known to be unknown. -/
theorem exists_ends_build (t : SearchTerms) (highlighting : Bool)
    (known : List Value → Value → Option String) (w : σ) :
    ∃ query, Flow.Ends (build { highlighting } t.spec (.ofFunction known)) w (.ok query) w := by
  let answers : FieldTypes.Answers := fun _ call => .ok (Value.ofOption ((known call.1 call.2).map .str))
  have follows : (FieldTypes.ofFunction known).Follows t.spec.streams answers fun _ => w :=
    fun _ _ => .pure _ w
  rcases t.ends_build_of_follows highlighting follows with
    ⟨-, query, -, ends, -⟩ | ⟨_, _, _, _, -, -, failed, -⟩
  · exact ⟨query, ends⟩
  · cases failed

/-- In a range from the year 1000 on, the two bounds that a query sets to the times of messages are
texts that a hit reads as the bounds of the range cut to milliseconds; and there is such a query.  So the
bounds of the query let through each instant of whole milliseconds in the range, and no such instant that
is after the range or a millisecond or more before it. -/
theorem timeFilter_keeps (r : TimeRange) (first : 1000 ≤ r.first.date.year)
    (last : 1000 ≤ r.last.date.year) (h : Hit) :
    (∀ (σ : Type) (b : QueryBuilder) (spec : SearchSpec) (types : FieldTypes σ) (query : BackendQuery)
        (s t : Session σ), spec.timeRange = r → Flow.exec (b.build spec types) s = (.ok query, t) →
      ∃ gte lte, timeBound query.query "gte" = .ok (.str gte) ∧
        timeBound query.query "lte" = .ok (.str lte) ∧
        h.messageTime (.str gte) = .ok r.first.cut ∧ h.messageTime (.str lte) = .ok r.last.cut) ∧
      (∀ (σ : Type) (w : σ) (terms : SearchTerms) (highlighting : Bool)
        (known : List Value → Value → Option String), terms.timeRange = r →
          terms.spec.timeRange = r ∧ ∃ query,
            Flow.Ends (build { highlighting } terms.spec (.ofFunction known)) w (.ok query) w) ∧
      r.first.cut.instant = r.first.instant - r.first.instant % 1000 ∧
      r.last.cut.instant = r.last.instant - r.last.instant % 1000 ∧
      ∀ z : Int, z % 1000 = 0 →
        (r.first.instant ≤ z ∧ z ≤ r.last.instant →
          r.first.cut.instant ≤ z ∧ z ≤ r.last.cut.instant) ∧
        (r.first.cut.instant ≤ z ∧ z ≤ r.last.cut.instant →
          r.first.instant - 1000 < z ∧ z ≤ r.last.instant) := by
  have cutFirst := DateTime.instant_cut r.first_utc
  have cutLast := DateTime.instant_cut r.last_utc
  refine ⟨?_, ?_, cutFirst, cutLast, ?_⟩
  · intro σ b spec types query s t range built
    subst range
    obtain ⟨gte, lte⟩ := timeBound_of_exec_build built
    exact ⟨_, _, gte, lte, h.messageTime_write first spec.timeRange.first_utc,
      h.messageTime_write last spec.timeRange.last_utc⟩
  · intro σ w terms highlighting known range
    exact ⟨range, exists_ends_build terms highlighting known w⟩
  · intro z whole
    rw [cutFirst, cutLast]
    constructor
    · rintro ⟨after, before⟩
      omega
    · rintro ⟨after, before⟩
      omega

/-- A range from just before the first millisecond after noon, and in it that millisecond. -/
theorem timeFilter_keeps_noon :
    let first : DateTime := ⟨63844891200000999, some .utc, by decide⟩
    let last : DateTime := ⟨63844891200123999, some .utc, by decide⟩
    let r : TimeRange := ⟨first, last, rfl, rfl, by decide⟩
    let spec : SearchSpec := ⟨.str "s", r, .str "*", .int 0, .int 0, [], [], [], [], .null⟩
    let types : FieldTypes Unit := ⟨fun _ _ => pure .null⟩
    let h : Hit := ⟨.str "a", .str "g", .map [], .null⟩
    Stamp.write first = "2024-03-01 12:00:00.000" ∧ Stamp.write last = "2024-03-01 12:00:00.123" ∧
      (∃ query t gte lte, Flow.exec (build {} spec types) ⟨(), []⟩ = (.ok query, t) ∧
        timeBound query.query "gte" = .ok (.str gte) ∧ timeBound query.query "lte" = .ok (.str lte) ∧
        h.messageTime (.str gte) = .ok first.cut ∧ h.messageTime (.str lte) = .ok last.cut) ∧
      first.cut.instant ≤ 63844891200001000 ∧ 63844891200001000 ≤ last.cut.instant := by
  intro first last r spec types h
  obtain ⟨bounds, -, -, -, keeps⟩ := timeFilter_keeps r (by decide +kernel) (by decide +kernel) h
  have built : ∃ query t, Flow.exec (build {} spec types) ⟨(), []⟩ = (.ok query, t) := ⟨_, _, rfl⟩
  obtain ⟨query, t, built⟩ := built
  obtain ⟨gte, lte, texts⟩ := bounds Unit {} spec types query _ t rfl built
  refine ⟨by decide +kernel, by decide +kernel, ⟨query, t, gte, lte, built, texts⟩, ?_⟩
  exact (keeps 63844891200001000 (by decide)).1 (by decide)

end QueryBuilder

end LogSearch
