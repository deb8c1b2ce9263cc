import LogSearch.Proofs.Query.TimeFilter
import LogSearch.Proofs.Text.Shape
import LogSearch.Proofs.Time.Order

/-!
# The bounds of the filter by time and the format that they are given with

A query names a format next to the two bounds of its time range, with four letters for the year.  The
bounds are written with as many digits for the year as it has, so that they have the shape of the format
from the year 1000 on.  Such bounds compare as texts in the way the times do that they are written from,
cut to milliseconds.  Where one year has fewer digits than the other, the texts compare as the times do
as long as the shorter year is not above the first digits of the longer one.

Main statement: `QueryBuilder.timeFilter_format`.
-/

namespace LogSearch

open LogSearch.Text (padded decimal)

namespace Stamp

/-- The text of a stamp behind its year. -/
def afterYear (t : DateTime) : List Char :=
  padded 2 t.date.month ++ '-' :: (padded 2 t.date.day ++ ' ' :: (padded 2 t.clock.hour ++
    ':' :: (padded 2 t.clock.minute ++ ':' :: (padded 2 t.clock.second ++
      '.' :: padded 3 (t.clock.micro / 1000)))))

theorem milliChars_eq_afterYear (t : DateTime) :
    milliChars t = decimal t.date.year ++ '-' :: afterYear t :=
  milliChars_eq t

/-- The numbers of a stamp fit into their digits. -/
theorem fields_lt (t : DateTime) :
    t.date.month < Nat.pow 10 2 ∧ t.date.day < Nat.pow 10 2 ∧ t.clock.hour < Nat.pow 10 2 ∧
      t.clock.minute < Nat.pow 10 2 ∧ t.clock.second < Nat.pow 10 2 ∧
      t.clock.micro / 1000 < Nat.pow 10 3 := by
  obtain ⟨-, month, day⟩ := Date.fields_lt t.isValid_date
  obtain ⟨hour, minute, second, micro⟩ := Clock.fields_lt t.isValid_clock
  exact ⟨month, day, hour, minute, second, Nat.div_lt_of_lt_mul micro⟩

/-- A stamp has the shape of the format with a letter for each digit of the year. -/
theorem hasShape_milliChars (t : DateTime) :
    Text.HasShape Char.isAlpha
      (List.replicate (decimal t.date.year).length 'y' ++ "-MM-dd HH:mm:ss.SSS".toList)
      (milliChars t) := by
  obtain ⟨month, day, hour, minute, second, millis⟩ := fields_lt t
  have two : 0 < 2 := by decide
  have fraction := Text.HasShape.of_padded (rfl : 'S'.isAlpha = true) (by decide : 0 < 3) millis
  have seconds := (Text.HasShape.of_padded (rfl : 's'.isAlpha = true) two second).append
    (.cons (rfl : '.'.isAlpha = false) fraction)
  have minutes := (Text.HasShape.of_padded (rfl : 'm'.isAlpha = true) two minute).append
    (.cons (rfl : ':'.isAlpha = false) seconds)
  have hours := (Text.HasShape.of_padded (rfl : 'H'.isAlpha = true) two hour).append
    (.cons (rfl : ':'.isAlpha = false) minutes)
  have days := (Text.HasShape.of_padded (rfl : 'd'.isAlpha = true) two day).append
    (.cons (rfl : ' '.isAlpha = false) hours)
  have months := (Text.HasShape.of_padded (rfl : 'M'.isAlpha = true) two month).append
    (.cons (rfl : '-'.isAlpha = false) days)
  have years := Text.HasShape.of_padded (rfl : 'y'.isAlpha = true)
    (Text.length_decimal_pos t.date.year) (Text.lt_pow_length_decimal t.date.year)
  rw [Text.padded_length_decimal] at years
  rw [milliChars_eq_afterYear]
  exact years.append (.cons (rfl : '-'.isAlpha = false) months)

theorem length_milliChars (t : DateTime) :
    (milliChars t).length = (decimal t.date.year).length + 19 := by
  have length := (hasShape_milliChars t).length_eq
  rw [List.length_append, List.length_replicate] at length
  exact length.symm

/-- A stamp has four digits for the year from the year 1000 on. -/
theorem length_year_eq_four_iff (t : DateTime) :
    (decimal t.date.year).length = 4 ↔ 1000 ≤ t.date.year := by
  obtain ⟨last, -, -⟩ := Date.fields_lt t.isValid_date
  have short := Text.length_decimal_le (by decide : 0 < 4) last
  constructor
  · intro four
    by_contra early
    have small : t.date.year < Nat.pow 10 3 := Nat.not_le.1 early
    have three := Text.length_decimal_le (by decide : 0 < 3) small
    omega
  · intro late
    have three : 3 < (decimal t.date.year).length := Text.lt_length_decimal late
    omega

/-- A stamp has the shape of the format, and as many characters, from the year 1000 on. -/
theorem hasShape_format_iff (t : DateTime) :
    (Text.HasShape Char.isAlpha "yyyy-MM-dd HH:mm:ss.SSS".toList (write t).toList ↔ 1000 ≤ t.date.year) ∧
      ((write t).length = 23 ↔ 1000 ≤ t.date.year) := by
  have length : (write t).length = (decimal t.date.year).length + 19 := by
    rw [write, String.length_ofList, length_milliChars]
  have whole : (write t).length = 23 ↔ 1000 ≤ t.date.year := by
    rw [← length_year_eq_four_iff, length]
    omega
  refine ⟨⟨?_, ?_⟩, whole⟩
  · intro shape
    rw [← whole, ← String.length_toList]
    exact shape.length_eq.symm
  · intro late
    have shape := hasShape_milliChars t
    rw [(length_year_eq_four_iff t).2 late, show milliChars t = (write t).toList from
      String.toList_ofList.symm] at shape
    exact shape

variable {t u : DateTime}

/-- Behind their years stamps compare as the times do in a year. -/
theorem compare_afterYear (t u : DateTime) :
    compare (afterYear t) (afterYear u) =
      (compare t.date.month u.date.month).then ((compare t.date.day u.date.day).then
        ((compare t.clock.hour u.clock.hour).then ((compare t.clock.minute u.clock.minute).then
          ((compare t.clock.second u.clock.second).then
            (compare (t.clock.micro / 1000) (u.clock.micro / 1000)))))) := by
  obtain ⟨month, day, hour, minute, second, millis⟩ := fields_lt t
  obtain ⟨month', day', hour', minute', second', millis'⟩ := fields_lt u
  have two : 0 < 2 := by decide
  have last := Text.compare_padded (by decide : 0 < 3) millis millis' [] []
  have mark (c : Char) (cs ds : List Char) : compare (c :: cs) (c :: ds) = compare cs ds := by
    rw [Text.compare_cons, compare_eq_iff_eq.2 rfl]
    rfl
  simp only [List.append_nil] at last
  unfold afterYear
  rw [Text.compare_padded two month month', mark, Text.compare_padded two day day', mark,
    Text.compare_padded two hour hour', mark, Text.compare_padded two minute minute', mark,
    Text.compare_padded two second second', mark, last]
  simp

/-- Stamps whose years have equally many digits compare as the times do, cut to milliseconds. -/
theorem compare_write (ht : t.offset = some .utc) (hu : u.offset = some .utc)
    (same : (decimal t.date.year).length = (decimal u.date.year).length) :
    compare (write t) (write u) = compare t.cut.instant u.cut.instant := by
  rw [write, write, Text.compare_ofList, milliChars_eq_afterYear, milliChars_eq_afterYear,
    Text.compare_decimal same, Text.compare_cons, compare_afterYear,
    DateTime.compare_instant_cut ht hu, Date.order]
  simp [Ordering.then_assoc]

/-- Of stamps whose years have unequally many digits, the shorter year is compared with as many digits
of the longer one. -/
theorem compare_write_shorter {places : Nat} (pos : 0 < places)
    (longer : (decimal t.date.year).length + places = (decimal u.date.year).length) :
    compare (write t) (write u) =
      (compare t.date.year (u.date.year / Nat.pow 10 places)).then .lt := by
  rw [write, write, Text.compare_ofList, milliChars_eq_afterYear, milliChars_eq_afterYear,
    Text.compare_decimal_shorter pos longer]

/-- Stamps compare as the times do, cut to milliseconds, just when the year of the earlier is not above
as many first digits of the other year. -/
theorem compare_write_iff (ht : t.offset = some .utc) (hu : u.offset = some .utc)
    (ordered : t.date.year ≤ u.date.year) :
    compare (write t) (write u) = compare t.cut.instant u.cut.instant ↔
      t.date.year ≤ u.date.year /
        Nat.pow 10 ((decimal u.date.year).length - (decimal t.date.year).length) := by
  have digits := Text.length_decimal_mono ordered
  generalize gap : (decimal u.date.year).length - (decimal t.date.year).length = places
  cases places with
  | zero =>
    have same : (decimal t.date.year).length = (decimal u.date.year).length := by omega
    simp [compare_write ht hu same, ordered]
  | succ places =>
    have longer : (decimal t.date.year).length + (places + 1) = (decimal u.date.year).length := by
      omega
    have less : t.date.year < u.date.year := by
      refine Nat.lt_of_le_of_ne ordered fun same => ?_
      rw [same] at gap
      omega
    have earlier : compare t.cut.instant u.cut.instant = .lt := by
      rw [DateTime.compare_instant_cut ht hu, Date.order, compare_lt_iff_lt.2 less]
      rfl
    rw [compare_write_shorter (by omega : 0 < places + 1) longer, earlier, Ordering.then_eq_lt,
      compare_lt_iff_lt, compare_eq_iff_eq, Nat.le_iff_lt_or_eq]
    simp

end Stamp

namespace QueryBuilder

variable {σ : Type} {b : QueryBuilder} {spec : SearchSpec} {types : FieldTypes σ}
  {query : BackendQuery} {s t : Session σ}

/-- The format that the bounds of the filter by time are given with. -/
theorem timeBound_format_of_exec_build (h : Flow.exec (b.build spec types) s = (.ok query, t)) :
    timeBound query.query "format" = .ok (.str "yyyy-MM-dd HH:mm:ss.SSS") := by
  obtain ⟨base, sorts, highlight, rfl, wanted, -⟩ := exists_parts_of_exec_build h
  obtain ⟨streams, -, wanted⟩ := exists_of_bind_eq_ok wanted
  obtain ⟨must, -, wanted⟩ := exists_of_bind_eq_ok wanted
  obtain rfl := Except.ok.inj wanted
  rfl

/-- The bounds of a query are the stamps of its time range, next to the format, and there is a query for
every range.  A stamp has the shape of the format, and as many characters, from the year 1000 on.  Stamps
from the year 1000 on compare as texts in the way the times do, cut to milliseconds; and of any two stamps
those whose earlier year is not above as many first digits of the other year. -/
theorem timeFilter_format (r : TimeRange) :
    (∀ (σ : Type) (b : QueryBuilder) (spec : SearchSpec) (types : FieldTypes σ) (query : BackendQuery)
        (s t : Session σ), spec.timeRange = r → Flow.exec (b.build spec types) s = (.ok query, t) →
      timeBound query.query "gte" = .ok (.str (Stamp.write r.first)) ∧
        timeBound query.query "lte" = .ok (.str (Stamp.write r.last)) ∧
        timeBound query.query "format" = .ok (.str "yyyy-MM-dd HH:mm:ss.SSS")) ∧
      (∀ (σ : Type) (w : σ) (terms : SearchTerms) (highlighting : Bool)
        (known : List Value → Value → Option String), terms.timeRange = r →
          terms.spec.timeRange = r ∧ ∃ query,
            Flow.Ends (build { highlighting } terms.spec (.ofFunction known)) w (.ok query) w) ∧
      (∀ t : DateTime,
        (Text.HasShape Char.isAlpha "yyyy-MM-dd HH:mm:ss.SSS".toList (Stamp.write t).toList ↔
          1000 ≤ t.date.year) ∧
        ((Stamp.write t).length = 23 ↔ 1000 ≤ t.date.year)) ∧
      ∀ t u : DateTime, t.offset = some .utc → u.offset = some .utc →
        t.cut.instant = t.instant - t.instant % 1000 ∧
        (1000 ≤ t.date.year → 1000 ≤ u.date.year →
          compare (Stamp.write t) (Stamp.write u) = compare t.cut.instant u.cut.instant) ∧
        (t.date.year ≤ u.date.year →
          (compare (Stamp.write t) (Stamp.write u) = compare t.cut.instant u.cut.instant ↔
            t.date.year ≤ u.date.year /
              Nat.pow 10 ((decimal u.date.year).length - (decimal t.date.year).length))) := by
  refine ⟨?_, ?_, Stamp.hasShape_format_iff, ?_⟩
  · intro σ b spec types query s t range built
    subst range
    obtain ⟨gte, lte⟩ := timeBound_of_exec_build built
    exact ⟨gte, lte, timeBound_format_of_exec_build built⟩
  · intro σ w terms highlighting known range
    exact ⟨range, exists_ends_build terms highlighting known w⟩
  · intro t u ht hu
    refine ⟨DateTime.instant_cut ht, ?_, Stamp.compare_write_iff ht hu⟩
    intro late late'
    have four := (Stamp.length_year_eq_four_iff t).2 late
    have four' := (Stamp.length_year_eq_four_iff u).2 late'
    exact Stamp.compare_write ht hu (four.trans four'.symm)

/-- A range over the first midnight of the year 1000. -/
theorem timeFilter_format_millennium :
    let first : DateTime := ⟨31525372799999999, some .utc, by decide⟩
    let last : DateTime := ⟨31525372800000000, some .utc, by decide⟩
    let r : TimeRange := ⟨first, last, rfl, rfl, by decide⟩
    let spec : SearchSpec := ⟨.str "s", r, .str "*", .int 0, .int 0, [], [], [], [], .null⟩
    let types : FieldTypes Unit := ⟨fun _ _ => pure .null⟩
    Stamp.write first = "999-12-31 23:59:59.999" ∧ Stamp.write last = "1000-01-01 00:00:00.000" ∧
      (∃ query t, Flow.exec (build {} spec types) ⟨(), []⟩ = (.ok query, t) ∧
        timeBound query.query "gte" = .ok (.str (Stamp.write first)) ∧
        timeBound query.query "lte" = .ok (.str (Stamp.write last))) ∧
      ¬Text.HasShape Char.isAlpha "yyyy-MM-dd HH:mm:ss.SSS".toList (Stamp.write first).toList ∧
      Text.HasShape Char.isAlpha "yyyy-MM-dd HH:mm:ss.SSS".toList (Stamp.write last).toList ∧
      compare (Stamp.write first) (Stamp.write last) ≠ compare first.cut.instant last.cut.instant := by
  intro first last r spec types
  obtain ⟨bounds, -, shape, order⟩ := timeFilter_format r
  have built : ∃ query t, Flow.exec (build {} spec types) ⟨(), []⟩ = (.ok query, t) := ⟨_, _, rfl⟩
  obtain ⟨query, t, built⟩ := built
  obtain ⟨gte, lte, -⟩ := bounds Unit {} spec types query _ t rfl built
  obtain ⟨-, -, agree⟩ := order first last rfl rfl
  have early : first.date.year = 999 := by decide +kernel
  have late : last.date.year = 1000 := by decide +kernel
  have three : (decimal 999).length = 3 := by decide +kernel
  have four : (decimal 1000).length = 4 := by decide +kernel
  rw [early, late, three, four] at agree
  refine ⟨by decide +kernel, by decide +kernel, ⟨query, t, built, gte, lte⟩, ?_, ?_, ?_⟩
  · rw [(shape first).1, early]
    decide
  · rw [(shape last).1, late]
  · rw [ne_eq, agree (by decide)]
    decide

/-- A range from the first instant of the calendar on: its bound has no four digits for the year.  And
the last millisecond of the year 999 is as a text behind the first of the year 1000. -/
theorem timeFilter_format_first_year :
    let first : DateTime := ⟨0, some .utc, by decide⟩
    let last : DateTime := ⟨63844891200000000, some .utc, by decide⟩
    let r : TimeRange := ⟨first, last, rfl, rfl, by decide⟩
    let spec : SearchSpec := ⟨.str "s", r, .str "*", .int 0, .int 0, [], [], [], [], .null⟩
    let types : FieldTypes Unit := ⟨fun _ _ => pure .null⟩
    let early : DateTime := ⟨31525372799999000, some .utc, by decide⟩
    let late : DateTime := ⟨31525372800000000, some .utc, by decide⟩
    (∃ query t, Flow.exec (build {} spec types) ⟨(), []⟩ = (.ok query, t) ∧
      timeBound query.query "gte" = .ok (.str "1-01-01 00:00:00.000") ∧
      timeBound query.query "format" = .ok (.str "yyyy-MM-dd HH:mm:ss.SSS")) ∧
    ¬Text.HasShape Char.isAlpha "yyyy-MM-dd HH:mm:ss.SSS".toList "1-01-01 00:00:00.000".toList ∧
    "1-01-01 00:00:00.000".length = 20 ∧
    compare (Stamp.write early) (Stamp.write late) = .gt ∧
    compare early.cut.instant late.cut.instant = .lt := by
  intro first last r spec types early late
  have text : Stamp.write first = "1-01-01 00:00:00.000" := by decide +kernel
  have built : ∃ query t, Flow.exec (build {} spec types) ⟨(), []⟩ = (.ok query, t) := ⟨_, _, rfl⟩
  obtain ⟨query, t, built⟩ := built
  obtain ⟨gte, -⟩ := timeBound_of_exec_build built
  rw [← text]
  exact ⟨⟨query, t, built, gte, timeBound_format_of_exec_build built⟩, by decide +kernel,
    by decide +kernel, by decide +kernel, by decide +kernel⟩

end QueryBuilder

end LogSearch
