import LogSearch.Proofs.Text.Digit
import LogSearch.Proofs.Time.Calendar
import LogSearch.Time.Stamp
import Mathlib.Data.List.TakeWhile

/-!
# Stamps of queries are read as the time cut to milliseconds

Each number of a stamp is written in as many digits as its field has at most.  A field may be written
in several ways, and the first of them that reads those digits reads the number: `Spells` says so, and a
field that is followed by what has to follow it is read then.  The fraction is written in six digits, of
which three are cut off.

The year is written without zeros in front, and so a stamp is read from the year 1000 on.

Main statement: `Stamp.read?_write`.
-/

namespace LogSearch

open LogSearch.Text (padded decimal digitChar ofDigits)

/-- A time without the microseconds that are no whole millisecond. -/
def DateTime.cut (t : DateTime) : DateTime where
  wall := t.wall - t.wall % 1000
  offset := t.offset
  in_calendar := Nat.lt_of_le_of_lt (Nat.sub_le _ _) t.in_calendar

/-- A time as the wall clock shows it, without its offset. -/
def DateTime.naive (t : DateTime) : DateTime := { t with offset := none }

namespace DateTime

theorem date_cut (t : DateTime) : t.cut.date = t.date := by
  have day : (t.wall - t.wall % 1000) / microsPerDay = t.wall / microsPerDay := by
    unfold microsPerDay
    omega
  simp [date, cut, day]

theorem clock_cut (t : DateTime) :
    t.cut.clock = { t.clock with micro := t.clock.micro / 1000 * 1000 } := by
  simp only [clock, cut, Clock.ofMicros, microsPerDay, Clock.mk.injEq]
  omega

/-- In UTC the wall clock shows the instant. -/
theorem instant_of_utc {t : DateTime} (utc : t.offset = some .utc) : t.instant = t.wall := by
  rw [instant, offsetMicros, utc]
  exact Int.sub_zero _

/-- In UTC the instant is cut together with the wall clock. -/
theorem instant_cut {t : DateTime} (utc : t.offset = some .utc) :
    t.cut.instant = t.instant - t.instant % 1000 := by
  simp only [instant, offsetMicros, cut, utc, Offset.utc]
  omega

/-- What the wall clock shows is the time in UTC when it is read there. -/
theorem toUtc?_naive {t : DateTime} (utc : t.offset = some .utc) : t.naive.toUtc? = some t := by
  have same : t.naive.instant = t.instant := by
    simp [naive, instant, offsetMicros, utc, Offset.utc]
  have kept := toUtc?_of_utc utc
  unfold toUtc? at kept ⊢
  rw [same]
  exact kept

end DateTime

namespace Stamp

section Fields

variable {forms : Forms} {cs rest : List Char} {n : Nat}

/-- What stands behind the characters that a form reads is left. -/
theorem readForm_append {form : List (Char → Option Nat)} (short : form.length ≤ cs.length)
    (rest : List Char) :
    readForm form (cs ++ rest) = (readForm form cs).map fun (ds, left) => (ds, left ++ rest) := by
  induction form generalizing cs with
  | nil => rfl
  | cons cls form ih =>
    cases cs with
    | nil => simp at short
    | cons c cs =>
      have shorter : form.length ≤ cs.length := by simpa using short
      cases read : cls c with
      | none => simp [readForm, read]
      | some d => simp [readForm, read, ih shorter, Function.comp_def]

/-- The first form that reads the characters reads all of them, as the number. -/
def Spells (forms : Forms) (cs : List Char) (n : Nat) : Prop :=
  (∀ form ∈ forms, form.length ≤ cs.length) ∧
    (forms.findSome? (readForm · cs)).map (fun (ds, left) => (ofDigits ds, left)) = some (n, [])

instance (forms : Forms) (cs : List Char) (n : Nat) : Decidable (Spells forms cs n) :=
  inferInstanceAs (Decidable (_ ∧ _))

/-- A field is read up to what has to follow it. -/
theorem readField_of_spells {α : Type} {follows : List Char → Option α} {after : α}
    (spelled : Spells forms cs n) (next : follows rest = some after) :
    readField forms (cs ++ rest) follows = some (n, after) := by
  obtain ⟨short, first⟩ := spelled
  unfold readField
  induction forms with
  | nil => simp at first
  | cons form forms ih =>
    obtain ⟨shortForm, shortForms⟩ := List.forall_mem_cons.1 short
    rw [List.findSome?_cons] at first ⊢
    cases read : readForm form cs with
    | none =>
      rw [read] at first
      have later := ih shortForms first
      simpa [readForm_append shortForm, read] using later
    | some found =>
      obtain ⟨ds, left⟩ := found
      rw [read] at first
      simp only [Option.map_some, Option.some.injEq, Prod.mk.injEq] at first
      obtain ⟨value, rfl⟩ := first
      simp [readForm_append shortForm, read, next, value]

/-- A field is read up to the mark behind it. -/
theorem readField_marked (spelled : Spells forms cs n) (c : Char) (rest : List Char) :
    readField forms (cs ++ c :: rest) (mark c) = some (n, rest) :=
  readField_of_spells spelled (if_pos rfl)

theorem spells_year (h : n < Nat.pow 10 4) : Spells year (padded 4 n) n := by
  obtain ⟨ds, shown, length, small, value⟩ := Text.exists_digits_padded (by decide) h
  match ds, length with
  | [a, b, c, d], _ =>
    have ha := Text.digitValue?_digitChar (small a (by simp))
    have hb := Text.digitValue?_digitChar (small b (by simp))
    have hc := Text.digitValue?_digitChar (small c (by simp))
    have hd := Text.digitValue?_digitChar (small d (by simp))
    simp [Spells, year, shown, readForm, anyDigit, ha, hb, hc, hd, value]

theorem spells_month {d : Date} (h : d.isValid = true) : Spells month (padded 2 d.month) d.month := by
  have all : ∀ n < 13, 1 ≤ n → Spells month (padded 2 n) n := by decide +kernel
  simp only [Date.isValid, Bool.and_eq_true, decide_eq_true_eq] at h
  exact all d.month (by omega) (by omega)

theorem spells_day {d : Date} (h : d.isValid = true) : Spells day (padded 2 d.day) d.day := by
  have all : ∀ n < 32, 1 ≤ n → Spells day (padded 2 n) n := by decide +kernel
  have days := Date.daysInMonth_le d.year d.month
  simp only [Date.isValid, Bool.and_eq_true, decide_eq_true_eq] at h
  exact all d.day (by omega) (by omega)

theorem spells_hour (h : n < 24) : Spells hour (padded 2 n) n := by
  have all : ∀ n < 24, Spells hour (padded 2 n) n := by decide +kernel
  exact all n h

theorem spells_minute (h : n < 60) : Spells minute (padded 2 n) n := by
  have all : ∀ n < 60, Spells minute (padded 2 n) n := by decide +kernel
  exact all n h

theorem spells_second (h : n < 60) : Spells second (padded 2 n) n := by
  have all : ∀ n < 60, Spells second (padded 2 n) n := by decide +kernel
  exact all n h

end Fields

/-- A fraction of up to six digits is read as microseconds. -/
theorem fraction_padded {width n : Nat} (pos : 0 < width) (short : width ≤ 6)
    (h : n < Nat.pow 10 width) :
    fraction (padded width n) = some (n * Nat.pow 10 (6 - width), []) := by
  obtain ⟨ds, shown, length, small, value⟩ := Text.exists_digits_padded pos h
  have digits : (padded width n).takeWhile Text.isAsciiDigit = padded width n :=
    List.takeWhile_eq_self_iff.2 fun c member => Text.isAsciiDigit_of_mem_padded pos h member
  have size : (padded width n).length = width := Text.length_padded pos h
  have number : ofDigits ((padded width n).map fun c => c.toNat - 48) = n := by
    have back : (ds.map digitChar).map (fun c => c.toNat - 48) = ds := by
      rw [List.map_map]
      exact (List.map_congr_left fun d hd => Text.toNat_digitChar (small d hd)).trans (List.map_id ds)
    rw [shown, back, value]
  have some : (padded width n).isEmpty = false := by
    cases chars : padded width n with
    | nil => rw [chars] at size; simp at size; omega
    | cons c cs => rfl
  unfold fraction
  rw [List.take_of_length_le (by omega), digits]
  simp [some, number, size]

/-- The text of a stamp: the fraction has three digits. -/
theorem milliChars_eq (t : DateTime) :
    milliChars t = decimal t.date.year ++ '-' :: (padded 2 t.date.month ++ '-' ::
      (padded 2 t.date.day ++ ' ' :: (padded 2 t.clock.hour ++ ':' :: (padded 2 t.clock.minute ++
        ':' :: (padded 2 t.clock.second ++ '.' :: padded 3 (t.clock.micro / 1000)))))) := by
  obtain ⟨tail, length, shown⟩ := Text.exists_padded_cut (by decide : 0 < 3) 3 t.clock.micro
  have split : microChars t = (decimal t.date.year ++ '-' :: (padded 2 t.date.month ++ '-' ::
      (padded 2 t.date.day ++ ' ' :: (padded 2 t.clock.hour ++ ':' :: (padded 2 t.clock.minute ++
        ':' :: (padded 2 t.clock.second ++ '.' :: padded 3 (t.clock.micro / 1000)))))) ) ++ tail := by
    simp [microChars, shown]
  change (microChars t).take ((microChars t).length - 3) = _
  rw [split, List.length_append, length, Nat.add_sub_cancel]
  exact List.take_left

/-- The text of a stamp from the year 1000 on has four digits for the year. -/
theorem milliChars_of_year {t : DateTime} (late : 1000 ≤ t.date.year) :
    milliChars t = padded 4 t.date.year ++ '-' :: (padded 2 t.date.month ++ '-' ::
      (padded 2 t.date.day ++ ' ' :: (padded 2 t.clock.hour ++ ':' :: (padded 2 t.clock.minute ++
        ':' :: (padded 2 t.clock.second ++ '.' :: padded 3 (t.clock.micro / 1000)))))) := by
  have year : padded 4 t.date.year = decimal t.date.year := Text.padded_of_le late
  rw [milliChars_eq, year]

/-- A padded number does not start with a blank. -/
theorem dropWhile_isBlank_padded {width n : Nat} (pos : 0 < width) (h : n < Nat.pow 10 width)
    (rest : List Char) :
    (padded width n ++ rest).dropWhile Text.isBlank = padded width n ++ rest := by
  obtain ⟨ds, shown, length, small, -⟩ := Text.exists_digits_padded pos h
  rw [shown]
  cases ds with
  | nil => simp at length; omega
  | cons d ds => simp [Text.isBlank_digitChar (small d List.mem_cons_self)]

/-- From the year 1000 on, the stamp of a time in a query is read as the time cut to milliseconds. -/
theorem read?_write {t : DateTime} (late : 1000 ≤ t.date.year) :
    read? (write t) = some t.cut.naive := by
  have date := t.isValid_date
  have clock := t.isValid_clock
  obtain ⟨year, -, -⟩ := Date.fields_lt date
  obtain ⟨hours, -, -, -⟩ := Clock.fields_lt clock
  have made := t.cut.naive.ofFields?_fields
  rw [show t.cut.naive.date = t.date from t.date_cut,
    show t.cut.naive.clock = { t.clock with micro := t.clock.micro / 1000 * 1000 } from t.clock_cut]
    at made
  simp only [Clock.isValid, Bool.and_eq_true, decide_eq_true_eq] at clock
  obtain ⟨⟨⟨hour, minute⟩, second⟩, micro⟩ := clock
  have millis : t.clock.micro / 1000 < Nat.pow 10 3 := by
    change _ < 1000
    omega
  have read : readWith true (milliChars t) = some t.cut.naive := by
    have atTime (rest : List Char) : blanks (' ' :: (padded 2 t.clock.hour ++ rest)) =
        some (padded 2 t.clock.hour ++ rest) := by
      simp [blanks, Text.isBlank, Text.isSpace, dropWhile_isBlank_padded (by decide) hours]
    rw [milliChars_of_year late, readWith]
    simp only [readField_marked (spells_year year), readField_marked (spells_month date),
      readField_of_spells (spells_day date) (atTime _), readField_marked (spells_hour hour),
      readField_marked (spells_minute minute), if_true, readField_marked (spells_second second),
      fraction_padded (by decide) (by decide) millis, Option.bind_eq_bind, Option.bind_some,
      List.isEmpty_nil]
    exact made
  unfold read? write
  rw [String.toList_ofList, read]
  rfl

end Stamp

end LogSearch
