import LogSearch.Proofs.Text.Shape
import LogSearch.Proofs.Time.Iso

/-!
# What a written time looks like

The date of a written time is a calendar date or a week date, with hyphens or without, and it stands in
just the places before the separator.  Of the separator nothing is asked: whatever character stands
behind the date is passed over, and the time of day is read from what stands behind that.

Main statement: `isTime_of_read`.
-/

namespace LogSearch.Iso

/-- The shapes of calendar dates and week dates.  A small letter is a place for a digit. -/
def dateShapes : List String :=
  ["yyyy-mm-dd", "yyyymmdd", "yyyy-Www", "yyyy-Www-d", "yyyyWww", "yyyyWwwd"]

/-- A calendar date or a week date. -/
def IsDate (cs : List Char) : Prop :=
  ∃ shape ∈ dateShapes, Text.HasShape Char.isLower shape.toList cs

/-- A time of day with or without an offset. -/
def IsTimeOfDay (cs : List Char) : Prop := (timeText (places cs)).isSome = true

/-- A date alone, or a date, some character and a time of day. -/
def IsTime (cs : List Char) : Prop :=
  ∃ date behind, cs = date ++ behind ∧ IsDate date ∧
    (behind = [] ∨ ∃ separator time, behind = separator :: time ∧ IsTimeOfDay time)

/-- As many digits. -/
def AreDigits (count : Nat) (cs : List Char) : Prop :=
  cs.length = count ∧ ∀ c ∈ cs, Text.isAsciiDigit c = true

variable {ps cs rest : List Char} {count : Nat}

theorem isAsciiDigit_of_asciiDigit? {c : Char} {d : Nat} (h : Text.asciiDigit? c = some d) :
    Text.isAsciiDigit c = true := by
  unfold Text.asciiDigit? at h
  split at h
  · assumption
  · cases h

theorem exists_of_digits {ds : List Nat} (h : digits count cs = some (ds, rest)) :
    ∃ front, cs = front ++ rest ∧ AreDigits count front := by
  induction count generalizing cs ds with
  | zero =>
    obtain ⟨-, rfl⟩ := Prod.mk.inj (Option.some.inj h)
    exact ⟨[], rfl, rfl, by simp⟩
  | succ count ih =>
    cases cs with
    | nil => cases h
    | cons c cs =>
      rw [digits] at h
      cases digit : Text.asciiDigit? c with
      | none =>
        rw [digit] at h
        cases h
      | some d =>
        rw [digit] at h
        obtain ⟨⟨ds', rest'⟩, later, same⟩ := Option.map_eq_some_iff.1 h
        obtain ⟨-, rfl⟩ := Prod.mk.inj same
        obtain ⟨front, rfl, length, all⟩ := ih later
        exact ⟨c :: front, rfl, by rw [List.length_cons, length],
          List.forall_mem_cons.2 ⟨isAsciiDigit_of_asciiDigit? digit, all⟩⟩

/-- A number stands at the front, in as many digits as are read. -/
theorem exists_of_number {n : Nat} (h : number count cs = some (n, rest)) :
    ∃ front, cs = front ++ rest ∧ AreDigits count front := by
  obtain ⟨⟨ds, rest'⟩, read, same⟩ := Option.map_eq_some_iff.1 h
  obtain ⟨-, rfl⟩ := Prod.mk.inj same
  exact exists_of_digits read

/-- What stands between the fields of a date. -/
def between (hyphens : Bool) : List Char := if hyphens then ['-'] else []

theorem eq_of_hyphen {due : Bool} (h : hyphen due cs = some rest) : cs = between due ++ rest := by
  unfold hyphen at h
  split at h
  · exact Option.some.inj h
  · rw [Option.some.inj h]
    rfl
  · cases h

/-- The first character behind the year tells what stands between the fields. -/
theorem eq_between_append (cs : List Char) :
    cs = between (front cs == '-') ++ if front cs == '-' then cs.tail else cs := by
  cases cs with
  | nil => rfl
  | cons c cs => by_cases hyphen : c = '-' <;> simp [between, front, hyphen]

section Fields

variable (hyphens : Bool) {ys ws ms ds : List Char}

theorem hasShape_between : Text.HasShape Char.isLower (between hyphens) (between hyphens) := by
  cases hyphens
  · exact List.Forall₂.nil
  · exact .cons rfl List.Forall₂.nil

/-- Digits stand for small letters of a shape. -/
theorem AreDigits.hasShape {letter : Char} (h : AreDigits count cs) (isLower : letter.isLower = true) :
    Text.HasShape Char.isLower (List.replicate count letter) cs :=
  .of_digits isLower h.1 h.2

variable (year : AreDigits 4 ys) (week : AreDigits 2 ws) (month : AreDigits 2 ms)

include year week

theorem isDate_week : IsDate (ys ++ (between hyphens ++ 'W' :: ws)) := by
  have shape := (year.hasShape (rfl : 'y'.isLower = true)).append
    ((hasShape_between hyphens).append
      (.cons (rfl : 'W'.isLower = false) (week.hasShape (rfl : 'w'.isLower = true))))
  cases hyphens
  · exact ⟨"yyyyWww", by decide, shape⟩
  · exact ⟨"yyyy-Www", by decide, shape⟩

theorem isDate_weekDay (day : AreDigits 1 ds) :
    IsDate (ys ++ (between hyphens ++ 'W' :: (ws ++ (between hyphens ++ ds)))) := by
  have days := (hasShape_between hyphens).append (day.hasShape (rfl : 'd'.isLower = true))
  have shape := (year.hasShape (rfl : 'y'.isLower = true)).append
    ((hasShape_between hyphens).append
      (.cons (rfl : 'W'.isLower = false) ((week.hasShape (rfl : 'w'.isLower = true)).append days)))
  cases hyphens
  · exact ⟨"yyyyWwwd", by decide, shape⟩
  · exact ⟨"yyyy-Www-d", by decide, shape⟩

theorem length_week : (ys ++ (between hyphens ++ 'W' :: ws)).length = if hyphens then 8 else 7 := by
  cases hyphens <;> simp [between, year.1, week.1]

/-- The separator behind a week date stands behind the week or behind the day. -/
theorem separatorPlace_week (rest : List Char) :
    let place := separatorPlace (ys ++ (between hyphens ++ 'W' :: (ws ++ rest)))
    let length := (ys ++ (between hyphens ++ 'W' :: ws)).length
    place = length ∨ place = length + (between hyphens).length + 1 := by
  match ys, year.1, ws, week.1 with
  | [_, _, _, _], _, [_, _], _ =>
    cases hyphens <;>
      simp only [separatorPlace, placeAt, front, between, Bool.false_eq_true, if_true, if_false,
        List.cons_append, List.nil_append, List.length_cons, List.length_nil, List.drop_succ_cons,
        List.drop_zero, List.headD_cons] <;>
      grind

omit week
include month

theorem isDate_calendar (day : AreDigits 2 ds) :
    IsDate (ys ++ (between hyphens ++ (ms ++ (between hyphens ++ ds)))) := by
  have days := (hasShape_between hyphens).append (day.hasShape (rfl : 'd'.isLower = true))
  have shape := (year.hasShape (rfl : 'y'.isLower = true)).append
    ((hasShape_between hyphens).append ((month.hasShape (rfl : 'm'.isLower = true)).append days))
  cases hyphens
  · exact ⟨"yyyymmdd", by decide, shape⟩
  · exact ⟨"yyyy-mm-dd", by decide, shape⟩

/-- The separator behind a calendar date stands behind the day. -/
theorem separatorPlace_calendar (day : AreDigits 2 ds) (rest : List Char) :
    separatorPlace (ys ++ (between hyphens ++ (ms ++ (between hyphens ++ (ds ++ rest))))) =
      (ys ++ (between hyphens ++ (ms ++ (between hyphens ++ ds)))).length := by
  match ys, year.1, ms, month.1, ds, day.1, month.2 with
  | [_, _, _, _], _, [m, _], _, [_, _], _, digits =>
    have noWeek : m ≠ 'W' := by
      rintro rfl
      exact absurd (digits 'W' (by simp)) (by decide)
    have noHyphen : m ≠ '-' := by
      rintro rfl
      exact absurd (digits '-' (by simp)) (by decide)
    cases hyphens <;> simp [separatorPlace, placeAt, front, between, noWeek, noHyphen]

end Fields

/-- A date stands in just the places before the separator. -/
theorem exists_of_writtenDate {w : WrittenDate} (h : writtenDate ps (separatorPlace ps) = some w) :
    ∃ date rest, ps = date ++ rest ∧ date.length = separatorPlace ps ∧ IsDate date := by
  unfold writtenDate at h
  simp only [Option.bind_eq_bind, Option.bind_eq_some_iff] at h
  obtain ⟨⟨_, behind⟩, atYear, h⟩ := h
  obtain ⟨ys, rfl, year⟩ := exists_of_number atYear
  have same := eq_between_append behind
  dsimp only at h
  generalize (front behind == '-') = hyphens at h same
  generalize (if hyphens = true then behind.tail else behind) = fields at h same
  subst same
  split at h
  · -- A week date has a day when the separator does not stand right behind the week.
    simp only [Option.bind_eq_some_iff] at h
    obtain ⟨⟨_, rest⟩, atWeek, h⟩ := h
    obtain ⟨ws, rfl, week⟩ := exists_of_number atWeek
    have place := separatorPlace_week hyphens year week rest
    dsimp only at h place
    rw [← length_week hyphens year week] at h
    rcases place with place | place
    · refine ⟨_, rest, ?_, place.symm, isDate_week hyphens year week⟩
      simp
    · rw [if_pos (by omega)] at h
      simp only [Option.bind_eq_some_iff] at h
      obtain ⟨_, marked, ⟨_, rest⟩, atDay, -⟩ := h
      obtain rfl := eq_of_hyphen marked
      obtain ⟨ds, rfl, day⟩ := exists_of_number atDay
      refine ⟨_, rest, ?_, ?_, isDate_weekDay hyphens year week day⟩
      · simp
      · rw [place]
        simp [day.1]
        omega
  · simp only [Option.bind_eq_some_iff] at h
    obtain ⟨⟨_, _⟩, atMonth, _, marked, ⟨_, rest⟩, atDay, -⟩ := h
    obtain ⟨ms, rfl, month⟩ := exists_of_number atMonth
    obtain rfl := eq_of_hyphen marked
    obtain ⟨ds, rfl, day⟩ := exists_of_number atDay
    refine ⟨_, rest, ?_, (separatorPlace_calendar hyphens year month day rest).symm,
      isDate_calendar hyphens year month day⟩
    simp

theorem IsDate.utf8Size (h : IsDate cs) : ∀ c ∈ cs, c.utf8Size = 1 := by
  obtain ⟨shape, known, fits⟩ := h
  have ascii : ∀ shape ∈ dateShapes, shape.toList.all (·.utf8Size == 1) = true := by decide
  have marks : ∀ m ∈ shape.toList, m.utf8Size = 1 := by simpa using ascii shape known
  intro c member
  exact utf8Size_of_isWritten marks (fits.isAsciiDigit_or_mem c member)

/-- Characters of one octet at the front of the places are those of the text. -/
theorem exists_of_places {date : List Char} (ascii : ∀ c ∈ date, c.utf8Size = 1)
    (h : places cs = date ++ rest) : ∃ behind, cs = date ++ behind ∧ places behind = rest := by
  induction date generalizing cs with
  | nil => exact ⟨cs, rfl, h⟩
  | cons c date ih =>
    obtain ⟨one, others⟩ := List.forall_mem_cons.1 ascii
    cases cs with
    | nil => cases h
    | cons d cs =>
      have same : d = c := (List.cons.inj h).1
      subst same
      have later : places cs = date ++ rest := by
        rw [← drop_places d cs, h, one, List.cons_append, List.drop_succ_cons, List.drop_zero]
      obtain ⟨behind, rfl, shown⟩ := ih others later
      exact ⟨behind, rfl, shown⟩

/-- A text that has the parts of a time is written as one. -/
theorem isTime_of_parts {found : Date × Clock × Option Int} (h : parts (places cs) = some found) :
    IsTime cs := by
  unfold parts at h
  simp only [Option.bind_eq_bind, Option.bind_eq_some_iff] at h
  obtain ⟨w, written, resolved, -, h⟩ := h
  obtain ⟨date, rest, text, length, isDate⟩ := exists_of_writtenDate written
  obtain ⟨behind, rfl, shown⟩ := exists_of_places isDate.utf8Size text
  refine ⟨date, behind, rfl, isDate, ?_⟩
  cases behind with
  | nil => exact .inl rfl
  | cons separator time =>
    have long : ¬(places (date ++ separator :: time)).length ≤
        separatorPlace (places (date ++ separator :: time)) := by
      rw [← length, text, ← shown, List.length_append]
      simp [places]
    have left : (places (date ++ separator :: time)).drop
        (separatorPlace (places (date ++ separator :: time))) = places (separator :: time) := by
      rw [← length, text, ← shown, List.drop_left]
    rw [if_neg long, left, front_places, drop_places] at h
    simp only [Option.bind_eq_some_iff] at h
    obtain ⟨_, read, -⟩ := h
    exact .inr ⟨separator, time, rfl, by rw [IsTimeOfDay, read]; rfl⟩

/-- What is read as a time is written as one. -/
theorem isTime_of_read {s : String} {t : DateTime} (h : read s = .ok t) : IsTime s.toList := by
  unfold read at h
  cases found : parts (places s.toList) with
  | none =>
    rw [found] at h
    cases h
  | some found => exact isTime_of_parts ‹_›

end LogSearch.Iso
