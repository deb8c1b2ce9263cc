import LogSearch.Proofs.Text.Digit
import LogSearch.Proofs.Time.Calendar
import LogSearch.Text.Blank
import LogSearch.Time.Iso

/-!
# Written times are read

The text of a time is a date, a separator, a time of day and an offset that may be missing, and each
of these is read as what it was written from.  Any character may be the separator.  Only an offset of
less than a second is lost, because the reader takes it for that of UTC.

Main statement: `Iso.read_isoChars`.
-/

namespace LogSearch

open LogSearch.Text (padded)

/-- An offset that the reader tells from that of UTC, or that of UTC itself. -/
def Offset.IsLegible (o : Offset) : Prop := o.micros = 0 ∨ microsPerSecond ≤ o.micros.natAbs

/-- An offset of whole seconds is legible. -/
theorem Offset.isLegible_of_whole {o : Offset} (h : o.micros % microsPerSecond = 0) :
    o.IsLegible := by
  unfold IsLegible
  unfold microsPerSecond at h ⊢
  omega

namespace DateTime

/-- The text of a date. -/
def dateText (d : Date) : List Char :=
  padded 4 d.year ++ '-' :: (padded 2 d.month ++ '-' :: padded 2 d.day)

/-- The text of a time of day. -/
def clockText (c : Clock) : List Char :=
  padded 2 c.hour ++ ':' :: (padded 2 c.minute ++ ':' :: secondText c.second c.micro)

/-- The text of an offset that may be missing. -/
def zoneText (offset : Option Offset) : List Char := (offset.map offsetText).getD []

theorem isoChars_eq (separator : Char) (t : DateTime) :
    t.isoChars separator =
      dateText t.date ++ separator :: (clockText t.clock ++ zoneText t.offset) := by
  simp [isoChars, dateText, clockText, zoneText]

/-- The text of an offset: hours and minutes, or a whole time of day. -/
theorem offsetText_eq (o : Offset) :
    let clock := Clock.ofMicros o.micros.natAbs
    offsetText o = (if o.micros < 0 then '-' else '+') ::
      if clock.second = 0 ∧ clock.micro = 0 then
        padded 2 clock.hour ++ ':' :: padded 2 clock.minute
      else clockText clock := by
  intro clock
  unfold offsetText clockText
  by_cases even : clock.second = 0 ∧ clock.micro = 0
  · simp [even, clock]
  · have written : ¬(decide (clock.second = 0) && decide (clock.micro = 0)) = true := by
      simpa using even
    rw [if_neg even]
    dsimp only
    rw [if_neg written]
    simp [clock]

/-- A time of day is written in eight characters, and in fifteen with a fraction. -/
theorem length_clockText {c : Clock} (h : c.isValid = true) :
    (clockText c).length = if c.micro = 0 then 8 else 15 := by
  obtain ⟨hour, minute, second, micro⟩ := Clock.fields_lt h
  have two : 0 < 2 := by decide
  have six : 0 < 6 := by decide
  unfold clockText secondText
  simp only [List.length_append, List.length_cons, Text.length_padded two hour,
    Text.length_padded two minute, Text.length_padded two second]
  split
  · rfl
  · rw [List.length_cons, Text.length_padded six micro]

end DateTime

namespace Iso

theorem digits_map_digitChar {ds : List Nat} (h : ∀ d ∈ ds, d < 10) (rest : List Char) :
    digits ds.length (ds.map Text.digitChar ++ rest) = some (ds, rest) := by
  induction ds with
  | nil => rfl
  | cons d ds ih =>
    rw [List.length_cons, List.map_cons, List.cons_append, digits,
      Text.asciiDigit?_digitChar (h d List.mem_cons_self)]
    dsimp only
    rw [ih fun e he => h e (List.mem_cons_of_mem d he)]
    rfl

/-- A padded number is read as itself. -/
theorem number_padded {count n : Nat} (pos : 0 < count) (h : n < Nat.pow 10 count)
    (rest : List Char) : number count (padded count n ++ rest) = some (n, rest) := by
  obtain ⟨ds, shown, length, small, value⟩ := Text.exists_digits_padded pos h
  unfold number
  rw [shown, ← length, digits_map_digitChar small, ← value]
  rfl

/-- A number of two digits is read as itself. -/
theorem number_two {n : Nat} (h : n < Nat.pow 10 2) (rest : List Char) :
    number 2 (padded 2 n ++ rest) = some (n, rest) :=
  number_padded (by decide) h rest

section Clock

variable {n : Nat} (h : n < Nat.pow 10 2) (count left : Nat) (rest : List Char)

include h

/-- The last number of a time of day. -/
theorem clockNumbers_last (colons : Option Bool) (short : left ≤ 3) :
    clockNumbers (count + 1) colons (padded 2 n ++ rest) left =
      some ([n], .ended (front rest == '\x00')) := by
  rw [clockNumbers, number_two h]
  simp [short]

/-- A number of a time of day with a colon behind it. -/
theorem clockNumbers_colon {colons : Option Bool} (marked : colons.getD true = true)
    (long : 3 < left) :
    clockNumbers (count + 1) colons (padded 2 n ++ ':' :: rest) left =
      (clockNumbers count (some true) rest (left - 3)).map fun (ns, tail) => (n :: ns, tail) := by
  rw [clockNumbers, number_two h]
  simp only [Option.bind_eq_bind, Option.bind_some, front, List.headD_cons, beq_self_eq_true, marked,
    Nat.not_le.2 long, if_false, Bool.and_self, if_true, List.tail_cons]
  cases clockNumbers count (some true) rest (left - 3) <;> rfl

/-- A number of a time of day with a fraction behind it. -/
theorem clockNumbers_point (long : 3 < left) :
    clockNumbers (count + 1) (some true) (padded 2 n ++ '.' :: rest) left =
      some ([n], .fraction rest (left - 3)) := by
  rw [clockNumbers, number_two h]
  simp [front, Nat.not_le.2 long]

end Clock

/-- Hours and minutes are read. -/
theorem clockText_minutes {hour minute : Nat} (hh : hour < Nat.pow 10 2)
    (hm : minute < Nat.pow 10 2) (rest : List Char) :
    clockText (padded 2 hour ++ ':' :: (padded 2 minute ++ rest)) 5 =
      some (⟨hour, minute, 0, 0⟩, front rest == '\x00') := by
  unfold clockText
  rw [clockNumbers_colon hh 2 5 _ rfl (by decide), clockNumbers_last hm 1 2 _ _ (by decide)]
  rfl

/-- A time of day is read, up to whatever follows it that is no digit. -/
theorem clockText_text {c : Clock} (valid : c.isValid = true) {rest : List Char}
    (stop : Text.isAsciiDigit (front rest) = false) :
    clockText (DateTime.clockText c ++ rest) (DateTime.clockText c).length =
      some (c, front rest == '\x00') := by
  obtain ⟨hour, minute, second, micro⟩ := Clock.fields_lt valid
  rw [DateTime.length_clockText valid]
  unfold clockText DateTime.clockText DateTime.secondText
  simp only [List.append_assoc, List.cons_append]
  by_cases whole : c.micro = 0
  · rw [if_pos whole, if_pos whole, clockNumbers_colon hour 2 8 _ rfl (by decide),
      clockNumbers_colon minute 1 5 _ rfl (by decide), List.nil_append,
      clockNumbers_last second 0 2 _ _ (by decide)]
    obtain ⟨_, _, _, _⟩ := c
    simp only at whole
    subst whole
    rfl
  · have after : rest.dropWhile Text.isAsciiDigit = rest := by
      cases rest with
      | nil => rfl
      | cons d rest => exact List.dropWhile_cons_of_neg (Bool.eq_false_iff.1 stop)
    rw [if_neg whole, if_neg whole, clockNumbers_colon hour 2 15 _ rfl (by decide),
      clockNumbers_colon minute 1 12 _ rfl (by decide), List.cons_append,
      clockNumbers_point second 0 9 _ (by decide)]
    simp only [Option.map_some, Option.bind_eq_bind, Option.bind_some]
    unfold fraction
    simp only [show min (9 - 3) 6 = 6 from rfl, number_padded (by decide : 0 < 6) micro,
      Option.bind_eq_bind, Option.bind_some, after]
    simp

/-- A character of a written time: a digit, or one of the marks between numbers. -/
def IsWritten (marks : List Char) (c : Char) : Prop := Text.isAsciiDigit c = true ∨ c ∈ marks

theorem IsWritten.mono {marks more : List Char} {c : Char} (h : IsWritten marks c)
    (subset : marks ⊆ more) : IsWritten more c :=
  h.imp_right fun mark => subset mark

theorem isWritten_padded {width n : Nat} (pos : 0 < width) (h : n < Nat.pow 10 width)
    (marks : List Char) : ∀ c ∈ padded width n, IsWritten marks c :=
  fun _ member => .inl (Text.isAsciiDigit_of_mem_padded pos h member)

theorem isWritten_dateText {d : Date} (valid : d.isValid = true) :
    ∀ c ∈ DateTime.dateText d, IsWritten ['-'] c := by
  obtain ⟨year, month, day⟩ := Date.fields_lt valid
  have hy := isWritten_padded (by decide) year ['-']
  have hm := isWritten_padded (by decide) month ['-']
  have hd := isWritten_padded (by decide) day ['-']
  intro c member
  simp only [DateTime.dateText, List.mem_append, List.mem_cons] at member
  rcases member with h | rfl | h | rfl | h
  · exact hy c h
  · exact .inr List.mem_cons_self
  · exact hm c h
  · exact .inr List.mem_cons_self
  · exact hd c h

theorem isWritten_clockText {c : Clock} (valid : c.isValid = true) :
    ∀ x ∈ DateTime.clockText c, IsWritten [':', '.'] x := by
  obtain ⟨hour, minute, second, micro⟩ := Clock.fields_lt valid
  have hh := isWritten_padded (by decide) hour [':', '.']
  have hm := isWritten_padded (by decide) minute [':', '.']
  have hs := isWritten_padded (by decide) second [':', '.']
  have hf := isWritten_padded (by decide) micro [':', '.']
  have colon : IsWritten [':', '.'] ':' := .inr (by decide)
  have point : IsWritten [':', '.'] '.' := .inr (by decide)
  intro x member
  simp only [DateTime.clockText, DateTime.secondText, List.mem_append, List.mem_cons] at member
  rcases member with h | rfl | h | rfl | h | h
  · exact hh x h
  · exact colon
  · exact hm x h
  · exact colon
  · exact hs x h
  · split at h
    · cases h
    · rcases List.mem_cons.1 h with rfl | h
      · exact point
      · exact hf x h

theorem isZoneMark_of_isWritten {c : Char} (h : IsWritten [':', '.'] c) : isZoneMark c = false := by
  cases mark : isZoneMark c with
  | false => rfl
  | true =>
    simp only [isZoneMark, Bool.or_eq_true, beq_iff_eq] at mark
    rcases mark with (rfl | rfl) | rfl <;> exact absurd h (by unfold IsWritten; decide)

/-- Behind its sign, the text of an offset is that of a time of day. -/
theorem exists_offsetText (o : Offset) : ∃ text,
    DateTime.offsetText o = (if o.micros < 0 then '-' else '+') :: text ∧
      clockText text text.length = some (Clock.ofMicros o.micros.natAbs, true) := by
  have valid := Clock.ofMicros_isValid o.within_day
  have shown := DateTime.offsetText_eq o
  dsimp only at shown
  generalize Clock.ofMicros o.micros.natAbs = clock at valid shown
  obtain ⟨hour, minute, -, -⟩ := Clock.fields_lt valid
  refine ⟨_, shown, ?_⟩
  split
  · rename_i even
    have length : (padded 2 clock.hour ++ ':' :: padded 2 clock.minute).length = 5 := by
      simp [Text.length_padded (by decide : 0 < 2) hour, Text.length_padded (by decide : 0 < 2) minute]
    have read := clockText_minutes hour minute []
    rw [List.append_nil] at read
    obtain ⟨_, _, _, _⟩ := clock
    obtain ⟨rfl, rfl⟩ := even
    rw [length, read]
    rfl
  · have read := clockText_text valid (show Text.isAsciiDigit (front []) = false from rfl)
    rw [List.append_nil] at read
    exact read

theorem wholeSeconds_ofMicros (n : Nat) : wholeSeconds (Clock.ofMicros n) = n / 1000000 := by
  simp only [wholeSeconds, Clock.ofMicros]
  omega

theorem takeWhile_clockText {c : Clock} (valid : c.isValid = true) (rest : List Char) :
    (DateTime.clockText c ++ rest).takeWhile (!isZoneMark ·) =
      DateTime.clockText c ++ rest.takeWhile (!isZoneMark ·) := by
  refine List.takeWhile_append_of_pos ?_
  intro x member
  rw [isZoneMark_of_isWritten (isWritten_clockText valid x member)]
  rfl

/-- A time of day is read together with an offset behind it. -/
theorem timeText_signed {c : Clock} (valid : c.isValid = true) {sign : Char}
    (isSign : sign = '+' ∨ sign = '-') {text : List Char} {zone : Clock}
    (read : clockText text text.length = some (zone, true)) :
    timeText (DateTime.clockText c ++ sign :: text) =
      let micros : Int := if wholeSeconds zone = 0 then 0 else zone.micros
      some (c, some (if sign == '-' then -micros else micros)) := by
  have marked : isZoneMark sign = true := by rcases isSign with rfl | rfl <;> rfl
  have stop : Text.isAsciiDigit (front (sign :: text)) = false := by
    rcases isSign with rfl | rfl <;> rfl
  have day := clockText_text valid stop
  unfold timeText
  simp only [takeWhile_clockText valid, List.takeWhile_cons, marked, Bool.not_true,
    Bool.false_eq_true, if_false, List.append_nil, day, Option.bind_eq_bind, Option.bind_some,
    List.drop_left]
  rcases isSign with rfl | rfl <;> simp [read]

/-- A time of day is read together with the offset that may stand behind it. -/
theorem timeText_text {c : Clock} (valid : c.isValid = true) {offset : Option Offset}
    (legible : ∀ o ∈ offset, o.IsLegible) :
    timeText (DateTime.clockText c ++ DateTime.zoneText offset) =
      some (c, offset.map Offset.micros) := by
  cases offset with
  | none =>
    have day := clockText_text valid (show Text.isAsciiDigit (front []) = false from rfl)
    have whole := takeWhile_clockText valid []
    simp only [List.append_nil, List.takeWhile_nil] at day whole
    unfold timeText
    simp [DateTime.zoneText, whole, day, front]
  | some o =>
    obtain ⟨text, shown, zone⟩ := exists_offsetText o
    have isSign : (if o.micros < 0 then '-' else '+') = '+' ∨
        (if o.micros < 0 then '-' else '+') = '-' := by
      split <;> simp
    change timeText (DateTime.clockText c ++ DateTime.offsetText o) = _
    rw [shown, timeText_signed valid isSign zone, wholeSeconds_ofMicros, Clock.micros_ofMicros]
    have known := legible o rfl
    unfold Offset.IsLegible microsPerSecond at known
    have size : (if o.micros.natAbs / 1000000 = 0 then (0 : Int) else o.micros.natAbs) =
        o.micros.natAbs := by
      split <;> omega
    simp only [size, Option.map_some, Option.some.injEq, Prod.mk.injEq, true_and]
    by_cases west : o.micros < 0
    · simp only [if_pos west, beq_self_eq_true, if_true]
      omega
    · simp only [if_neg west, show ('+' == '-') = false from rfl, Bool.false_eq_true, if_false]
      omega

theorem places_of_ascii {cs : List Char} (h : ∀ c ∈ cs, c.utf8Size = 1) : places cs = cs := by
  induction cs with
  | nil => rfl
  | cons c cs ih =>
    have rest := ih fun d hd => h d (List.mem_cons_of_mem c hd)
    unfold places at rest ⊢
    rw [List.flatMap_cons, h c List.mem_cons_self, rest]
    rfl

theorem utf8Size_of_isWritten {marks : List Char} (small : ∀ m ∈ marks, m.utf8Size = 1) {c : Char}
    (h : IsWritten marks c) : c.utf8Size = 1 := by
  rcases h with digit | mark
  · simp only [Text.isAsciiDigit, Bool.and_eq_true, decide_eq_true_eq] at digit
    rw [Char.utf8Size_eq_one_iff, UInt32.le_iff_toNat_le]
    exact Nat.le_trans digit.2 (by decide)
  · exact small c mark

/-- Digits and marks of one octet stand in one place each. -/
theorem places_of_isWritten {marks cs : List Char} (small : ∀ m ∈ marks, m.utf8Size = 1)
    (h : ∀ c ∈ cs, IsWritten marks c) : places cs = cs :=
  places_of_ascii fun c member => utf8Size_of_isWritten small (h c member)

theorem places_append (cs ds : List Char) : places (cs ++ ds) = places cs ++ places ds :=
  List.flatMap_append

theorem front_places (c : Char) (cs : List Char) : front (places (c :: cs)) = c := rfl

/-- The places of a character are passed over together. -/
theorem drop_places (c : Char) (cs : List Char) :
    (places (c :: cs)).drop c.utf8Size = places cs := by
  have width : (c :: List.replicate (c.utf8Size - 1) '\ufffd').length = c.utf8Size := by
    have pos := c.utf8Size_pos
    rw [List.length_cons, List.length_replicate]
    omega
  unfold places
  rw [List.flatMap_cons]
  exact List.drop_left' width

theorem isWritten_zoneText (offset : Option Offset) :
    ∀ c ∈ DateTime.zoneText offset, IsWritten ['+', '-', ':', '.'] c := by
  intro c member
  cases offset with
  | none => cases member
  | some o =>
    have valid := Clock.ofMicros_isValid o.within_day
    obtain ⟨hour, minute, -, -⟩ := Clock.fields_lt valid
    change c ∈ DateTime.offsetText o at member
    rw [DateTime.offsetText_eq] at member
    rcases List.mem_cons.1 member with rfl | member
    · refine .inr ?_
      split <;> decide
    · split at member
      · simp only [List.mem_append, List.mem_cons] at member
        rcases member with h | rfl | h
        · exact isWritten_padded (by decide) hour _ c h
        · exact .inr (by decide)
        · exact isWritten_padded (by decide) minute _ c h
      · rcases isWritten_clockText valid c member with digit | mark
        · exact .inl digit
        · exact .inr (List.mem_cons_of_mem _ (List.mem_cons_of_mem _ mark))

/-- The marks between the numbers of a written time. -/
def isoMarks : List Char := ['+', '-', ':', '.', 'T']

variable (separator : Char) (t : DateTime)

/-- The text of a time consists of digits, marks and the separator. -/
theorem isWritten_isoChars : ∀ c ∈ t.isoChars separator, IsWritten (separator :: isoMarks) c := by
  have more {marks : List Char} {c : Char} (h : IsWritten marks c) (subset : marks ⊆ isoMarks) :
      IsWritten (separator :: isoMarks) c :=
    h.mono fun _ mark => List.mem_cons_of_mem separator (subset mark)
  intro c member
  rw [DateTime.isoChars_eq] at member
  simp only [List.mem_append, List.mem_cons] at member
  rcases member with date | rfl | clock | zone
  · exact more (isWritten_dateText t.isValid_date c date) (by decide)
  · exact .inr List.mem_cons_self
  · exact more (isWritten_clockText t.isValid_clock c clock) (by decide)
  · exact more (isWritten_zoneText t.offset c zone) (by decide)

/-- The text of a time has no blanks when the separator is none. -/
theorem isBlank_of_mem_isoChars {separator : Char} (visible : Text.isBlank separator = false) :
    ∀ c ∈ t.isoChars separator, Text.isBlank c = false := by
  have marks : ∀ m ∈ separator :: isoMarks, Text.isBlank m = false := by
    simp [isoMarks, Text.isBlank, Text.isSpace, ← visible]
  intro c member
  rcases isWritten_isoChars separator t c member with digit | mark
  · exact Text.isBlank_of_isAsciiDigit digit
  · exact marks c mark

/-- The text of a time does not name UTC by its letter. -/
theorem letter_notMem_isoChars {separator : Char} (other : separator ≠ 'Z') :
    'Z' ∉ t.isoChars separator := by
  intro member
  rcases isWritten_isoChars separator t 'Z' member with digit | mark
  · revert digit
    decide
  · rcases List.mem_cons.1 mark with same | mark
    · exact other same.symm
    · revert mark
      decide

/-- Behind the date stand the places of the separator, and then the time of day and the offset. -/
theorem places_isoChars : places (t.isoChars separator) =
    DateTime.dateText t.date ++
      places (separator :: (DateTime.clockText t.clock ++ DateTime.zoneText t.offset)) := by
  have hyphen : ∀ m ∈ ['-'], m.utf8Size = 1 := by simp [Char.utf8Size]
  rw [DateTime.isoChars_eq, places_append,
    places_of_isWritten hyphen (isWritten_dateText t.isValid_date)]

theorem places_clock_zone : places (DateTime.clockText t.clock ++ DateTime.zoneText t.offset) =
    DateTime.clockText t.clock ++ DateTime.zoneText t.offset := by
  have marks : ∀ m ∈ isoMarks, m.utf8Size = 1 := by simp [isoMarks, Char.utf8Size]
  refine places_of_isWritten marks fun c member => ?_
  rcases List.mem_append.1 member with clock | zone
  · exact (isWritten_clockText t.isValid_clock c clock).mono (by decide)
  · exact (isWritten_zoneText t.offset c zone).mono (by decide)

theorem digitChar_ne_week {d : Nat} (h : d < 10) : Text.digitChar d ≠ 'W' := by
  decide +revert

/-- A calendar date takes ten places. -/
theorem separatorPlace_text {d : Date} (valid : d.isValid = true) (rest : List Char) :
    separatorPlace (DateTime.dateText d ++ rest) = 10 ∧
      (DateTime.dateText d ++ rest).drop 10 = rest := by
  obtain ⟨year, month, day⟩ := Date.fields_lt valid
  obtain ⟨ys, showY, lengthY, -, -⟩ := Text.exists_digits_padded (by decide) year
  obtain ⟨ms, showM, lengthM, smallM, -⟩ := Text.exists_digits_padded (by decide) month
  obtain ⟨ds, showD, lengthD, -, -⟩ := Text.exists_digits_padded (by decide) day
  match ys, ms, ds, lengthY, lengthM, lengthD with
  | [y₁, y₂, y₃, y₄], [m₁, m₂], [d₁, d₂], _, _, _ =>
    have notWeek := digitChar_ne_week (smallM m₁ (by simp))
    unfold DateTime.dateText
    rw [showY, showM, showD]
    simp [separatorPlace, placeAt, front, notWeek]

/-- A calendar date is read. -/
theorem writtenDate_text {d : Date} (valid : d.isValid = true) (rest : List Char) :
    writtenDate (DateTime.dateText d ++ rest) 10 = some (.calendar d) := by
  obtain ⟨year, month, day⟩ := Date.fields_lt valid
  have notWeek (later tail : List Char) : padded 2 d.month ++ later ≠ 'W' :: tail := by
    obtain ⟨ms, shown, length, small, -⟩ := Text.exists_digits_padded (by decide) month
    match ms, length with
    | [m₁, m₂], _ =>
      rw [shown]
      intro same
      exact digitChar_ne_week (small m₁ (by simp)) (List.cons.inj same).1
  unfold writtenDate DateTime.dateText
  simp only [List.append_assoc, List.cons_append, number_padded (by decide : 0 < 4) year,
    Option.bind_eq_bind, Option.bind_some, front, List.headD_cons, beq_self_eq_true, if_true,
    List.tail_cons]
  split
  · rename_i later same
    exact absurd same (notWeek _ _)
  · simp [number_two month, number_two day, hyphen]

/-- The parts of a written time, whatever separates its date and its time of day. -/
theorem parts_isoChars {t : DateTime} (legible : ∀ o ∈ t.offset, o.IsLegible) :
    parts (places (t.isoChars separator)) =
      some (t.date, t.clock, t.offset.map Offset.micros) := by
  have valid := t.isValid_date
  rw [places_isoChars]
  generalize same : DateTime.clockText t.clock ++ DateTime.zoneText t.offset = behind
  obtain ⟨place, rest⟩ := separatorPlace_text valid (places (separator :: behind))
  have long : ¬(DateTime.dateText t.date ++ places (separator :: behind)).length ≤ 10 := by
    have length := congrArg List.length rest
    have some : (places (separator :: behind)).length =
        ((places (separator :: behind)).tail).length + 1 := rfl
    rw [List.length_drop] at length
    omega
  unfold parts
  simp only [place, writtenDate_text valid, WrittenDate.resolve, Option.bind_eq_bind,
    Option.bind_some, long, if_false, rest]
  rw [front_places, drop_places, ← same, places_clock_zone, timeText_text t.isValid_clock legible]
  rfl

theorem first?_eq_none {d : Date} {c : Clock} (hd : d.isValid = true) (hc : c.isValid = true) :
    FieldError.first? d c = none := by
  simp only [Date.isValid, Clock.isValid, Bool.and_eq_true, decide_eq_true_eq] at hd hc
  unfold FieldError.first?
  grind

/-- A time whose offset is legible is read as it was written, with any character between its date and
its time of day. -/
theorem read_isoChars {t : DateTime} (legible : ∀ o ∈ t.offset, o.IsLegible) :
    read (String.ofList (t.isoChars separator)) = .ok t := by
  have found : parts (places (String.ofList (t.isoChars separator)).toList) =
      some (t.date, t.clock, t.offset.map Offset.micros) := by
    rw [String.toList_ofList, parts_isoChars separator legible]
  have fits := first?_eq_none t.isValid_date t.isValid_clock
  have made := t.ofFields?_fields
  unfold read
  rw [found]
  cases zone : t.offset with
  | none =>
    rw [zone] at made
    simp [bind, Except.bind, fits, made]
  | some o =>
    have offset : offset? o.micros = .ok o := by
      unfold offset?
      rw [dif_pos o.within_day]
    rw [zone] at made
    simp [bind, Except.bind, Except.map, offset, fits, made]

end Iso

end LogSearch
