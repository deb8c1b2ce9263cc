import LogSearch.Proofs.Time.Written
import Mathlib.Data.List.TakeWhile

/-!
# Numerals that are read as times

A text of digits alone is read as a time, field after field, when it has enough of them.  The ninth digit
stands for the separator, so that it counts for nothing.

Main statement: `toOption_read_numeral`.
-/

namespace LogSearch.Iso

/-- The number that is written at some places of a text of digits. -/
def numberAt (cs : List Char) (start count : Nat) : Nat :=
  Text.ofDigits (((cs.drop start).take count).map fun c => c.toNat - 48)

variable {cs : List Char} {count : Nat} (all : ∀ c ∈ cs, Text.isAsciiDigit c = true)

theorem numberAt_drop (cs : List Char) (skip start count : Nat) :
    numberAt (cs.drop skip) start count = numberAt cs (skip + start) count := by
  rw [numberAt, numberAt, List.drop_drop]

theorem numberAt_of_length_le {start : Nat} (h : cs.length ≤ start) (count : Nat) :
    numberAt cs start count = 0 := by
  simp [numberAt, List.drop_eq_nil_of_le h, Text.ofDigits]

theorem digits_of_short (short : cs.length < count) : digits count cs = none := by
  induction count generalizing cs with
  | zero => simp at short
  | succ count ih =>
    cases cs with
    | nil => rfl
    | cons c cs =>
      have shorter : cs.length < count := by simpa using short
      rw [digits, ih shorter]
      cases Text.asciiDigit? c <;> rfl

include all

theorem digits_of_all (enough : count ≤ cs.length) :
    digits count cs = some ((cs.take count).map fun c => c.toNat - 48, cs.drop count) := by
  induction count generalizing cs with
  | zero => rfl
  | succ count ih =>
    cases cs with
    | nil => simp at enough
    | cons c cs =>
      obtain ⟨digit, others⟩ := List.forall_mem_cons.1 all
      have value : Text.asciiDigit? c = some (c.toNat - 48) := if_pos digit
      rw [digits, value, ih others (by simpa using enough)]
      rfl

/-- A number is read of digits when there are enough. -/
theorem number_of_all : number count cs =
    if count ≤ cs.length then some (numberAt cs 0 count, cs.drop count) else none := by
  unfold number numberAt
  by_cases enough : count ≤ cs.length
  · rw [if_pos enough, digits_of_all all enough]
    rfl
  · rw [if_neg enough, digits_of_short (Nat.not_le.1 enough)]
    rfl

theorem isAsciiDigit_front {skip : Nat} (h : skip < cs.length) :
    Text.isAsciiDigit (front (cs.drop skip)) = true := by
  rw [List.drop_eq_getElem_cons h]
  exact all _ (List.getElem_mem h)

/-- A character that is no digit does not stand where digits are left. -/
theorem front_ne {skip : Nat} (h : skip < cs.length) {c : Char} (other : Text.isAsciiDigit c = false) :
    front (cs.drop skip) ≠ c := by
  intro same
  have digit := isAsciiDigit_front all h
  rw [same, other] at digit
  cases digit

theorem all_drop (skip : Nat) : ∀ c ∈ cs.drop skip, Text.isAsciiDigit c = true :=
  fun c member => all c (List.mem_of_mem_drop member)

/-- The numbers of two digits that a text of digits starts with. -/
def pairs (cs : List Char) (count : Nat) : List Nat :=
  (List.range count).map fun i => numberAt cs (2 * i) 2

omit all in
theorem pairs_succ (cs : List Char) (count : Nat) :
    pairs cs (count + 1) = numberAt cs 0 2 :: pairs (cs.drop 2) count := by
  simp [pairs, List.range_succ_eq_map, numberAt_drop, Nat.mul_add, Nat.add_comm, Function.comp_def]

/-- The last number of a time of day, of which nothing may be left. -/
theorem clockNumbers_of_short (enough : 2 ≤ cs.length) (short : cs.length ≤ 3)
    (colons : Option Bool) :
    clockNumbers (count + 1) colons cs cs.length =
      some (pairs cs (cs.length / 2), .ended (cs.length % 2 == 0)) := by
  have one : cs.length / 2 = 1 := by omega
  have clean : (front (cs.drop 2) == '\x00') = (cs.length % 2 == 0) := by
    by_cases two : cs.length = 2
    · rw [List.drop_eq_nil_of_le (Nat.le_of_eq two), two]
      rfl
    · have other : front (cs.drop 2) ≠ '\x00' := front_ne all (by omega) (by decide)
      rw [beq_eq_false_iff_ne.2 other, beq_eq_false_iff_ne.2 (by omega : cs.length % 2 ≠ 0)]
  rw [clockNumbers, number_of_all all, if_pos enough]
  simp [short, clean, one, pairs]

/-- A number of a time of day with more digits behind it. -/
theorem clockNumbers_of_long (long : 4 ≤ cs.length) {colons : Option Bool}
    (unmarked : colons.getD false = false) :
    clockNumbers (count + 1) colons cs cs.length =
      (clockNumbers count (some false) (cs.drop 2) (cs.drop 2).length).map fun (ns, tail) =>
        (numberAt cs 0 2 :: ns, tail) := by
  have no (c : Char) (other : Text.isAsciiDigit c = false) : (front (cs.drop 2) == c) = false :=
    beq_eq_false_iff_ne.2 (front_ne all (by omega) other)
  have none : colons.getD (front (cs.drop 2) == ':') = false := by
    rw [no ':' (by decide)]
    exact unmarked
  rw [clockNumbers, number_of_all all, if_pos (by omega : 2 ≤ cs.length)]
  simp only [Option.bind_eq_bind, Option.bind_some, none, no '.' (by decide), no ',' (by decide),
    if_neg (by omega : ¬cs.length ≤ 3), Bool.false_and, Bool.or_self, Bool.false_eq_true, if_false,
    List.length_drop]
  cases clockNumbers count (some false) (cs.drop 2) (cs.length - 2) <;> rfl

/-- Digits are cut into numbers of two.  When more are left than so many numbers take, they stand for a
fraction. -/
theorem clockNumbers_of_all (enough : 2 ≤ cs.length) {colons : Option Bool}
    (unmarked : colons.getD false = false) :
    clockNumbers (count + 1) colons cs cs.length =
      if cs.length ≤ 2 * count + 3 then
        some (pairs cs (cs.length / 2), .ended (cs.length % 2 == 0))
      else
        some (pairs cs (count + 1),
          .fraction (cs.drop (2 * count + 2)) (cs.drop (2 * count + 2)).length) := by
  induction count generalizing cs colons with
  | zero =>
    by_cases short : cs.length ≤ 3
    · rw [if_pos short]
      exact clockNumbers_of_short all enough short colons
    · rw [clockNumbers_of_long all (by omega) unmarked, if_neg short, pairs_succ]
      rfl
  | succ count ih =>
    by_cases short : cs.length ≤ 3
    · rw [if_pos (by omega)]
      exact clockNumbers_of_short all enough short colons
    · have length : (cs.drop 2).length = cs.length - 2 := List.length_drop
      have half : cs.length / 2 = (cs.length - 2) / 2 + 1 := by omega
      have even : (cs.length - 2) % 2 = cs.length % 2 := by omega
      rw [clockNumbers_of_long all (by omega) unmarked, ih (all_drop all 2) (by omega) rfl]
      by_cases more : cs.length ≤ 2 * (count + 1) + 3
      · rw [if_pos (by omega), if_pos more, length, even, half, pairs_succ cs]
        rfl
      · rw [if_neg (by omega), if_neg more, List.drop_drop, pairs_succ cs,
          show 2 + (2 * count + 2) = 2 * (count + 1) + 2 by omega]
        rfl

/-- Digits that stand for a fraction; no more than six of them count. -/
theorem fraction_of_all : fraction cs cs.length =
    some (numberAt cs 0 6 * Nat.pow 10 (6 - cs.length), true) := by
  have nothing (skip : Nat) : (cs.drop skip).dropWhile Text.isAsciiDigit = [] :=
    List.dropWhile_eq_nil_iff.2 (all_drop all skip)
  have front : cs.take (min cs.length 6) = cs.take 6 := by
    rw [List.take_eq_take_iff]
    omega
  have value : numberAt cs 0 (min cs.length 6) = numberAt cs 0 6 := by
    rw [numberAt, numberAt, List.drop_zero, front]
  have power : 6 - min cs.length 6 = 6 - cs.length := by omega
  unfold fraction
  dsimp only
  rw [number_of_all all, if_pos (Nat.min_le_left _ _)]
  simp [nothing, value, power, Iso.front]

/-- Whether so many digits are a time of day: hours, minutes and seconds of two digits, of which the
later ones may be missing, and a fraction of two digits or more. -/
def isClockLength (n : Nat) : Bool := n = 2 || n = 4 || n = 6 || 8 ≤ n

/-- Digits are a time of day when their number is that of one. -/
theorem timeText_of_all : timeText cs =
    if isClockLength cs.length then
      some (⟨numberAt cs 0 2, numberAt cs 2 2, numberAt cs 4 2,
        numberAt cs 6 6 * Nat.pow 10 (6 - (cs.length - 6))⟩, none)
    else none := by
  have whole : cs.takeWhile (!isZoneMark ·) = cs := by
    rw [List.takeWhile_eq_self_iff]
    intro c member
    rw [isZoneMark_of_isWritten (.inl (all c member))]
    rfl
  have read : timeText cs =
      (clockText cs cs.length).bind fun found => if found.2 then some (found.1, none) else none := by
    unfold timeText
    simp only [whole, List.drop_length]
    rfl
  have zero {start : Nat} (h : cs.length ≤ start) (count : Nat) := numberAt_of_length_le h count
  rw [read]
  unfold clockText
  by_cases enough : 2 ≤ cs.length
  · rw [clockNumbers_of_all all enough rfl]
    by_cases short : cs.length ≤ 7
    · rw [if_pos short]
      by_cases even : cs.length % 2 = 0
      · obtain two | four | six : cs.length = 2 ∨ cs.length = 4 ∨ cs.length = 6 := by omega
        · simp [two, isClockLength, pairs, zero]
        · simp [four, isClockLength, pairs, List.range_succ, zero]
        · simp [six, isClockLength, pairs, List.range_succ, zero]
      · have no : isClockLength cs.length = false := by simp [isClockLength]; omega
        simp [even, no]
    · have yes : isClockLength cs.length = true := by simp [isClockLength]; omega
      have fraction := fraction_of_all (all_drop all 6)
      rw [numberAt_drop, List.length_drop] at fraction
      rw [if_neg short, yes]
      simp [fraction, pairs, List.range_succ]
  · have no : isClockLength cs.length = false := by simp [isClockLength]; omega
    rw [clockNumbers, number_of_all all, if_neg enough, no]
    rfl

theorem utf8Size_of_all : ∀ c ∈ cs, c.utf8Size = 1 :=
  fun c member => utf8Size_of_isWritten (List.forall_mem_nil _) (.inl (all c member))

/-- The parts of more than eight digits: eight of a date, one that is passed over, and those of a time of
day. -/
theorem parts_of_all (long : 8 < cs.length) :
    parts (places cs) = (timeText (cs.drop 9)).map fun (clock, zone) =>
      (⟨numberAt cs 0 4, numberAt cs 4 2, numberAt cs 6 2⟩, clock, zone) := by
  rw [places_of_ascii (utf8Size_of_all all)]
  have noHyphen : front (cs.drop 4) ≠ '-' := front_ne all (by omega) (by decide)
  have noWeek : front (cs.drop 4) ≠ 'W' := front_ne all (by omega) (by decide)
  have place : separatorPlace cs = 8 := by
    unfold separatorPlace placeAt
    rw [if_neg (by omega), if_neg noHyphen, if_neg noWeek]
  have written : writtenDate cs 8 =
      some (.calendar ⟨numberAt cs 0 4, numberAt cs 4 2, numberAt cs 6 2⟩) := by
    have month : number 2 (cs.drop 4) = some (numberAt cs 4 2, cs.drop 6) := by
      rw [number_of_all (all_drop all 4), List.length_drop, if_pos (by omega), numberAt_drop,
        List.drop_drop]
    have day : number 2 (cs.drop 6) = some (numberAt cs 6 2, cs.drop 8) := by
      rw [number_of_all (all_drop all 6), List.length_drop, if_pos (by omega), numberAt_drop,
        List.drop_drop]
    unfold writtenDate
    rw [number_of_all all, if_pos (by omega)]
    simp only [Option.bind_eq_bind, Option.bind_some, beq_eq_false_iff_ne.2 noHyphen,
      Bool.false_eq_true, if_false]
    split
    · rename_i week
      exact absurd (congrArg front week) noWeek
    · simp [month, day, hyphen]
  have size : (front (cs.drop 8)).utf8Size = 1 := by
    rw [List.drop_eq_getElem_cons long]
    exact utf8Size_of_all all _ (List.getElem_mem long)
  unfold parts
  simp only [place, written, WrittenDate.resolve, Option.bind_eq_bind, Option.bind_some,
    if_neg (Nat.not_le.2 long), size, List.drop_drop]
  cases timeText (cs.drop 9) <;> rfl

omit all

/-- A text whose parts have no offset is read when they are a date and a time of day. -/
theorem toOption_read_of_parts {s : String} {d : Date} {c : Clock}
    (h : parts (places s.toList) = some (d, c, none)) :
    (read s).toOption = DateTime.ofFields? d c none := by
  unfold read
  rw [h]
  cases error : FieldError.first? d c with
  | none =>
    simp only [bind, Except.bind, error]
    cases DateTime.ofFields? d c none <;> rfl
  | some e =>
    have invalid : ¬(d.isValid && c.isValid) = true := by
      intro valid
      obtain ⟨hd, hc⟩ := Bool.and_eq_true_iff.1 valid
      rw [first?_eq_none hd hc] at error
      cases error
    simp only [bind, Except.bind, error]
    rw [DateTime.ofFields?, if_neg invalid]
    rfl

theorem toOption_read_of_malformed {s : String} (h : parts (places s.toList) = none) :
    (read s).toOption = none := by
  unfold read
  rw [h]
  rfl

/-- What more than eight digits are read as: a date of eight, one digit that counts for nothing, and a time
of day when those behind it are as many as one has. -/
def numeralTime? (cs : List Char) : Option DateTime :=
  if isClockLength (cs.length - 9) then
    DateTime.ofFields? ⟨numberAt cs 0 4, numberAt cs 4 2, numberAt cs 6 2⟩
      ⟨numberAt cs 9 2, numberAt cs 11 2, numberAt cs 13 2,
        numberAt cs 15 6 * Nat.pow 10 (6 - (cs.length - 15))⟩ none
  else none

theorem offset_numeralTime? {t : DateTime} (h : numeralTime? cs = some t) : t.offset = none := by
  unfold numeralTime? at h
  split at h
  · exact DateTime.offset_ofFields? h
  · cases h

/-- A text of more than eight digits is read field after field. -/
theorem toOption_read_numeral {s : String} (all : ∀ c ∈ s.toList, Text.isAsciiDigit c = true)
    (long : 8 < s.toList.length) : (read s).toOption = numeralTime? s.toList := by
  have found := parts_of_all all long
  rw [timeText_of_all (all_drop all 9), List.length_drop] at found
  simp only [numberAt_drop] at found
  unfold numeralTime?
  by_cases clock : isClockLength (s.toList.length - 9) = true
  · rw [if_pos clock] at found ⊢
    rw [toOption_read_of_parts found, Nat.sub_sub]
  · rw [if_neg clock] at found ⊢
    exact toOption_read_of_malformed found

end LogSearch.Iso
