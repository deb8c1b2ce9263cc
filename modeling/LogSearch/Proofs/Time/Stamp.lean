import LogSearch.Time.Stamp
import Mathlib.Data.List.Forall2
import Mathlib.Data.List.TakeWhile

/-!
# What a stamp looks like

Each part of a stamp is read from the front of what the part before leaves.  So a stamp is a date, then
blanks, then a time of day, and each field of these is written in one of its ways.  A text without
blanks is no stamp.

Main statements: `isStamp_of_read?` and `read?_of_no_blank`.
-/

namespace LogSearch.Stamp

/-- Characters that write a field in one of some ways. -/
def Writes (forms : Forms) (cs : List Char) : Prop :=
  ∃ form ∈ forms, List.Forall₂ (fun cls c => (cls c).isSome = true) form cs

/-- A year, a month and a day, with hyphens between them. -/
def IsDate (cs : List Char) : Prop :=
  ∃ y m d, cs = y ++ '-' :: (m ++ '-' :: d) ∧ Writes year y ∧ Writes month m ∧ Writes day d

/-- Nothing, or a point and up to six digits. -/
def IsFraction (cs : List Char) : Prop :=
  cs = [] ∨ ∃ ds, cs = '.' :: ds ∧ ds ≠ [] ∧ ds.length ≤ 6 ∧ ∀ c ∈ ds, Text.isAsciiDigit c = true

/-- An hour, a minute and a second, with colons between them, and a fraction. -/
def IsClock (cs : List Char) : Prop :=
  ∃ h m s f, cs = h ++ ':' :: (m ++ ':' :: (s ++ f)) ∧ Writes hour h ∧ Writes minute m ∧
    Writes second s ∧ IsFraction f

/-- One or more blanks. -/
def IsGap (cs : List Char) : Prop := cs ≠ [] ∧ ∀ c ∈ cs, Text.isBlank c = true

/-- A date, blanks and a time of day. -/
def IsStamp (cs : List Char) : Prop :=
  ∃ date gap clock, cs = date ++ (gap ++ clock) ∧ IsDate date ∧ IsGap gap ∧ IsClock clock

variable {forms : Forms} {cs rest : List Char} {n : Nat}

theorem exists_of_readForm {form : List (Char → Option Nat)} {ds : List Nat}
    (h : readForm form cs = some (ds, rest)) :
    ∃ front, cs = front ++ rest ∧ List.Forall₂ (fun cls c => (cls c).isSome = true) form front := by
  induction form generalizing cs ds with
  | nil =>
    obtain ⟨-, rfl⟩ := Prod.mk.inj (Option.some.inj h)
    exact ⟨[], rfl, .nil⟩
  | cons cls form ih =>
    cases cs with
    | nil => cases h
    | cons c cs =>
      rw [readForm] at h
      cases digit : cls c with
      | none =>
        rw [digit] at h
        cases h
      | some d =>
        rw [digit] at h
        obtain ⟨⟨ds', rest'⟩, later, same⟩ := Option.map_eq_some_iff.1 h
        obtain ⟨-, rfl⟩ := Prod.mk.inj same
        obtain ⟨front, rfl, written⟩ := ih later
        exact ⟨c :: front, rfl, .cons (by simp [digit]) written⟩

/-- A field stands at the front, and what has to follow it behind. -/
theorem exists_of_readField {α : Type} {follows : List Char → Option α} {after : α}
    (h : readField forms cs follows = some (n, after)) :
    ∃ front rest, cs = front ++ rest ∧ Writes forms front ∧ follows rest = some after := by
  obtain ⟨form, known, found⟩ := List.exists_of_findSome?_eq_some h
  simp only [Option.bind_eq_bind, Option.bind_eq_some_iff] at found
  obtain ⟨⟨ds, rest⟩, read, after', followed, same⟩ := found
  obtain ⟨-, rfl⟩ := Prod.mk.inj (Option.some.inj same)
  obtain ⟨front, rfl, written⟩ := exists_of_readForm read
  exact ⟨front, rest, rfl, ⟨form, known, written⟩, followed⟩

theorem eq_cons_of_mark {c : Char} (h : mark c cs = some rest) : cs = c :: rest := by
  cases cs with
  | nil => cases h
  | cons d cs =>
    rw [mark] at h
    split at h
    · rename_i same
      rw [same, Option.some.inj h]
    · cases h

/-- A field with a mark behind it. -/
theorem exists_of_readField_mark {c : Char} (h : readField forms cs (mark c) = some (n, rest)) :
    ∃ front, cs = front ++ c :: rest ∧ Writes forms front := by
  obtain ⟨front, behind, rfl, written, marked⟩ := exists_of_readField h
  obtain rfl := eq_cons_of_mark marked
  exact ⟨front, rfl, written⟩

theorem exists_of_blanks (h : blanks cs = some rest) : ∃ gap, cs = gap ++ rest ∧ IsGap gap := by
  cases cs with
  | nil => cases h
  | cons c cs =>
    rw [blanks] at h
    split at h
    · rename_i blank
      obtain rfl := Option.some.inj h
      refine ⟨c :: cs.takeWhile Text.isBlank, ?_, List.cons_ne_nil _ _, ?_⟩
      · rw [List.cons_append, List.takeWhile_append_dropWhile]
      · exact List.forall_mem_cons.2 ⟨blank, fun _ member => List.mem_takeWhile_imp member⟩
    · cases h

theorem exists_of_fraction (h : fraction cs = some (n, rest)) :
    ∃ ds, cs = ds ++ rest ∧ ds ≠ [] ∧ ds.length ≤ 6 ∧ ∀ c ∈ ds, Text.isAsciiDigit c = true := by
  unfold fraction at h
  dsimp only at h
  split at h
  · cases h
  · rename_i some
    obtain ⟨-, rfl⟩ := Prod.mk.inj (Option.some.inj h)
    have front : (cs.take 6).takeWhile Text.isAsciiDigit <+: cs :=
      (List.takeWhile_prefix _).trans (List.take_prefix 6 cs)
    refine ⟨(cs.take 6).takeWhile Text.isAsciiDigit, ?_, ?_, ?_, ?_⟩
    · exact (List.prefix_iff_eq_append.1 front).symm
    · simpa using some
    · exact Nat.le_trans (List.takeWhile_prefix _).length_le (List.length_take_le 6 cs)
    · exact fun _ member => List.mem_takeWhile_imp member

section Fields

variable {r₁ r₂ r₃ r₄ r₅ : List Char} {n₁ n₂ n₃ n₄ n₅ n₆ : Nat}

/-- Behind the fields of a date stand blanks. -/
theorem exists_date (years : readField year cs (mark '-') = some (n₁, r₁))
    (months : readField month r₁ (mark '-') = some (n₂, r₂))
    (days : readField day r₂ blanks = some (n₃, r₃)) :
    ∃ date gap, cs = date ++ (gap ++ r₃) ∧ IsDate date ∧ IsGap gap := by
  obtain ⟨y, rfl, isYear⟩ := exists_of_readField_mark years
  obtain ⟨m, rfl, isMonth⟩ := exists_of_readField_mark months
  obtain ⟨d, _, rfl, isDay, atGap⟩ := exists_of_readField days
  obtain ⟨gap, rfl, isGap⟩ := exists_of_blanks atGap
  exact ⟨y ++ '-' :: (m ++ '-' :: d), gap, by simp, ⟨y, m, d, rfl, isYear, isMonth, isDay⟩, isGap⟩

/-- Behind the fields of a time of day stands a fraction. -/
theorem exists_clock {follows : List Char → Option (List Char)}
    (hours : readField hour r₃ (mark ':') = some (n₄, r₄))
    (minutes : readField minute r₄ (mark ':') = some (n₅, r₅))
    (seconds : readField second r₅ follows = some (n₆, rest))
    (ends : ∀ behind, follows behind = some rest → IsFraction behind) : IsClock r₃ := by
  obtain ⟨h, rfl, isHour⟩ := exists_of_readField_mark hours
  obtain ⟨m, rfl, isMinute⟩ := exists_of_readField_mark minutes
  obtain ⟨s, behind, rfl, isSecond, atFraction⟩ := exists_of_readField seconds
  exact ⟨h, m, s, behind, rfl, isHour, isMinute, isSecond, ends behind atFraction⟩

end Fields

theorem isStamp_of_readWith {fractional : Bool} {t : DateTime}
    (h : readWith fractional cs = some t) : IsStamp cs := by
  have nothing {left : List Char} {o : Option DateTime}
      (made : (if left.isEmpty then o else none) = some t) : left = [] := by
    split at made
    · exact List.isEmpty_iff.1 ‹_›
    · cases made
  unfold readWith at h
  cases fractional with
  | false =>
    simp only [Bool.false_eq_true, if_false, Option.bind_eq_bind, Option.bind_some,
      Option.bind_eq_some_iff] at h
    obtain ⟨⟨_, _⟩, years, ⟨_, _⟩, months, ⟨_, clock⟩, days, ⟨_, _⟩, hours, ⟨_, _⟩, minutes,
      ⟨_, left⟩, seconds, made⟩ := h
    obtain ⟨date, gap, text, isDate, isGap⟩ := exists_date years months days
    refine ⟨date, gap, clock, text, isDate, isGap, exists_clock hours minutes seconds ?_⟩
    intro behind same
    obtain rfl := Option.some.inj same
    exact .inl (nothing made)
  | true =>
    simp only [if_true, Option.bind_eq_bind, Option.bind_eq_some_iff] at h
    obtain ⟨⟨_, _⟩, years, ⟨_, _⟩, months, ⟨_, clock⟩, days, ⟨_, _⟩, hours, ⟨_, _⟩, minutes,
      ⟨_, _⟩, seconds, ⟨_, left⟩, micros, made⟩ := h
    obtain ⟨date, gap, text, isDate, isGap⟩ := exists_date years months days
    refine ⟨date, gap, clock, text, isDate, isGap, exists_clock hours minutes seconds ?_⟩
    intro behind marked
    obtain rfl := eq_cons_of_mark marked
    obtain ⟨ds, rfl, some, short, digits⟩ := exists_of_fraction micros
    have empty : left = [] := nothing made
    rw [empty, List.append_nil]
    exact .inr ⟨ds, rfl, some, short, digits⟩

/-- What is read as a stamp is written as one. -/
theorem isStamp_of_read? {s : String} {t : DateTime} (h : read? s = some t) : IsStamp s.toList := by
  rcases Option.or_eq_some_iff.1 h with fractional | ⟨-, plain⟩
  · exact isStamp_of_readWith fractional
  · exact isStamp_of_readWith plain

/-- A text without blanks is no stamp. -/
theorem read?_of_no_blank {s : String} (h : ∀ c ∈ s.toList, Text.isBlank c = false) :
    read? s = none := by
  cases found : read? s with
  | none => rfl
  | some t =>
    obtain ⟨date, gap, clock, text, -, ⟨some, blank⟩, -⟩ := isStamp_of_read? found
    obtain ⟨c, member⟩ := List.exists_mem_of_ne_nil gap some
    have visible := h c (by rw [text]; simp [member])
    rw [blank c member] at visible
    cases visible

end LogSearch.Stamp
