import LogSearch.Proofs.Decimal.Nearest
import LogSearch.Proofs.Message.Times
import LogSearch.Proofs.Query.TimeFormat
import LogSearch.Proofs.Value.Keys

/-!
# Times that are sent as numbers

A hit may give its time as milliseconds since the start of 1970, or as the stamp of that time.  A number is
divided by a thousand and rounded twice on its way: once to the nearest number of 53 bits, and then its
fraction to microseconds.  Up to `2 ^ 33` seconds both ways both roundings together are off by less than a
microsecond, and since the result is a whole number of microseconds, and so is the exact one, it is exact.
So a hit gives the same message either way.

Main statement: `Hit.read_millis`.
-/

namespace LogSearch

open Decimal (roundHalfEven)

namespace Epoch

/-- How many milliseconds are read exactly, either way: those of `2 ^ 33` seconds. -/
def exactMillis : Nat := 8589934592000

/-- A fraction of a second is rounded to the nearest microsecond, up to what is lost by the product with a
million. -/
theorem exists_fraction {part den : Nat} (proper : part < den) :
    ∃ m e h, Binary64.ofRatio false (part * 1000000) den = .finite false m e h ∧
      |(roundHalfEven (Binary64.magnitude m e).1 (Binary64.magnitude m e).2 : ℚ) -
        part / den * 1000000| ≤ 1 / 2 + 2 ^ (-34 : Int) := by
  have pos : (0 : ℚ) < den := Nat.cast_pos.2 (by omega)
  have less : (part : ℚ) / den < 1 := (div_lt_one₀ pos).2 (Nat.cast_lt.2 proper)
  have scaled : ((part * 1000000 : Nat) : ℚ) / den = part / den * 1000000 := by
    push_cast
    exact mul_div_right_comm _ _ _
  have small : ((part * 1000000 : Nat) : ℚ) / den ≤ 2 ^ (20 : Int) := by
    rw [scaled]
    norm_num
    linarith
  obtain ⟨m, e, h, isFinite, product⟩ :=
    Binary64.exists_ofRatio false (part * 1000000) (by omega) small (by decide) (by decide)
  have rounded : |_ - ((Binary64.magnitude m e).1 : ℚ) / (Binary64.magnitude m e).2| ≤ _ :=
    Decimal.abs_roundHalfEven_sub_le _ (Binary64.twoPow_pos e).2
  rw [Binary64.ratio_magnitude] at rounded
  rw [scaled] at product
  exact ⟨m, e, h, isFinite, (abs_sub_le _ _ _).trans (add_le_add rounded product)⟩

/-- The whole seconds and the microseconds of a number of microseconds. -/
def parts (z : Int) : Int × Nat := (z.fdiv 1000000, (z.fmod 1000000).toNat)

theorem parts_sum (z : Int) : (parts z).1 * 1000000 + (parts z).2 = z := by
  have nonneg : 0 ≤ z.fmod 1000000 := Int.fmod_nonneg_of_pos z (by decide)
  change z.fdiv 1000000 * 1000000 + ((z.fmod 1000000).toNat : Int) = z
  rw [Int.toNat_of_nonneg nonneg, mul_comm]
  exact Int.mul_fdiv_add_fmod z 1000000

theorem snd_parts_lt (z : Int) : (parts z).2 < 1000000 := by
  have less : z.fmod 1000000 < 1000000 := Int.fmod_lt_of_pos z (by decide)
  have nonneg : 0 ≤ z.fmod 1000000 := Int.fmod_nonneg_of_pos z (by decide)
  change (z.fmod 1000000).toNat < 1000000
  omega

/-- A number of seconds is rounded to a number of microseconds near to it. -/
theorem exists_micros (s : Bool) (m : Nat) (e : Int) :
    ∃ total : Nat, secondsAndMicros s m e = parts (if s then -total else total) ∧
      |(total : ℚ) - m * 2 ^ e * 1000000| ≤ 1 / 2 + 2 ^ (-34 : Int) := by
  have value := Binary64.ratio_magnitude m e
  have pos : 0 < (Binary64.magnitude m e).2 := (Binary64.twoPow_pos e).2
  cases ratio : Binary64.magnitude m e with
  | mk num den =>
    rw [ratio] at value pos
    dsimp only at value pos
    obtain ⟨m', e', h, isFinite, near⟩ := exists_fraction (Nat.mod_lt num pos)
    refine ⟨num / den * 1000000 + roundHalfEven (Binary64.magnitude m' e').1 (Binary64.magnitude m' e').2,
      ?_, ?_⟩
    · have split : Binary64.split m e = (num / den, num % den, den) := by
        unfold Binary64.split
        rw [ratio]
      unfold secondsAndMicros
      rw [split]
      simp only [isFinite, parts, Nat.cast_add, Nat.cast_mul, Nat.cast_ofNat]
    · have whole : (num : ℚ) / den = (num / den : Nat) + (num % den : Nat) / den := by
        have denPos : (den : ℚ) ≠ 0 := Nat.cast_ne_zero.2 pos.ne'
        rw [div_eq_iff denPos, add_mul, div_mul_cancel₀ _ denPos]
        exact_mod_cast (Nat.div_add_mod' num den).symm
      rw [← value, whole, add_mul, Nat.cast_add, Nat.cast_mul, Nat.cast_ofNat, add_sub_add_left_eq_sub]
      exact near

/-- A number of seconds that is within `2 ^ -21` of a whole number of milliseconds is read as that. -/
theorem secondsAndMicros_of_near {s : Bool} {m k : Nat} {e : Int}
    (near : |(m : ℚ) * 2 ^ e - k / 1000| ≤ 2 ^ (-21 : Int)) :
    secondsAndMicros s m e = parts (1000 * if s then -(k : Int) else k) := by
  obtain ⟨total, read, off⟩ := exists_micros s m e
  -- Both roundings together are off by less than a microsecond.
  have within : |(total : ℚ) - (1000 * k : Nat)| < 1 := by
    have scaled : |(m : ℚ) * 2 ^ e * 1000000 - (1000 * k : Nat)| ≤ 2 ^ (-21 : Int) * 1000000 := by
      have product : (m : ℚ) * 2 ^ e * 1000000 - (1000 * k : Nat) =
          (m * 2 ^ e - k / 1000) * 1000000 := by
        push_cast
        ring
      rw [product, abs_mul, abs_of_pos (by norm_num : (0 : ℚ) < 1000000)]
      exact mul_le_mul_of_nonneg_right near (by norm_num)
    calc _ ≤ 1 / 2 + 2 ^ (-34 : Int) + 2 ^ (-21 : Int) * 1000000 :=
          (abs_sub_le _ _ _).trans (add_le_add off scaled)
      _ < 1 := by norm_num
  have same : total = 1000 * k := by
    have integers : |(total : Int) - (1000 * k : Nat)| < 1 := by exact_mod_cast within
    have zero := Int.abs_lt_one_iff.1 integers
    omega
  rw [read, same]
  cases s <;> simp

/-- Milliseconds of at most `2 ^ 33` seconds, either way, are a number of seconds near to them. -/
theorem exists_seconds {n : Int} (near : n.natAbs ≤ exactMillis) :
    ∃ m e h, Binary64.ofRatio (decide (n < 0)) n.natAbs 1000 = .finite (decide (n < 0)) m e h ∧
      secondsAndMicros (decide (n < 0)) m e = parts (1000 * n) := by
  have small : (n.natAbs : ℚ) / (1000 : Nat) ≤ 2 ^ (33 : Int) := by
    have cast : (n.natAbs : ℚ) ≤ exactMillis := Nat.cast_le.2 near
    rw [div_le_iff₀ (by norm_num)]
    refine cast.trans (le_of_eq ?_)
    norm_num [exactMillis]
  obtain ⟨m, e, h, isFinite, off⟩ :=
    Binary64.exists_ofRatio (decide (n < 0)) n.natAbs (by decide) small (by decide) (by decide)
  refine ⟨m, e, h, isFinite, ?_⟩
  rw [secondsAndMicros_of_near (by exact_mod_cast off)]
  by_cases negative : n < 0
  · rw [if_pos (decide_eq_true negative)]
    congr 2
    omega
  · rw [if_neg (by simpa using negative)]
    congr 2
    omega

/-- Milliseconds of at most `2 ^ 33` seconds, either way, are read as what they are. -/
theorem exists_ofMillis {n : Int} (near : n.natAbs ≤ exactMillis) :
    ∃ u, ofMillis n = .ok u ∧ u.offset = some .utc ∧ u.instant = start + 1000 * n := by
  obtain ⟨m, e, h, isFinite, split⟩ := exists_seconds near
  have sum := parts_sum (1000 * n)
  have less := snd_parts_lt (1000 * n)
  unfold exactMillis at near
  obtain ⟨u, isTime⟩ : ∃ u, DateTime.ofInstant? (start + 1000 * n) = some u := by
    unfold DateTime.ofInstant?
    rw [dif_pos (by
      unfold start calendarEnd calendarDays microsPerDay
      omega)]
    exact ⟨_, rfl⟩
  refine ⟨u, ?_, DateTime.offset_ofInstant? isTime, DateTime.instant_ofInstant? isTime⟩
  have read : ofSeconds (.finite (decide (n < 0)) m e h) = .ok u := by
    unfold ofSeconds
    dsimp only
    rw [split, if_neg, if_neg, add_assoc, sum, isTime]
    · unfold clockSeconds
      simp
      omega
    · unfold secondLimit
      simp
      omega
  unfold ofMillis
  rw [isFinite]
  exact read

end Epoch

namespace DateTime

variable {t : DateTime}

/-- A wall clock that shows a day of a year from some year on shows that year or a later one. -/
theorem le_year {year : Nat} (late : daysBeforeYear year * microsPerDay ≤ t.wall) :
    year ≤ t.date.year := by
  have day : daysBeforeYear year ≤ t.wall / microsPerDay :=
    (Nat.le_div_iff_mul_le (by decide)).2 late
  have before := Date.lt_daysBeforeYear_yearOf (t.wall / microsPerDay)
  by_contra! early
  have within : daysBeforeYear (Date.yearOf (t.wall / microsPerDay) + 1) ≤ daysBeforeYear year :=
    daysBeforeYear_le (Nat.succ_pos _) early
  omega

/-- A whole number of milliseconds is not cut. -/
theorem cut_eq_self (whole : t.wall % 1000 = 0) : t.cut = t := by
  unfold cut
  simp only [whole, Nat.sub_zero]

end DateTime

namespace Hit

variable {h : Hit} {source : Entries} {n : Int}

/-- Milliseconds give a hit a time that is theirs, and that its stamp gives too. -/
theorem exists_messageTime (h : Hit) (near : n.natAbs ≤ Epoch.exactMillis) :
    ∃ u : DateTime, u.offset = some .utc ∧ u.instant = Epoch.start + 1000 * n ∧
      1000 ≤ u.date.year ∧ h.messageTime (.int n) = .ok u ∧
      h.messageTime (.str (Stamp.write u)) = .ok u := by
  obtain ⟨u, read, utc, instant⟩ := Epoch.exists_ofMillis near
  have wall := DateTime.instant_of_utc utc
  have start : Epoch.start = 62135596800000000 := by decide
  unfold Epoch.exactMillis at near
  have late : 1000 ≤ u.date.year := by
    refine DateTime.le_year ?_
    have days : daysBeforeYear 1000 * microsPerDay = 31525372800000000 := by decide
    omega
  have given : h.givenTime (.int n) = .ok u := by
    simp only [givenTime, read]
    rfl
  have written := h.messageTime_write late utc
  rw [DateTime.cut_eq_self (by omega)] at written
  exact ⟨u, utc, instant, late, messageTime_of_given given (DateTime.toUtc?_of_utc utc), written⟩

/-- A hit whose time is a number of milliseconds of at most `2 ^ 33` seconds, either way, has the time in
UTC that is that many milliseconds after the start of 1970, exactly.  The stamp of that time has
milliseconds and four digits for the year, and put in the place of the number it makes the same of the
hit. -/
theorem read_millis {h : Hit} {source : Entries} {n : Int} (near : n.natAbs ≤ Epoch.exactMillis)
    (isMap : h.source = .map source) (sent : Entries.get? source timeField = some (.int n)) :
    ∃ start u : DateTime,
      DateTime.ofFields? ⟨1970, 1, 1⟩ ⟨0, 0, 0, 0⟩ (some .utc) = some start ∧
      u.offset = some .utc ∧ u.instant = start.instant + 1000 * n ∧
      Text.HasShape Char.isAlpha "yyyy-MM-dd HH:mm:ss.SSS".toList (Stamp.write u).toList ∧
      h.read = (h.withTime source (.str (Stamp.write u))).read ∧
      ∀ id index highlights, nonempty? h.id = some id → nonempty? h.index = some index →
        h.readHighlights = .ok highlights →
        ∃ m, h.read = .ok m ∧ Entries.get? m.fields timeField = some (.time u) := by
  obtain ⟨u, utc, instant, late, byNumber, byText⟩ := h.exists_messageTime near
  have same : h = h.withTime source (.int n) := by
    unfold withTime
    rw [Entries.put_eq_self_iff.2 sent, ← isMap]
  refine ⟨⟨Epoch.start, some .utc, by decide⟩, u, by decide +kernel, utc, ?_,
    (Stamp.hasShape_format_iff u).1.2 late, ?_, ?_⟩
  · rw [instant]
    rfl
  · have read : (h.withTime source (.int n)).read = (h.withTime source (.str (Stamp.write u))).read :=
      read_withTime_congr (byNumber.trans byText.symm)
    rwa [← same] at read
  · intro id index highlights hid hindex written
    have read : (h.withTime source (.int n)).read = _ := read_withTime hid hindex
    rw [← same, byNumber, written] at read
    exact ⟨_, read, Entries.get?_put_self⟩

/-- A millisecond after the earliest of these times. -/
theorem read_millis_early :
    let h : Hit := ⟨.str "a", .str "g", .map [(.str "timestamp", .int (-8589934591999))], .null⟩
    Int.natAbs (-8589934591999) ≤ Epoch.exactMillis ∧
    h.read = (h.withTime [] (.str "1697-10-17 11:03:28.001")).read ∧
    ∃ m u, h.read = .ok m ∧ Entries.get? m.fields timeField = some (.time u) ∧
      u.iso = "1697-10-17T11:03:28.001000+00:00" := by
  intro h
  have near : Int.natAbs (-8589934591999) ≤ Epoch.exactMillis := by decide
  have sent : Entries.get? [(.str "timestamp", .int (-8589934591999))] timeField =
      some (.int (-8589934591999)) := rfl
  obtain ⟨start, u, isStart, utc, instant, -, same, read⟩ := read_millis near (rfl : h.source = _) sent
  obtain ⟨m, isMessage, time⟩ := read "a" "g" [] rfl rfl rfl
  have isDay : DateTime.ofFields? ⟨1970, 1, 1⟩ ⟨0, 0, 0, 0⟩ (some .utc) =
      some ⟨Epoch.start, some .utc, by decide⟩ := by decide +kernel
  obtain rfl := Option.some.inj (isStart.symm.trans isDay)
  obtain rfl : u = ⟨53545662208001000, some .utc, by decide⟩ := by
    have exact : (⟨Epoch.start, some .utc, by decide⟩ : DateTime).instant + 1000 * (-8589934591999) =
        (53545662208001000 : Nat) := by decide
    rw [DateTime.instant_of_utc utc, exact] at instant
    obtain ⟨wall, offset, inside⟩ := u
    obtain rfl : offset = some .utc := utc
    obtain rfl : wall = 53545662208001000 := Int.ofNat.inj instant
    rfl
  have text : Stamp.write ⟨53545662208001000, some .utc, by decide⟩ = "1697-10-17 11:03:28.001" := by
    decide +kernel
  rw [text] at same
  exact ⟨near, same, m, _, isMessage, time, by decide +kernel⟩

end Hit

end LogSearch
