import LogSearch.Proofs.Message.Times
import LogSearch.Proofs.Time.Milliseconds
import LogSearch.Proofs.Time.Numeral

/-!
# Texts that hits read as times

A hit reads a text as its time when it is a stamp, or when it is ISO 8601 text in which every `Z` counts
as the offset of UTC.  Of such a text the date and the time of day have their shapes, and the character
between them may be any.  So it may be a digit, and a text of digits alone is read field after field:
milliseconds since 1970 that are sent as text, which have thirteen digits, are a year, a month, a day,
a digit that is passed over, an hour and a minute where these are in their ranges.

Main statement: `Hit.read_timeText`.
-/

namespace LogSearch

namespace Hit

/-- A text with the offset of UTC in the place of every `Z`. -/
def withOffsets (cs : List Char) : List Char :=
  cs.flatMap fun c => if c = 'Z' then "+00:00".toList else [c]

variable {h : Hit} {entries : Entries} {s id index : String} {t : DateTime}

/-- What is read as the time of a message is written as one. -/
theorem isStamp_or_isTime (read : textTime? s = some t) :
    Stamp.IsStamp s.toList ∨ Iso.IsTime (withOffsets s.toList) := by
  rcases Option.or_eq_some_iff.1 read with stamp | ⟨-, iso⟩
  · exact .inl (Stamp.isStamp_of_read? stamp)
  · refine .inr ?_
    change (Iso.read (String.ofList (withOffsets s.toList))).toOption = some t at iso
    cases found : Iso.read (String.ofList (withOffsets s.toList)) with
    | ok u =>
      have isTime := Iso.isTime_of_read found
      rwa [String.toList_ofList] at isTime
    | error e =>
      rw [found] at iso
      cases iso

/-- A message of a hit whose time is a text has a time that the text is read as. -/
theorem exists_textTime? {m : Message} (accepted : (h.withTime entries (.str s)).read = .ok m) :
    ∃ t, textTime? s = some t := by
  by_cases named : h.IsNamed
  · obtain ⟨⟨id, hid⟩, index, hindex⟩ := named
    rw [read_withTime hid hindex] at accepted
    obtain ⟨u, time, -⟩ := exists_of_bind_eq_ok accepted
    obtain ⟨t, given, -⟩ := exists_of_bind_eq_ok time
    unfold givenTime at given
    cases read : textTime? s with
    | some t => exact ⟨t, rfl⟩
    | none =>
      simp only [read] at given
      cases given
  · have unnamed : ¬(h.withTime entries (.str s)).IsNamed := named
    obtain ⟨reason, refused⟩ := read_of_not_named unnamed
    rw [refused] at accepted
    cases accepted

/-- Digits alone are no stamp, and have no `Z`. -/
theorem textTime?_numeral (all : ∀ c ∈ s.toList, Text.isAsciiDigit c = true)
    (long : 8 < s.toList.length) : textTime? s = Iso.numeralTime? s.toList := by
  have noStamp : Stamp.read? s = none :=
    Stamp.read?_of_no_blank fun c member => Text.isBlank_of_isAsciiDigit (all c member)
  have noLetter : 'Z' ∉ s.toList := fun member => absurd (all 'Z' member) (by decide)
  unfold textTime?
  rw [noStamp, flatMap_offset_of_notMem noLetter, String.ofList_toList, Option.none_or]
  exact Iso.toOption_read_numeral all long

/-- A hit with a name whose time is a text that is read as one without an offset has that time in UTC. -/
theorem exists_read_of_naive {highlights : List (Value × List String)}
    (hid : nonempty? h.id = some id) (hindex : nonempty? h.index = some index)
    (written : h.readHighlights = .ok highlights) (read : textTime? s = some t)
    (naive : t.offset = none) :
    ∃ m u, (h.withTime entries (.str s)).read = .ok m ∧
      Entries.get? m.fields timeField = some (.time u) ∧ u.offset = some .utc ∧ u.wall = t.wall := by
  have same : ({ t with offset := some .utc } : DateTime).naive = t := by
    obtain ⟨_, _, _⟩ := t
    simp only at naive
    subst naive
    rfl
  have utc := DateTime.toUtc?_naive
    (rfl : ({ t with offset := some .utc } : DateTime).offset = some .utc)
  rw [same] at utc
  have given : h.givenTime (.str s) = .ok t := givenTime_of_tells (.inr ⟨s, rfl, read⟩)
  have message : (h.withTime entries (.str s)).read = _ := read_withTime hid hindex
  rw [messageTime_of_given given utc, written] at message
  exact ⟨_, _, message, Entries.get?_put_self, rfl, rfl⟩

/-- A hit with a name whose time is a text that is read as none is reported. -/
theorem read_of_textTime?_eq_none (hid : nonempty? h.id = some id)
    (hindex : nonempty? h.index = some index) (unread : textTime? s = none) :
    (h.withTime entries (.str s)).read = .error
      (.search (.unparsedHit h.id h.index ("invalid timestamp " ++ (Value.str s).literal)) none) := by
  have given : h.givenTime (.str s) = .error (h.invalidTime (.str s)) := by
    unfold givenTime
    simp only [unread]
  have report : h.invalidTime (.str s) = .search
      (.unparsedHit h.id h.index ("invalid timestamp " ++ (Value.str s).literal)) none := by
    unfold invalidTime unparsed
    rw [isWritable_of_nonempty? hid, isWritable_of_nonempty? hindex]
    rfl
  rw [read_withTime hid hindex, messageTime_of_invalid given, report]
  rfl

/-- A hit whose time is a text becomes a message only when the text is written as a stamp, or as ISO 8601
text with some character between date and time of day.  Every such character but a blank and `Z` is taken
for a separator.  And a text of more than eight digits is the time that its fields show, whenever they show
one; else the hit is reported. -/
theorem read_timeText (h : Hit) (entries : Entries) :
    (∀ (s : String) (m : Message), (h.withTime entries (.str s)).read = .ok m →
      Stamp.IsStamp s.toList ∨ Iso.IsTime (withOffsets s.toList)) ∧
    (∀ (t : DateTime) (separator : Char), t.HasWholeOffset → separator ≠ 'Z' →
      Text.isBlank separator = false →
      (h.withTime entries (.str (String.ofList (t.isoChars separator)))).read =
        (h.withTime entries (.time t)).read) ∧
    ∀ s id index : String, nonempty? h.id = some id → nonempty? h.index = some index →
      (∀ c ∈ s.toList, Text.isAsciiDigit c = true) → 8 < s.toList.length →
      (∀ t highlights, Iso.numeralTime? s.toList = some t → h.readHighlights = .ok highlights →
        ∃ m u, (h.withTime entries (.str s)).read = .ok m ∧
          Entries.get? m.fields timeField = some (.time u) ∧ u.offset = some .utc ∧
          u.wall = t.wall) ∧
      (Iso.numeralTime? s.toList = none →
        (h.withTime entries (.str s)).read = .error (.search (.unparsedHit h.id h.index
          ("invalid timestamp " ++ (Value.str s).literal)) none)) := by
  refine ⟨?_, ?_, ?_⟩
  · intro s m accepted
    obtain ⟨t, read⟩ := exists_textTime? accepted
    exact isStamp_or_isTime read
  · intro t separator whole other visible
    refine read_withTime_congr (messageTime_of_textTime? ?_)
    exact DateTime.textTime?_isoChars other visible whole
  · intro s id index hid hindex all long
    have read := textTime?_numeral all long
    refine ⟨?_, ?_⟩
    · intro t highlights time written
      exact exists_read_of_naive hid hindex written (read.trans time) (Iso.offset_numeralTime? time)
    · intro noTime
      exact read_of_textTime?_eq_none hid hindex (read.trans noTime)

/-- Two numbers of milliseconds since 1970 that are sent as text, of which one is read as a day in 1610 and
the other is not read; and a time with a small letter between date and time of day. -/
theorem read_timeText_milliseconds :
    let h : Hit := ⟨.str "a", .str "g", .map [], .null⟩
    let t : DateTime := ⟨63844891200000000, some .utc, by decide⟩
    (∃ m u, (h.withTime [] (.str "1610121200000")).read = .ok m ∧
      Entries.get? m.fields timeField = some (.time u) ∧ u.iso = "1610-12-12T00:00:00+00:00") ∧
    (h.withTime [] (.str "1709294400000")).read = .error
      (.search (.unparsedHit (.str "a") (.str "g") "invalid timestamp '1709294400000'") none) ∧
    (h.withTime [] (.str "2024-03-01x12:00:00+00:00")).read = (h.withTime [] (.time t)).read := by
  intro h t
  obtain ⟨-, separators, digits⟩ := read_timeText h []
  refine ⟨?_, ?_, ?_⟩
  · have all : "1610121200000".toList.all Text.isAsciiDigit = true := by decide
    obtain ⟨read, -⟩ :=
      digits "1610121200000" "a" "g" rfl rfl (List.all_eq_true.1 all) (by decide)
    obtain ⟨m, u, accepted, time, utc, wall⟩ :=
      read ⟨50804928000000000, none, by decide⟩ [] (by decide +kernel) rfl
    obtain ⟨_, _, inside⟩ := u
    subst utc wall
    have shown : (⟨50804928000000000, some .utc, by decide⟩ : DateTime).iso =
        "1610-12-12T00:00:00+00:00" := by decide +kernel
    exact ⟨m, _, accepted, time, shown⟩
  · have all : "1709294400000".toList.all Text.isAsciiDigit = true := by decide
    obtain ⟨-, refused⟩ :=
      digits "1709294400000" "a" "g" rfl rfl (List.all_eq_true.1 all) (by decide)
    have report := refused (by decide +kernel)
    have text : (Value.str "1709294400000").literal = "'1709294400000'" := by decide +kernel
    rw [text] at report
    exact report
  · have same := separators t 'x' (DateTime.hasWholeOffset_of_utc rfl) (by decide) (by decide)
    have text : String.ofList (t.isoChars 'x') = "2024-03-01x12:00:00+00:00" := by decide +kernel
    rwa [text] at same

/-- A text of thirteen digits that becomes the time of a message: it is no date, and has no white space
and no letter that could stand between a date and a time of day. -/
theorem read_timeText_digits :
    let h : Hit := ⟨.str "a", .str "g", .map [], .null⟩
    let s := "1610121200000"
    (∃ m, (h.withTime [] (.str s)).read = .ok m) ∧
    (∀ c ∈ s.toList, Text.isAsciiDigit c = true) ∧ 8 < s.toList.length ∧
    (∀ c ∈ s.toList, c ≠ 'T' ∧ c ≠ 't' ∧ Text.isBlank c = false) ∧
    ∀ shape ∈ Iso.dateShapes, ¬Text.HasShape Char.isLower shape.toList s.toList := by
  intro h s
  have digits : s.toList.all Text.isAsciiDigit = true := by decide
  have all := List.all_eq_true.1 digits
  have long : 8 < s.toList.length := by decide
  have read : textTime? s = some ⟨50804928000000000, none, by decide⟩ := by
    rw [textTime?_numeral all long]
    decide +kernel
  have hid : nonempty? h.id = some "a" := rfl
  have hindex : nonempty? h.index = some "g" := rfl
  have message : ∃ m u, (h.withTime [] (.str s)).read = .ok m ∧ _ :=
    exists_read_of_naive hid hindex rfl read rfl
  obtain ⟨m, -, accepted, -⟩ := message
  refine ⟨⟨m, accepted⟩, all, long, ?_, by decide⟩
  intro c member
  have digit := all c member
  refine ⟨?_, ?_, Text.isBlank_of_isAsciiDigit digit⟩
  · rintro rfl
    exact absurd digit (by decide)
  · rintro rfl
    exact absurd digit (by decide)

end Hit

end LogSearch
