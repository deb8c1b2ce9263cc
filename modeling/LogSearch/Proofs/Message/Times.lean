import LogSearch.CommandLine.Request
import LogSearch.Message.Response
import LogSearch.Proofs.Message.Reading
import LogSearch.Proofs.Message.Summary
import LogSearch.Proofs.Time.Iso
import LogSearch.Proofs.Time.Range
import LogSearch.Proofs.Time.Stamp
import LogSearch.Proofs.Value.Access

/-!
# Times survive their texts

A time is shown as text in messages and in time ranges.  There are two readers of such texts, that of
hits and that of arguments, and both give the time back: the text of a time has no blank, so that it
is not taken for a stamp, and no `Z`, so that nothing in it is put in the place of another.

Main statement: `times_survive_text`.
-/

namespace LogSearch

/-- An offset of whole seconds, or none. -/
def DateTime.HasWholeOffset (t : DateTime) : Prop :=
  ∀ o ∈ t.offset, o.micros % microsPerSecond = 0

theorem DateTime.hasWholeOffset_of_utc {t : DateTime} (h : t.offset = some .utc) :
    t.HasWholeOffset := by
  intro o member
  rw [h] at member
  obtain rfl := Option.some.inj member
  rfl

/-- Where no `Z` is, none is replaced. -/
theorem flatMap_offset_of_notMem {cs : List Char} (h : 'Z' ∉ cs) :
    (cs.flatMap fun c => if c = 'Z' then "+00:00".toList else [c]) = cs := by
  induction cs with
  | nil => rfl
  | cons c cs ih =>
    have other : c ≠ 'Z' := fun same => h (same ▸ List.mem_cons_self)
    rw [List.flatMap_cons, if_neg other, ih fun later => h (List.mem_cons_of_mem c later)]
    rfl

namespace DateTime

variable {t : DateTime}

theorem read_withUtcOffset {separator : Char} (other : separator ≠ 'Z') (whole : t.HasWholeOffset) :
    Iso.read (String.ofList ((t.isoChars separator).flatMap fun c =>
      if c = 'Z' then "+00:00".toList else [c])) = .ok t := by
  rw [flatMap_offset_of_notMem (Iso.letter_notMem_isoChars t other)]
  exact Iso.read_isoChars separator fun o member => Offset.isLegible_of_whole (whole o member)

/-- The text of a time is read as an argument. -/
theorem readTime_iso (whole : t.HasWholeOffset) : CommandLine.readTime t.iso = .ok t := by
  have read := read_withUtcOffset (by decide : 'T' ≠ 'Z') whole
  rw [← show t.iso.toList = t.isoChars 'T' from String.toList_ofList] at read
  exact congrArg (Except.mapError Fault.iso) read

/-- The text of a time is read in a hit, with any separator that is no blank and no `Z`. -/
theorem textTime?_isoChars {separator : Char} (other : separator ≠ 'Z')
    (visible : Text.isBlank separator = false) (whole : t.HasWholeOffset) :
    Hit.textTime? (String.ofList (t.isoChars separator)) = some t := by
  have chars : (String.ofList (t.isoChars separator)).toList = t.isoChars separator :=
    String.toList_ofList
  have noStamp : Stamp.read? (String.ofList (t.isoChars separator)) = none := by
    refine Stamp.read?_of_no_blank ?_
    rw [chars]
    exact Iso.isBlank_of_mem_isoChars t visible
  unfold Hit.textTime?
  rw [noStamp, chars, read_withUtcOffset other whole]
  rfl

/-- The text of a time is read in a hit. -/
theorem textTime?_iso (whole : t.HasWholeOffset) : Hit.textTime? t.iso = some t :=
  textTime?_isoChars (by decide) (by decide) whole

end DateTime

/-- Of two values that are put under a key one after the other only the second is seen. -/
theorem Entries.put_drop_put {s r : String} (ne : s ≠ r) (entries : Entries) (v w : Value) :
    put (drop (put entries (.str s) v) (.str r)) (.str s) w =
      put (drop entries (.str r)) (.str s) w := by
  have like : (Value.str s).alike (.str s) = true := Value.alike_str_iff.2 rfl
  have unlike : (Value.str s).alike (.str r) = false := by
    rw [Value.alike_str, beq_eq_false_iff_ne]
    exact ne
  induction entries with
  | nil => simp [put, drop, like, unlike]
  | cons entry rest ih =>
    obtain ⟨k, x⟩ := entry
    by_cases same : k.alike (.str s) = true
    · have other : k.alike (.str r) = false := by
        rw [Value.alike_str_iff.1 same]
        exact unlike
      simp [put_cons, drop_cons, same, other]
    · by_cases dropped : k.alike (.str r) = true
      · simpa [put_cons, drop_cons, same, dropped] using ih
      · simpa [put_cons, drop_cons, same, dropped] using ih

namespace Hit

variable {h : Hit} {entries : Entries} {t u : DateTime} {v w : Value}

/-- A hit with some time in its source. -/
def withTime (h : Hit) (entries : Entries) (v : Value) : Hit :=
  { h with source := .map (Entries.put entries timeField v) }

/-- A text gives a hit the time that it is read as. -/
theorem messageTime_of_textTime? {s : String} (read : textTime? s = some t) :
    h.messageTime (.str s) = h.messageTime (.time t) := by
  have given : h.givenTime (.str s) = .ok t := givenTime_of_tells (.inr ⟨s, rfl, read⟩)
  unfold messageTime
  rw [given]
  rfl

theorem messageTime_iso (whole : t.HasWholeOffset) :
    h.messageTime (.str t.iso) = h.messageTime (.time t) :=
  messageTime_of_textTime? (DateTime.textTime?_iso whole)

/-- A hit with a name is read when its time and its highlights are. -/
theorem read_withTime {id index : String} (hid : nonempty? h.id = some id)
    (hindex : nonempty? h.index = some index) :
    (h.withTime entries v).read = (do
      let u ← h.messageTime v
      let highlights ← h.readHighlights
      return ⟨id, index, Entries.put (Entries.drop entries idField) timeField (.time u), highlights⟩) := by
  have fields : (h.withTime entries v).fields (Entries.put entries timeField v) =
      (h.messageTime v).map fun u =>
        Entries.put (Entries.drop entries idField) timeField (.time u) := by
    rw [fields_eq, show Entries.get? (Entries.put entries timeField v) timeField = some v from
      Entries.get?_put_self]
    dsimp only
    simp only [show timeField = Value.str "timestamp" from rfl, show idField = Value.str "_id" from rfl,
      Entries.put_drop_put (by decide : "timestamp" ≠ "_id")]
    rfl
  have highlights : (h.withTime entries v).readHighlights = h.readHighlights := rfl
  have named := read_of_map (h := h.withTime entries v) hid hindex rfl
  rw [named, fields, highlights]
  cases h.messageTime v <;> rfl

/-- Values that give a hit the same time make the same of it. -/
theorem read_withTime_congr (same : h.messageTime v = h.messageTime w) :
    (h.withTime entries v).read = (h.withTime entries w).read := by
  cases hid : nonempty? h.id with
  | none =>
    unfold read withTime
    simp only [hid]
    rfl
  | some id =>
    cases hindex : nonempty? h.index with
    | none =>
      unfold read withTime
      simp only [hid, hindex]
      rfl
    | some index => rw [read_withTime hid hindex, read_withTime hid hindex, same]

end Hit

theorem Entries.get?_map (f : Value → Value) (entries : Entries) (key : Value) :
    get? (entries.map fun (k, v) => (k, f v)) key = (get? entries key).map f := by
  induction entries with
  | nil => rfl
  | cons entry rest ih =>
    obtain ⟨k, v⟩ := entry
    rw [List.map_cons, get?_cons, get?_cons, ih]
    split <;> rfl

/-- A message whose field is a time is shown with the text of it. -/
theorem Message.exists_shown {m : Message} {u : DateTime}
    (h : Entries.get? m.fields timeField = some (.time u)) :
    ∃ shown, m.summary.record.item "message" = .ok shown ∧
      shown.item "timestamp" = .ok (.str u.iso) := by
  refine ⟨.map (m.summary.fields.map fun (k, v) => (k, Summary.shown v)), ?_, ?_⟩
  · unfold Summary.record Value.record
    rw [Value.item_map]
    simp [Entries.get?_cons, Value.alike_str]
  · have kept : Entries.get? m.summary.fields timeField = some (.time u) :=
      (Entries.get?_put_ne Hit.timeField_ne_idField).trans h
    have shown : Entries.get? (m.summary.fields.map fun (k, v) => (k, Summary.shown v)) timeField =
        some (.str u.iso) := by
      rw [Entries.get?_map, kept]
      rfl
    rw [Value.item_map, show Value.str "timestamp" = timeField from rfl, shown]

namespace TimeRange

theorem item_record (r : TimeRange) :
    r.record.item "from" = .ok (.str r.first.iso) ∧ r.record.item "to" = .ok (.str r.last.iso) := by
  unfold record Value.record
  simp [Value.item_map, Entries.get?_cons, Value.alike_str]

end TimeRange

/-- A time with an offset of whole seconds, or with none, is the same in a hit whether it stands there
itself or by its text: it becomes the time in UTC at its instant, and the text by which the message
shows that gives the message again.  As an argument the text of a time is read as the time.  And a time
range is made again of the two texts that show it. -/
theorem times_survive_text (t : DateTime) (whole : t.HasWholeOffset)
    (inside : 0 ≤ t.instant ∧ t.instant < calendarEnd) (h : Hit) (entries : Entries)
    (range : TimeRange) :
    CommandLine.readTime t.iso = .ok t ∧
    (h.withTime entries (.str t.iso)).read = (h.withTime entries (.time t)).read ∧
    (∀ id index highlights, Hit.nonempty? h.id = some id → Hit.nonempty? h.index = some index →
      h.readHighlights = .ok highlights →
      ∃ m u, (h.withTime entries (.time t)).read = .ok m ∧
        Entries.get? m.fields timeField = some (.time u) ∧
        u.offset = some .utc ∧ u.instant = t.instant ∧
        ∃ shown text, m.summary.record.item "message" = .ok shown ∧
          shown.item "timestamp" = .ok (.str text) ∧
          (h.withTime entries (.str text)).read = .ok m) ∧
    ∃ first last,
      range.record.item "from" = .ok (.str first) ∧ range.record.item "to" = .ok (.str last) ∧
      (do TimeRange.ofTimes (← CommandLine.readTime first) (← CommandLine.readTime last)) =
        .ok range := by
  refine ⟨DateTime.readTime_iso whole, Hit.read_withTime_congr (Hit.messageTime_iso whole), ?_, ?_⟩
  · intro id index highlights hid hindex written
    obtain ⟨u, utc⟩ := Option.isSome_iff_exists.1 ((DateTime.toUtc?_isSome t).2 inside)
    have offset := DateTime.offset_ofInstant? utc
    have time : h.messageTime (.time t) = .ok u := Hit.messageTime_of_given rfl utc
    have again : h.messageTime (.str u.iso) = .ok u := by
      rw [Hit.messageTime_iso (DateTime.hasWholeOffset_of_utc offset)]
      exact Hit.messageTime_of_given rfl (DateTime.toUtc?_of_utc offset)
    have read : (h.withTime entries (.time t)).read = _ := Hit.read_withTime hid hindex
    rw [time, written] at read
    have field : Entries.get? (Entries.put (Entries.drop entries idField) timeField (.time u))
        timeField = some (.time u) := Entries.get?_put_self
    obtain ⟨shown, isShown, isText⟩ := Message.exists_shown (m := ⟨id, index, _, highlights⟩) field
    refine ⟨_, u, read, field, offset, DateTime.instant_toUtc? utc, shown, u.iso, isShown, isText, ?_⟩
    exact (Hit.read_withTime_congr (again.trans time.symm)).trans read
  · refine ⟨range.first.iso, range.last.iso, range.item_record.1, range.item_record.2, ?_⟩
    rw [DateTime.readTime_iso (DateTime.hasWholeOffset_of_utc range.first_utc),
      DateTime.readTime_iso (DateTime.hasWholeOffset_of_utc range.last_utc)]
    exact range.ofTimes_bounds

/-- A time in the first second of the calendar, almost a day west of UTC. -/
theorem times_survive_text_first_second :
    let t : DateTime := ⟨500, some ⟨-86399000000, by decide⟩, by decide⟩
    let h : Hit := ⟨.str "a", .str "g", .map [], .null⟩
    t.iso = "0001-01-01T00:00:00.000500-23:59:59" ∧
    (h.withTime [] (.str t.iso)).read = (h.withTime [] (.time t)).read ∧
    ∃ m, (h.withTime [] (.time t)).read = .ok m := by
  intro t h
  have range : TimeRange := ⟨⟨0, some .utc, by decide⟩, ⟨1, some .utc, by decide⟩, rfl, rfl, by decide⟩
  have whole : t.HasWholeOffset := by
    intro o member
    obtain rfl := Option.some.inj member
    rfl
  obtain ⟨-, same, read, -⟩ := times_survive_text t whole (by decide) h [] range
  obtain ⟨m, -, isMessage, -⟩ := read "a" "g" [] rfl rfl rfl
  exact ⟨by decide +kernel, same, m, isMessage⟩

end LogSearch
