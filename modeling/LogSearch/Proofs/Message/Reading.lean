import LogSearch.Message.Hit
import LogSearch.Proofs.Flow
import LogSearch.Proofs.Time.Epoch
import LogSearch.Proofs.Value.Entries

/-!
# How the reading of a hit ends

A hit is read as a message or reported with its own identifier and index.  There are two ways out of
that, and both are faults.  A time that is given with an offset, or as the text of such a time, may
lie outside the calendar once it is in UTC.  And an integer with too many digits is not written, so
that a report which has to show it cannot be made, and neither can a highlighted text.

Each part of a hit has a lemma that says what its reading gives and how it fails.

Main statement: `read_outcome`, which says for every hit exactly when it is read or reported, and
which fault there is otherwise.
-/

namespace LogSearch.Hit

variable {h : Hit} {v : Value} {t : DateTime} {source : Entries}

/-- The identifier and the index of a hit are texts that are not empty. -/
def IsNamed (h : Hit) : Prop := (∃ id, nonempty? h.id = some id) ∧ ∃ index, nonempty? h.index = some index

/-- A failure is a report of a hit, with its identifier and index. -/
def IsReport (h : Hit) (e : Failure) : Prop :=
  ∃ reason cause, e = .search (.unparsedHit h.id h.index reason) cause

/-- A time that a value is, or that its text tells. -/
def Tells (v : Value) (t : DateTime) : Prop := v = .time t ∨ ∃ s, v = .str s ∧ textTime? s = some t

/-- The source has a time that is outside the calendar in UTC. -/
def LeavesCalendar (h : Hit) : Prop :=
  h.IsNamed ∧ ∃ source v t, h.source = .map source ∧ Entries.get? source timeField = some v ∧
    Tells v t ∧ ¬ (0 ≤ t.instant ∧ t.instant < calendarEnd)

theorem isWritable_of_nonempty? {v : Value} {s : String} (h : nonempty? v = some s) :
    v.isWritable = true := by
  cases v with
  | str s => rfl
  | _ => cases h

/-- A hit with a name is reported under it. -/
theorem isReport_unparsed (named : h.IsNamed) (reason : String) (cause : Option Failure) :
    h.IsReport (h.unparsed reason cause) := by
  obtain ⟨⟨id, hid⟩, index, hindex⟩ := named
  refine ⟨reason, cause, ?_⟩
  unfold unparsed
  rw [isWritable_of_nonempty? hid, isWritable_of_nonempty? hindex]
  rfl

/-- A value that is not the time of a hit is reported if it is written. -/
theorem isReport_invalidTime (named : h.IsNamed) (written : v.isWritable = true)
    (cause : Option EpochError) : h.IsReport (h.invalidTime v cause) := by
  unfold invalidTime
  rw [if_pos written]
  exact isReport_unparsed named _ _

theorem invalidTime_of_unwritable (unwritten : v.isWritable = false) (cause : Option EpochError) :
    h.invalidTime v cause = .fault .unwritable := by
  unfold invalidTime
  rw [unwritten]
  rfl

/-- A value that gives no time is an invalid one. -/
theorem givenTime_eq_error {e : Failure} (he : h.givenTime v = .error e) :
    ∃ cause, e = h.invalidTime v cause := by
  unfold givenTime at he
  split at he
  · cases he
  · cases hn : Epoch.ofMillis _ <;> rw [hn] at he
    · exact ⟨_, (Except.error.inj he).symm⟩
    · cases he
  · cases hx : Epoch.ofMillisFloat _ <;> rw [hx] at he
    · exact ⟨_, (Except.error.inj he).symm⟩
    · cases he
  · split at he
    · cases he
    · exact ⟨_, (Except.error.inj he).symm⟩
  · exact ⟨_, (Except.error.inj he).symm⟩

/-- A value that gives a time tells it, or is a number and gives it in UTC. -/
theorem tells_or_utc_of_givenTime (ht : h.givenTime v = .ok t) : Tells v t ∨ t.offset = some .utc := by
  unfold givenTime at ht
  split at ht
  · exact .inl (.inl (congrArg _ (Except.ok.inj ht)))
  · refine .inr ?_
    cases hn : Epoch.ofMillis _ <;> rw [hn] at ht
    · cases ht
    · obtain rfl := Except.ok.inj ht
      exact Epoch.offset_ofMillis hn
  · refine .inr ?_
    cases hx : Epoch.ofMillisFloat _ <;> rw [hx] at ht
    · cases ht
    · obtain rfl := Except.ok.inj ht
      exact Epoch.offset_ofMillisFloat hx
  · split at ht
    · rename_i u hs
      exact .inl (.inr ⟨_, rfl, by rw [hs, Except.ok.inj ht]⟩)
    · cases ht
  · cases ht

theorem givenTime_of_tells (ht : Tells v t) : h.givenTime v = .ok t := by
  rcases ht with rfl | ⟨s, rfl, hs⟩
  · rfl
  · unfold givenTime
    simp only [hs]

/-- A value that is not written gives no time. -/
theorem givenTime_of_unwritable (unwritten : v.isWritable = false) :
    h.givenTime v = .error (.fault .unwritable) := by
  have invalid : ∃ e, h.givenTime v = .error e := by
    cases v with
    | int n =>
      -- An integer that is too long to be written is also too large to be a number of milliseconds.
      have large : Nat.pow 10 Text.digitLimit ≤ n.natAbs := by
        rw [Value.isWritable] at unwritten
        exact Nat.le_of_not_lt (of_decide_eq_false unwritten)
      unfold givenTime
      simp only [Epoch.ofMillis_of_unwritable large]
      exact ⟨_, rfl⟩
    | list items => exact ⟨_, rfl⟩
    | tuple items => exact ⟨_, rfl⟩
    | map entries => exact ⟨_, rfl⟩
    | _ => cases unwritten
  obtain ⟨e, he⟩ := invalid
  obtain ⟨cause, rfl⟩ := givenTime_eq_error he
  rw [he, invalidTime_of_unwritable unwritten]

theorem messageTime_of_given {u : DateTime} (ht : h.givenTime v = .ok t) (hu : t.toUtc? = some u) :
    h.messageTime v = .ok u := by
  unfold messageTime
  simp only [ht, bind, Except.bind, hu]
  rfl

theorem messageTime_of_outside (ht : h.givenTime v = .ok t) (hu : t.toUtc? = none) :
    h.messageTime v = .error (.fault .outsideCalendar) := by
  unfold messageTime
  simp only [ht, bind, Except.bind, hu]
  rfl

theorem messageTime_of_invalid {e : Failure} (he : h.givenTime v = .error e) :
    h.messageTime v = .error e := by
  unfold messageTime
  rw [he]
  rfl

/-- A time has none in UTC exactly when its instant is outside the calendar. -/
theorem toUtc?_eq_none_iff : t.toUtc? = none ↔ ¬ (0 ≤ t.instant ∧ t.instant < calendarEnd) := by
  rw [← DateTime.toUtc?_isSome, Option.not_isSome_iff_eq_none]

/-- The four ways in which the time of a message can come out. -/
theorem messageTime_cases (named : h.IsNamed) (v : Value) :
    (∃ u, h.messageTime v = .ok u) ∨
    (∃ e, h.messageTime v = .error e ∧ h.IsReport e) ∨
    (h.messageTime v = .error (.fault .outsideCalendar) ∧
      ∃ t, Tells v t ∧ ¬ (0 ≤ t.instant ∧ t.instant < calendarEnd)) ∨
    (h.messageTime v = .error (.fault .unwritable) ∧ v.isWritable = false) := by
  cases given : h.givenTime v with
  | ok t =>
    cases utc : t.toUtc? with
    | some u => exact .inl ⟨u, messageTime_of_given given utc⟩
    | none =>
      refine .inr (.inr (.inl ⟨messageTime_of_outside given utc, ?_⟩))
      rcases tells_or_utc_of_givenTime given with tells | isUtc
      · exact ⟨t, tells, toUtc?_eq_none_iff.1 utc⟩
      · rw [DateTime.toUtc?_of_utc isUtc] at utc
        cases utc
  | error e =>
    have invalid := messageTime_of_invalid given
    cases written : v.isWritable with
    | true =>
      obtain ⟨cause, rfl⟩ := givenTime_eq_error given
      exact .inr (.inl ⟨_, invalid, isReport_invalidTime named written cause⟩)
    | false =>
      rw [givenTime_of_unwritable written] at given
      obtain rfl := Except.error.inj given
      exact .inr (.inr (.inr ⟨invalid, rfl⟩))

theorem timeField_ne_idField : timeField ≠ idField :=
  fun same => absurd (Value.str.inj same) (by decide)

/-- The fields of a message are those of the source, with the time in UTC if there is one. -/
theorem fields_eq (h : Hit) (source : Entries) :
    h.fields source =
      match Entries.get? source timeField with
      | none => .ok (Entries.drop source idField)
      | some v => (h.messageTime v).map fun t =>
        Entries.put (Entries.drop source idField) timeField (.time t) := by
  have same : Entries.get? (Entries.drop source idField) timeField =
      Entries.get? source timeField := Entries.get?_drop_ne timeField_ne_idField
  unfold fields
  dsimp only
  rw [same]
  cases Entries.get? source timeField with
  | none => rfl
  | some v =>
    change (h.messageTime v >>= fun t => pure _) = (h.messageTime v).map _
    cases h.messageTime v <;> rfl

/-- The items of a value that lists highlighted texts. -/
def fragmentsOf? : Value → Option (List Value)
  | .list vs | .tuple vs => some vs
  | _ => none

theorem fragments_of_list {key : Value} {vs : List Value} (hv : fragmentsOf? v = some vs) :
    h.fragments (key, v) =
      if Value.areWritable vs then .ok (key, vs.map Value.plain) else .error (.fault .unwritable) := by
  cases v with
  | list ws => obtain rfl := Option.some.inj hv; rfl
  | tuple ws => obtain rfl := Option.some.inj hv; rfl
  | _ => cases hv

theorem fragments_of_other {key : Value} (hv : fragmentsOf? v = none) :
    h.fragments (key, v) =
      if key.isWritable then
        .error (h.unparsed ("highlight for '" ++ key.plain ++ "' is not a list"))
      else .error (.fault .unwritable) := by
  cases v with
  | list ws => cases hv
  | tuple ws => cases hv
  | _ => rfl

/-- The highlights of a hit that has a map of them, or nothing, are read one by one. -/
theorem readHighlights_eq {entries : Entries}
    (shape : h.highlights = .map entries ∨ h.highlights = .null ∧ entries = []) :
    h.readHighlights = entries.mapM h.fragments := by
  unfold readHighlights
  rcases shape with shape | ⟨shape, rfl⟩
  · rw [shape]
    cases entries <;> rfl
  · rw [shape]
    rfl

/-- A hit without a name is reported before anything else of it is looked at. -/
theorem read_of_not_named (unnamed : ¬ h.IsNamed) : ∃ reason, h.read = .error (h.unparsed reason) := by
  unfold read
  cases hid : nonempty? h.id with
  | none => exact ⟨_, rfl⟩
  | some id =>
    cases hindex : nonempty? h.index with
    | none => exact ⟨_, rfl⟩
    | some index => exact absurd ⟨⟨id, hid⟩, index, hindex⟩ unnamed

theorem read_of_map {id index : String} (hid : nonempty? h.id = some id)
    (hindex : nonempty? h.index = some index) (hs : h.source = .map source) :
    h.read = (do
      let fields ← h.fields source
      let highlights ← h.readHighlights
      return ⟨id, index, fields, highlights⟩) := by
  unfold read
  rw [hid, hindex, hs]

theorem read_of_fields_error {e : Failure} (named : h.IsNamed) (hs : h.source = .map source)
    (hf : h.fields source = .error e) : h.read = .error e := by
  obtain ⟨⟨id, hid⟩, index, hindex⟩ := named
  rw [read_of_map hid hindex hs, hf]
  rfl

theorem read_of_highlights_error {e : Failure} {fields : Entries} (named : h.IsNamed)
    (hs : h.source = .map source) (hf : h.fields source = .ok fields)
    (he : h.readHighlights = .error e) : h.read = .error e := by
  obtain ⟨⟨id, hid⟩, index, hindex⟩ := named
  rw [read_of_map hid hindex hs, hf, he]
  rfl

theorem read_of_other (named : h.IsNamed) (hs : ∀ source, h.source ≠ .map source) :
    ∃ reason, h.read = .error (h.unparsed reason) := by
  obtain ⟨⟨id, hid⟩, index, hindex⟩ := named
  unfold read
  rw [hid, hindex]
  cases source : h.source with
  | map entries => exact absurd source (hs entries)
  | _ => exact ⟨_, rfl⟩

/-- A highlight that is not read: the list has an item that is not written, or there is no list and
the key is not written and cannot be reported. -/
def LosesText (key v : Value) : Prop :=
  match fragmentsOf? v with
  | some vs => ∃ x ∈ vs, x.isWritable = false
  | none => key.isWritable = false

/-- A highlight whose texts are read. -/
def IsReadable (v : Value) : Prop :=
  ∃ vs, fragmentsOf? v = some vs ∧ ∀ x ∈ vs, x.isWritable = true

/-- An integer that is not written stands where its text is needed: in the name that a hit without a
proper one is reported under, in what ought to be its time, or in the first highlight that is not a
list of written values. -/
inductive LacksText (h : Hit) : Prop
  | name (unnamed : ¬ h.IsNamed) (unwritten : h.id.isWritable = false ∨ h.index.isWritable = false)
  | time {source : Entries} {v : Value} (named : h.IsNamed) (isMap : h.source = .map source)
      (isTime : Entries.get? source timeField = some v) (unwritten : v.isWritable = false)
  | highlight {source fields before after : Entries} {key v : Value} (named : h.IsNamed)
      (isMap : h.source = .map source) (read : h.fields source = .ok fields)
      (highlights : h.highlights = .map (before ++ (key, v) :: after))
      (readable : ∀ entry ∈ before, IsReadable entry.2) (loses : LosesText key v)

theorem exists_fragments_iff {entry : Value × Value} :
    (∃ texts, h.fragments entry = .ok texts) ↔ IsReadable entry.2 := by
  obtain ⟨key, v⟩ := entry
  unfold IsReadable
  cases hv : fragmentsOf? v with
  | none =>
    rw [fragments_of_other hv]
    constructor
    · rintro ⟨texts, ht⟩
      split at ht <;> cases ht
    · rintro ⟨vs, hvs, -⟩
      cases hvs
  | some vs =>
    rw [fragments_of_list hv]
    constructor
    · rintro ⟨texts, ht⟩
      split at ht
      · rename_i all
        exact ⟨vs, rfl, (Value.areWritable_iff vs).1 all⟩
      · cases ht
    · rintro ⟨ws, hws, all⟩
      obtain rfl := Option.some.inj hws
      exact ⟨_, if_pos ((Value.areWritable_iff vs).2 all)⟩

/-- A highlight that is not read is reported, or loses a text. -/
theorem fragments_error_cases (named : h.IsNamed) {key : Value} {e : Failure}
    (he : h.fragments (key, v) = .error e) :
    h.IsReport e ∨ (e = .fault .unwritable ∧ LosesText key v) := by
  unfold LosesText
  cases hv : fragmentsOf? v with
  | none =>
    rw [fragments_of_other hv] at he
    cases written : key.isWritable with
    | true =>
      rw [written] at he
      obtain rfl := Except.error.inj he
      exact .inl (isReport_unparsed named _ _)
    | false =>
      rw [written] at he
      exact .inr ⟨(Except.error.inj he).symm, rfl⟩
  | some vs =>
    rw [fragments_of_list hv] at he
    split at he
    · cases he
    · rename_i notAll
      refine .inr ⟨(Except.error.inj he).symm, ?_⟩
      by_contra lost
      refine notAll ((Value.areWritable_iff vs).2 fun x hx => ?_)
      cases written : x.isWritable with
      | true => rfl
      | false => exact absurd ⟨x, hx, written⟩ lost

theorem fragments_of_losesText {key : Value} (loses : LosesText key v) :
    h.fragments (key, v) = .error (.fault .unwritable) := by
  unfold LosesText at loses
  cases hv : fragmentsOf? v with
  | none =>
    rw [hv] at loses
    rw [fragments_of_other hv, loses]
    rfl
  | some vs =>
    rw [hv] at loses
    obtain ⟨x, hx, unwritten⟩ := loses
    rw [fragments_of_list hv, if_neg]
    intro all
    rw [(Value.areWritable_iff vs).1 all x hx] at unwritten
    cases unwritten

/-- The report of a hit without a name fails if the name is not written. -/
theorem unparsed_cases (h : Hit) (reason : String) :
    (h.unparsed reason = .search (.unparsedHit h.id h.index reason) none) ∨
    (h.unparsed reason = .fault .unwritable ∧
      (h.id.isWritable = false ∨ h.index.isWritable = false)) := by
  unfold unparsed
  cases h.id.isWritable with
  | false => exact .inr ⟨rfl, .inl rfl⟩
  | true =>
    cases h.index.isWritable with
    | false => exact .inr ⟨rfl, .inr rfl⟩
    | true => exact .inl rfl

/-- What the highlights of a hit add to the ways in which its reading ends. -/
theorem read_cases_of_fields {fields : Entries} (named : h.IsNamed) (hs : h.source = .map source)
    (hf : h.fields source = .ok fields)
    (shape : h.highlights = .null ∨ ∃ entries, h.highlights = .map entries) :
    (∃ m, h.read = .ok m) ∨ (∃ e, h.read = .error e ∧ h.IsReport e) ∨
      (h.read = .error (.fault .unwritable) ∧ h.LacksText) := by
  cases highlights : h.readHighlights with
  | ok texts =>
    obtain ⟨⟨id, hid⟩, index, hindex⟩ := named
    refine .inl ⟨⟨id, index, fields, texts⟩, ?_⟩
    rw [read_of_map hid hindex hs, hf, highlights]
    rfl
  | error e =>
    have hr := read_of_highlights_error named hs hf highlights
    rcases shape with isNull | ⟨entries, isMap⟩
    · rw [readHighlights_eq (.inr ⟨isNull, rfl⟩)] at highlights
      cases highlights
    · rw [readHighlights_eq (.inl isMap)] at highlights
      -- The first highlight that is not read decides, since those before it are readable.
      obtain ⟨before, ⟨key, v⟩, after, rfl, earlier, he⟩ := mapM_eq_error_iff.1 highlights
      rcases fragments_error_cases named he with report | ⟨rfl, loses⟩
      · exact .inr (.inl ⟨e, hr, report⟩)
      · refine .inr (.inr ⟨hr, .highlight named hs hf isMap ?_ loses⟩)
        exact fun entry hentry => exists_fragments_iff.1 (earlier entry hentry)

/-- The four ways in which the fields of a message come out. -/
theorem fields_cases (named : h.IsNamed) (hs : h.source = .map source) :
    (∃ fields, h.fields source = .ok fields) ∨
    (∃ e, h.fields source = .error e ∧ h.IsReport e) ∨
    (h.fields source = .error (.fault .outsideCalendar) ∧ h.LeavesCalendar) ∨
    (h.fields source = .error (.fault .unwritable) ∧ h.LacksText) := by
  have fields := fields_eq h source
  cases time : Entries.get? source timeField with
  | none =>
    rw [time] at fields
    exact .inl ⟨_, fields⟩
  | some v =>
    rcases messageTime_cases named v with
      ⟨u, hu⟩ | ⟨e, he, report⟩ | ⟨ho, t, tells, outside⟩ | ⟨hw, unwritten⟩
    · simp only [time, hu] at fields
      exact .inl ⟨_, fields⟩
    · simp only [time, he] at fields
      exact .inr (.inl ⟨e, fields, report⟩)
    · simp only [time, ho] at fields
      exact .inr (.inr (.inl ⟨fields, named, source, v, t, hs, time, tells, outside⟩))
    · simp only [time, hw] at fields
      exact .inr (.inr (.inr ⟨fields, .time named hs time unwritten⟩))

/-- The four ways in which the reading of a hit ends. -/
theorem read_cases (h : Hit) (shape : h.highlights = .null ∨ ∃ entries, h.highlights = .map entries) :
    (∃ m, h.read = .ok m) ∨
    (∃ e, h.read = .error e ∧ h.IsReport e) ∨
    (h.read = .error (.fault .outsideCalendar) ∧ h.LeavesCalendar) ∨
    (h.read = .error (.fault .unwritable) ∧ h.LacksText) := by
  by_cases named : h.IsNamed
  · by_cases isMap : ∃ source, h.source = .map source
    · obtain ⟨source, hs⟩ := isMap
      rcases fields_cases named hs with
        ⟨fields, hf⟩ | ⟨e, hf, report⟩ | ⟨hf, leaves⟩ | ⟨hf, lacks⟩
      · rcases read_cases_of_fields named hs hf shape with read | report | lacks
        · exact .inl read
        · exact .inr (.inl report)
        · exact .inr (.inr (.inr lacks))
      · exact .inr (.inl ⟨e, read_of_fields_error named hs hf, report⟩)
      · exact .inr (.inr (.inl ⟨read_of_fields_error named hs hf, leaves⟩))
      · exact .inr (.inr (.inr ⟨read_of_fields_error named hs hf, lacks⟩))
    · obtain ⟨reason, hr⟩ := read_of_other named fun source hs => isMap ⟨source, hs⟩
      exact .inr (.inl ⟨_, hr, isReport_unparsed named reason none⟩)
  · obtain ⟨reason, hr⟩ := read_of_not_named named
    rcases unparsed_cases h reason with report | ⟨fault, unwritten⟩
    · exact .inr (.inl ⟨_, hr, reason, none, report⟩)
    · exact .inr (.inr (.inr ⟨by rw [hr, fault], .name named unwritten⟩))

theorem read_of_leavesCalendar (leaves : h.LeavesCalendar) :
    h.read = .error (.fault .outsideCalendar) := by
  obtain ⟨named, source, v, t, hs, time, tells, outside⟩ := leaves
  refine read_of_fields_error named hs ?_
  rw [fields_eq, time]
  simp only [messageTime_of_outside (givenTime_of_tells tells) (toUtc?_eq_none_iff.2 outside)]
  rfl

theorem read_of_lacksText (lacks : h.LacksText) : h.read = .error (.fault .unwritable) := by
  cases lacks with
  | name unnamed unwritten =>
    obtain ⟨reason, hr⟩ := read_of_not_named unnamed
    rw [hr]
    unfold unparsed
    rcases unwritten with unwritten | unwritten
    · rw [unwritten]
      rfl
    · rw [unwritten, Bool.and_false]
      rfl
  | time named hs time unwritten =>
    refine read_of_fields_error named hs ?_
    rw [fields_eq, time]
    simp only [messageTime_of_invalid (givenTime_of_unwritable unwritten)]
    rfl
  | highlight named hs hf isMap earlier loses =>
    refine read_of_highlights_error named hs hf ?_
    rw [readHighlights_eq (.inl isMap)]
    exact mapM_eq_error_iff.2 ⟨_, _, _, rfl,
      fun entry hentry => exists_fragments_iff.2 (earlier entry hentry),
      fragments_of_losesText loses⟩

/-- A hit is read, or reported with its own identifier and index, unless its time leaves the calendar
or a text that is needed cannot be written; each of these two is a fault of its own. -/
theorem read_outcome (h : Hit)
    (shape : h.highlights = .null ∨ ∃ entries, h.highlights = .map entries) :
    (((∃ m, h.read = .ok m) ∨ ∃ e, h.read = .error e ∧ h.IsReport e) ↔
      ¬ h.LeavesCalendar ∧ ¬ h.LacksText) ∧
    (h.LeavesCalendar → h.read = .error (.fault .outsideCalendar)) ∧
    (h.LacksText → h.read = .error (.fault .unwritable)) := by
  refine ⟨⟨?_, ?_⟩, read_of_leavesCalendar, read_of_lacksText⟩
  · have fault {f : Fault} (hf : h.read = .error (.fault f)) :
        ¬ ((∃ m, h.read = .ok m) ∨ ∃ e, h.read = .error e ∧ h.IsReport e) := by
      rintro (⟨m, hm⟩ | ⟨e, he, reason, cause, rfl⟩)
      · rw [hf] at hm
        cases hm
      · rw [hf] at he
        cases he
    intro fine
    exact ⟨fun leaves => fault (read_of_leavesCalendar leaves) fine,
      fun lacks => fault (read_of_lacksText lacks) fine⟩
  · rintro ⟨stays, complete⟩
    rcases read_cases h shape with read | report | ⟨-, leaves⟩ | ⟨-, lacks⟩
    · exact .inl read
    · exact .inr report
    · exact absurd leaves stays
    · exact absurd lacks complete

/-- A time an hour east of UTC, in the calendar's first hour there. -/
theorem read_outcome_first_hour :
    let h : Hit := ⟨.str "a", .str "g",
      .map [(timeField, .str "0001-01-01T00:00:00+01:00")], .null⟩
    h.LeavesCalendar ∧ h.read = .error (.fault .outsideCalendar) := by
  intro h
  have leaves : h.LeavesCalendar :=
    ⟨⟨⟨"a", rfl⟩, "g", rfl⟩, _, _, _, rfl, rfl, .inr ⟨_, rfl, rfl⟩, by decide⟩
  exact ⟨leaves, (read_outcome h (.inl rfl)).2.1 leaves⟩

end LogSearch.Hit
