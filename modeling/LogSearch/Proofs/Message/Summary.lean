import LogSearch.Message.Response
import LogSearch.Proofs.Message.Reading

/-!
# How a document is shown

A `Document` is a hit with a name, a source and lists of highlighted texts.  If its time is one, it is
read, and the summary of its message shows it: under the hit's own identifier, with each field of the
source as it is, except for the time, which is shown in UTC.

Main statement: `exists_summary`.
-/

namespace LogSearch

/-- A hit with a name, a source and lists of highlighted texts. -/
structure Document where
  id : String
  index : String
  source : Entries
  highlights : List (Value × List Value)

namespace Document

/-- The hit that a document is. -/
def hit (d : Document) : Hit where
  id := .str d.id
  index := .str d.index
  source := .map d.source
  highlights := .map (d.highlights.map fun (name, vs) => (name, .list vs))

/-- A document whose name and time can be read. -/
structure IsReadable (d : Document) : Prop where
  id_ne : d.id ≠ ""
  index_ne : d.index ≠ ""
  time : ∀ v, Entries.get? d.source timeField = some v → ∃ u, d.hit.messageTime v = .ok u

/-- The highlighted texts of a document can be written. -/
def IsWritten (d : Document) : Prop := ∀ entry ∈ d.highlights, ∀ v ∈ entry.2, v.isWritable = true

/-- The fields of a message hold the source of a document, without the identifier in it. -/
structure IsHeldBy (d : Document) (fields : Entries) : Prop where
  keys : Entries.keys fields = (Entries.keys d.source).filter fun k => !k.alike idField
  field : ∀ key, key ≠ idField → key ≠ timeField →
    Entries.get? fields key = Entries.get? d.source key
  time : ∀ v, Entries.get? d.source timeField = some v → ∃ t u, d.hit.givenTime v = .ok t ∧
    Entries.get? fields timeField = some (.time u) ∧ u.offset = some .utc ∧ u.instant = t.instant

/-- A summary shows a document. -/
structure IsShownAs (d : Document) (s : Summary) : Prop where
  id : s.id? = some (.str d.id)
  index : s.index = .str d.index
  keys : Entries.keys s.fields =
    ((Entries.keys d.source).filter fun k => !k.alike idField) ++ [idField]
  field : ∀ key, key ≠ idField → key ≠ timeField →
    Entries.get? s.fields key = Entries.get? d.source key
  time : ∀ v, Entries.get? d.source timeField = some v → ∃ t u, d.hit.givenTime v = .ok t ∧
    Entries.get? s.fields timeField = some (.time u) ∧ u.offset = some .utc ∧ u.instant = t.instant
  highlights : s.highlights =
    .map (d.highlights.map fun (name, vs) => (name, .texts (vs.map Value.plain)))

variable {d : Document}

theorem nonempty?_str {s : String} (h : s ≠ "") : Hit.nonempty? (.str s) = some s := by
  unfold Hit.nonempty?
  dsimp only
  rw [if_neg]
  rwa [String.isEmpty_iff]

/-- A time that is read is given, and is in UTC at the same instant. -/
theorem given_of_messageTime {h : Hit} {v : Value} {u : DateTime} (hu : h.messageTime v = .ok u) :
    ∃ t, h.givenTime v = .ok t ∧ u.offset = some .utc ∧ u.instant = t.instant := by
  obtain ⟨t, ht, hu⟩ := exists_of_bind_eq_ok hu
  refine ⟨t, ht, ?_⟩
  cases utc : t.toUtc? with
  | none =>
    simp only [utc] at hu
    cases hu
  | some w =>
    simp only [utc] at hu
    obtain rfl := Except.ok.inj hu
    exact ⟨DateTime.offset_ofInstant? utc, DateTime.instant_toUtc? utc⟩

/-- The source of a readable document becomes fields that hold it. -/
theorem exists_fields (readable : d.IsReadable) :
    ∃ fields, d.hit.fields d.source = .ok fields ∧ d.IsHeldBy fields := by
  have fields := Hit.fields_eq d.hit d.source
  cases given : Entries.get? d.source timeField with
  | none =>
    rw [given] at fields
    refine ⟨_, fields, Entries.keys_drop _ _, ?_, ?_⟩
    · exact fun key notId _ => Entries.get?_drop_ne notId
    · intro v hv
      rw [given] at hv
      cases hv
  | some v =>
    obtain ⟨u, hu⟩ := readable.time v given
    simp only [given, hu] at fields
    have present : Entries.has (Entries.drop d.source idField) timeField = true :=
      Entries.has_of_get? ((Entries.get?_drop_ne Hit.timeField_ne_idField).trans given)
    refine ⟨_, fields, ?_, ?_, ?_⟩
    · rw [Entries.keys_put, if_pos present, Entries.keys_drop]
    · intro key notId notTime
      exact (Entries.get?_put_ne notTime).trans (Entries.get?_drop_ne notId)
    · intro w hw
      obtain rfl := Option.some.inj (given.symm.trans hw)
      obtain ⟨t, ht, utc, same⟩ := given_of_messageTime hu
      exact ⟨t, u, ht, Entries.get?_put_self, utc, same⟩

/-- Highlighted texts are read in order. -/
theorem readHighlights_hit (written : d.IsWritten) :
    d.hit.readHighlights =
      .ok (d.highlights.map fun (name, vs) => (name, vs.map Value.plain)) := by
  rw [Hit.readHighlights_eq (.inl rfl), mapM_eq_ok_iff, List.forall₂_map_left_iff,
    List.forall₂_map_right_iff, List.forall₂_same]
  rintro ⟨name, vs⟩ member
  rw [Hit.fragments_of_list rfl, if_pos]
  exact (Value.areWritable_iff vs).2 (written _ member)

/-- A readable document is read, and the summary of its message shows it. -/
theorem exists_summary (readable : d.IsReadable) (written : d.IsWritten) :
    ∃ m, d.hit.read = .ok m ∧ d.IsShownAs m.summary := by
  obtain ⟨fields, hf, held⟩ := exists_fields readable
  refine ⟨⟨d.id, d.index, fields, d.highlights.map fun (name, vs) => (name, vs.map Value.plain)⟩,
    ?_, ?_⟩
  · rw [Hit.read_of_map (nonempty?_str readable.id_ne) (nonempty?_str readable.index_ne) rfl, hf,
      readHighlights_hit written]
    rfl
  · -- The identifier in the source was dropped, so the hit's own stands at the end.
    have missing : Entries.has fields idField = false := by
      rw [Entries.has_eq_any_keys, held.keys, ← Entries.keys_drop, ← Entries.has_eq_any_keys]
      exact Entries.has_drop_self d.source idField
    refine ⟨Entries.get?_put_self, rfl, ?_, ?_, ?_, ?_⟩
    · change Entries.keys (Entries.put fields idField (.str d.id)) = _
      rw [Entries.keys_put, missing, if_neg Bool.false_ne_true, held.keys]
    · intro key notId notTime
      exact (Entries.get?_put_ne notId).trans (held.field key notId notTime)
    · intro v hv
      obtain ⟨t, u, ht, shown, utc, same⟩ := held.time v hv
      exact ⟨t, u, ht, (Entries.get?_put_ne Hit.timeField_ne_idField).trans shown, utc, same⟩
    · change Value.map _ = Value.map _
      rw [List.map_map]
      rfl

/-- Highlights that are nothing are read as none. -/
theorem read_without_highlights (none : d.highlights = []) :
    Hit.read { d.hit with highlights := .null } = d.hit.read := by
  obtain ⟨id, index, source, highlights⟩ := d
  subst none
  rfl

end Document

end LogSearch
