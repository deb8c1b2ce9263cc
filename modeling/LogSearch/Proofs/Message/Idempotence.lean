import LogSearch.Proofs.Message.Highlights
import LogSearch.Proofs.Value.Keys

/-!
# Reading a message again

A message is a hit again, with its fields for a source.  Reading makes its identifier and index texts,
its time a time in UTC, and its highlights lists of texts, and drops the identifier from the fields.
`Message.IsRead` says so of a message, and just the messages of which it holds are left as they are
when they are read again.

Main statement: `Hit.read_again`.
-/

namespace LogSearch

/-- The hit that a message is. -/
def Message.hit (m : Message) : Hit where
  id := .str m.id
  index := .str m.index
  source := .map m.fields
  highlights := highlightsValue m.highlights

/-- A message is as reading makes them. -/
structure Message.IsRead (m : Message) : Prop where
  id_ne : m.id ≠ ""
  index_ne : m.index ≠ ""
  noId : Entries.has m.fields idField = false
  time : ∀ v, Entries.get? m.fields timeField = some v → ∃ t, v = .time t ∧ t.offset = some .utc

namespace Hit

variable {h : Hit} {m : Message} {source fields : Entries}

theorem ne_of_nonempty? {v : Value} {s : String} (h : nonempty? v = some s) : s ≠ "" := by
  cases v with
  | str t =>
    unfold nonempty? at h
    dsimp only at h
    split at h
    · cases h
    · rename_i filled
      obtain rfl := Option.some.inj h
      simpa using filled
  | _ => cases h

/-- The fields of a message have no identifier, and if they have a time it is in UTC. -/
theorem noId_and_time_of_fields (made : h.fields source = .ok fields) :
    Entries.has fields idField = false ∧
      ∀ v, Entries.get? fields timeField = some v → ∃ t, v = .time t ∧ t.offset = some .utc := by
  have missing : Entries.get? (Entries.drop source idField) timeField =
      Entries.get? source timeField := Entries.get?_drop_ne timeField_ne_idField
  rw [fields_eq] at made
  cases given : Entries.get? source timeField with
  | none =>
    rw [given] at made missing
    obtain rfl := Except.ok.inj made
    refine ⟨Entries.has_drop_self source idField, fun v found => ?_⟩
    rw [missing] at found
    cases found
  | some v =>
    rw [given] at made
    obtain ⟨u, time, rfl⟩ := exists_of_map_eq_ok made
    obtain ⟨t, -, utc, -⟩ := Document.given_of_messageTime time
    constructor
    · rw [Entries.has_eq_isSome_get?, timeField, Entries.get?_put_ne timeField_ne_idField.symm,
        ← Entries.has_eq_isSome_get?]
      exact Entries.has_drop_self source idField
    · intro w found
      exact ⟨u, Option.some.inj (found.symm.trans Entries.get?_put_self), utc⟩

theorem isRead_of_read (hm : h.read = .ok m) : m.IsRead := by
  obtain ⟨source, -, made, -, id, index⟩ := exists_of_read hm
  obtain ⟨noId, time⟩ := noId_and_time_of_fields made
  exact ⟨ne_of_nonempty? id, ne_of_nonempty? index, noId, time⟩

/-- Each highlight that is read is the list of the texts of one that was given. -/
theorem texts_of_read (hm : h.read = .ok m) :
    List.Forall₂ (fun given texts => texts.1 = given.1 ∧
      ∃ vs, fragmentsOf? given.2 = some vs ∧ texts.2 = vs.map Value.plain)
      h.highlights.entries m.highlights := by
  obtain ⟨-, -, -, highlights, -⟩ := exists_of_read hm
  exact (fragments_of_readHighlights highlights).imp fun given texts => exists_of_fragments

end Hit

namespace Message

variable {m : Message}

theorem fields_hit (isRead : m.IsRead) : m.hit.fields m.fields = .ok m.fields := by
  rw [Hit.fields_eq, Entries.drop_eq_self_iff.2 isRead.noId]
  cases found : Entries.get? m.fields timeField with
  | none => rfl
  | some v =>
    obtain ⟨t, rfl, utc⟩ := isRead.time v found
    have kept : m.hit.messageTime (.time t) = .ok t :=
      Hit.messageTime_of_given rfl (DateTime.toUtc?_of_utc utc)
    simp only [kept]
    exact congrArg _ (Entries.put_eq_self_iff.2 found)

/-- Texts are their own texts. -/
theorem fragments_texts (h : Hit) (key : Value) (texts : List String) :
    h.fragments (key, .texts texts) = .ok (key, texts) := by
  rw [Hit.fragments_of_list rfl, if_pos ?_]
  · rw [List.map_map]
    exact congrArg _ (congrArg _ (List.map_id texts))
  · rw [Value.areWritable_iff]
    intro v member
    obtain ⟨text, -, rfl⟩ := List.mem_map.1 member
    rfl

theorem readHighlights_hit (m : Message) : m.hit.readHighlights = .ok m.highlights := by
  rw [Hit.readHighlights_eq (.inl rfl), mapM_eq_ok_iff, List.forall₂_map_left_iff, List.forall₂_same]
  exact fun highlight _ => fragments_texts m.hit highlight.1 highlight.2

/-- Just the messages that are as reading makes them are left as they are by it. -/
theorem read_hit_iff : m.hit.read = .ok m ↔ m.IsRead := by
  refine ⟨Hit.isRead_of_read, fun isRead => ?_⟩
  rw [Hit.read_of_map (Document.nonempty?_str isRead.id_ne) (Document.nonempty?_str isRead.index_ne)
    rfl, fields_hit isRead, readHighlights_hit]
  rfl

end Message

namespace Hit

/-- A message that is read from a hit comes back when it is read as a hit itself: with the same fields,
the same time and the same highlights.  Its fields have no identifier, its time is in UTC if there is
one, and under the key of each highlight of the hit it has the texts of that, as many as the hit has
fragments there. -/
theorem read_again {h : Hit} {m : Message} (read : h.read = .ok m) :
    m.hit.read = .ok m ∧
    Entries.has m.fields idField = false ∧
    (∀ v, Entries.get? m.fields timeField = some v → ∃ t, v = .time t ∧ t.offset = some .utc) ∧
    List.Forall₂ (fun given texts => texts.1 = given.1 ∧
        ∃ vs, fragmentsOf? given.2 = some vs ∧ texts.2.length = vs.length)
      h.highlights.entries m.highlights := by
  have isRead := isRead_of_read read
  refine ⟨Message.read_hit_iff.2 isRead, isRead.noId, isRead.time, (texts_of_read read).imp ?_⟩
  rintro given texts ⟨key, vs, isList, same⟩
  exact ⟨key, vs, isList, by rw [same, List.length_map]⟩

/-- A hit with another identifier in its source, a time that is an hour ahead of UTC and a truth value
among its highlighted texts. -/
theorem read_again_zoned :
    let h : Hit := ⟨.str "a", .str "g",
      .map [(.str "_id", .str "b"), (.str "timestamp", .str "2024-03-01T13:00:00+01:00")],
      .map [(.str "message", .tuple [.str "x", .bool true])]⟩
    let m : Message := ⟨"a", "g",
      [(.str "timestamp", .time ⟨63844891200000000, some .utc, by decide⟩)],
      [(.str "message", ["x", "True"])]⟩
    h.read = .ok m ∧ m.hit.read = .ok m := by
  intro h m
  have text : textTime? "2024-03-01T13:00:00+01:00" =
      some ⟨63844894800000000, some ⟨3600000000, by decide⟩, by decide⟩ := by decide +kernel
  have time : h.messageTime (.str "2024-03-01T13:00:00+01:00") =
      .ok ⟨63844891200000000, some .utc, by decide⟩ :=
    messageTime_of_given (givenTime_of_tells (.inr ⟨_, rfl, text⟩)) (by decide +kernel)
  have fields : h.fields h.source.entries = .ok m.fields := by
    rw [fields_eq]
    exact congrArg (Except.map _) time
  have highlights : h.readHighlights = .ok m.highlights := rfl
  have isMap : h.source = .map h.source.entries := rfl
  have read : h.read = .ok m := by
    rw [read_of_map rfl rfl isMap, fields, highlights]
    rfl
  exact ⟨read, (read_again read).1⟩

end Hit

end LogSearch
