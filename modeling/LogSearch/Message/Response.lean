import LogSearch.Message.Hit
import LogSearch.Time.Range

/-!
# What a search answers

Messages are shown as summaries, in which the identifier is a field like the others.  A `Response`
goes through the decorators, and an `Envelope` is what the caller gets.

Renders `ResultMessageSummary` (`Summary`), `SearchResponse` (`Response`) and `MessageListResult`
(`Envelope`), with `to_dict` (`record`); `ResultMessage.to_summary` (`Message.summary`) and
`_jsonable` (`Summary.shown`).
-/

namespace LogSearch

/-- A message as it is shown. -/
structure Summary where
  highlights : Value
  fields : Entries
  index : Value
deriving Inhabited

/-- Highlighted texts as a value. -/
def highlightsValue (highlights : List (Value × List String)) : Value :=
  .map (highlights.map fun (name, texts) => (name, .texts texts))

/-- A message as it is shown: its identifier is one of its fields. -/
def Message.summary (m : Message) : Summary :=
  ⟨highlightsValue m.highlights, Entries.put m.fields idField (.str m.id), .str m.index⟩

namespace Summary

/-- The identifier of a message. -/
def id? (s : Summary) : Option Value := Entries.get? s.fields idField

/-- A field as it is shown: a time by its text, anything else as it is. -/
def shown : Value → Value
  | .time t => .str t.iso
  | v => v

/-- A message as a record. -/
def record (s : Summary) : Value :=
  .record [("highlight_ranges", s.highlights),
    ("message", .map (s.fields.map fun (k, v) => (k, shown v))), ("index", s.index)]

end Summary

/-- What goes through the decorators. -/
structure Response where
  query : Value
  builtQuery : Value
  messages : List Summary
  total : Value
  first : DateTime
  last : DateTime
  usedIndices : List String := []
  fields : List String := []
  time : Int := 0
deriving Inhabited

/-- What a caller gets. -/
structure Envelope where
  id : Value
  messages : List Summary
  timeRange : TimeRange
  total : Value
  name : Value := .null

/-- What a caller gets, as a record; the name is left out when there is none. -/
def Envelope.record (e : Envelope) : Value :=
  .record ([("id", e.id), ("type", .str "messages"),
    ("messages", .list (e.messages.map Summary.record)),
    ("effective_timerange", e.timeRange.record), ("total_results", e.total)] ++
    match e.name with
    | .null => []
    | name => [("name", name)])

end LogSearch
