import LogSearch.Failure
import LogSearch.Time.Stamp
import LogSearch.Value.Access

/-!
# From hits to messages

A hit is what a search backend found, and may have any shape.  `Hit.read` makes a message of it: the
identifier, the index and the fields of its source.  The time of a message becomes a time in UTC,
and each highlight a list of texts.  The source's own entry for the identifier is dropped, because
the hit's is the one that counts.

A hit that is no message is reported.  The report shows parts of the hit, and where one of these
cannot be written there is a fault in its place.

Renders `HitMapper`: `map` (`read`), `_highlights` (`readHighlights`), `_parse_timestamp`
(`givenTime`, `messageTime`) and `_parse_timestamp_string` (`textTime?`); `RawHit` (`Hit`) and
`ResultMessage` (`Message`).
-/

namespace LogSearch

/-- The field that holds the identifier of a message. -/
def idField : Value := .str "_id"

/-- The field that holds the time of a message. -/
def timeField : Value := .str "timestamp"

/-- What a search backend found. -/
structure Hit where
  id : Value
  index : Value
  source : Value := .null
  highlights : Value := .map []
deriving Inhabited

/-- A message, with the texts that are highlighted in its fields. -/
structure Message where
  id : String
  index : String
  fields : Entries
  highlights : List (Value × List String)
deriving Inhabited

namespace Hit

/-- The report that a hit is no message, which shows its identifier and its index. -/
def unparsed (h : Hit) (reason : String) (cause : Option Failure := none) : Failure :=
  if h.id.isWritable && h.index.isWritable then .search (.unparsedHit h.id h.index reason) cause
  else .fault .unwritable

/-- The report that a value is not the time of a hit, which shows the value. -/
def invalidTime (h : Hit) (v : Value) (cause : Option EpochError := none) : Failure :=
  if v.isWritable then
    h.unparsed ("invalid timestamp " ++ v.literal) (cause.map fun e => .fault (.epoch e))
  else .fault .unwritable

/-- A name that must be a text and not empty. -/
def nonempty? : Value → Option String
  | .str s => if s.isEmpty then none else some s
  | _ => none

/-- The time of a message written as text: a stamp, or ISO 8601 text in which every `Z` counts as the
offset of UTC. -/
def textTime? (s : String) : Option DateTime :=
  (Stamp.read? s).or
    (Iso.read (String.ofList (s.toList.flatMap fun c =>
      if c = 'Z' then "+00:00".toList else [c]))).toOption

/-- The time of a message as its source gives it. -/
def givenTime (h : Hit) (v : Value) : Except Failure DateTime :=
  match v with
  | .time t => .ok t
  | .int n => (Epoch.ofMillis n).mapError fun e => h.invalidTime v (some e)
  | .float x => (Epoch.ofMillisFloat x).mapError fun e => h.invalidTime v (some e)
  | .str s =>
    match textTime? s with
    | some t => .ok t
    | none => .error (h.invalidTime v)
  | _ => .error (h.invalidTime v)

/-- The time of a message in UTC.  A time that lies outside the calendar there is a fault. -/
def messageTime (h : Hit) (v : Value) : Except Failure DateTime := do
  let t ← h.givenTime v
  match t.toUtc? with
  | some u => return u
  | none => Fault.outsideCalendar.raise

/-- The fields of a message: those of the source without the identifier, and with the time in
UTC. -/
def fields (h : Hit) (source : Entries) : Except Failure Entries := do
  let fields := Entries.drop source idField
  match Entries.get? fields timeField with
  | none => return fields
  | some v => return Entries.put fields timeField (.time (← h.messageTime v))

/-- The texts that are highlighted in one field. -/
def fragments (h : Hit) (entry : Value × Value) : Except Failure (Value × List String) :=
  match entry.2 with
  | .list vs | .tuple vs =>
    if Value.areWritable vs then .ok (entry.1, vs.map Value.plain)
    else .error (.fault .unwritable)
  | _ =>
    if entry.1.isWritable then
      .error (h.unparsed ("highlight for '" ++ entry.1.plain ++ "' is not a list"))
    else .error (.fault .unwritable)

/-- The texts that are highlighted; nothing, or anything that counts as nothing, has none. -/
def readHighlights (h : Hit) : Except Failure (List (Value × List String)) := do
  let entries ← if h.highlights.isTrue then ofFaults h.highlights.items else .ok []
  entries.mapM h.fragments

/-- The message of a hit. -/
def read (h : Hit) : Except Failure Message := do
  let some id := nonempty? h.id | throw (h.unparsed "missing message id")
  let some index := nonempty? h.index | throw (h.unparsed "missing index name")
  match h.source with
  | .map source =>
    let fields ← h.fields source
    let highlights ← h.readHighlights
    return ⟨id, index, fields, highlights⟩
  | v => throw (h.unparsed ("source is " ++ v.kind ++ ", not an object"))

end Hit

end LogSearch
