import LogSearch.CommandLine.Command
import LogSearch.Host
import LogSearch.Settings
import LogSearch.Sort.Written

/-!
# The search that arguments ask for

Arguments are turned into a search one after the other: first the time range, then the sorts, and in
the end what counts for all of it.  The first that is wrong is told.

Renders `parse_time` (`readTime`), `parse_sort` (`readSort`) and `build_spec`
(`SearchArguments.spec`).
-/

namespace LogSearch.CommandLine

/-- Writes every `Z` as the offset of UTC. -/
def withUtcOffset (text : String) : String :=
  String.ofList (text.toList.flatMap fun c => if c = 'Z' then "+00:00".toList else [c])

/-- Reads a time. -/
def readTime (text : String) : Except Fault DateTime :=
  (Iso.read (withUtcOffset text)).mapError .iso

/-- Splits a text at every comma. -/
def splitCommas : List Char → List (List Char)
  | [] => [[]]
  | c :: r =>
    match splitCommas r with
    | [] => [[c]]
    | first :: rest => if c = ',' then [] :: first :: rest else (c :: first) :: rest

/-- Reads a list of fields, without blanks around them and without empty ones. -/
def readFields (text : String) : List String :=
  ((splitCommas text.toList).map fun cs => String.ofList (Text.trim cs)).filter (!·.isEmpty)

/-- An argument that counts as given, which an empty one does not. -/
def given? (argument : Option String) : Option String := argument.filter (!·.isEmpty)

/-- Reads a sort, which must be given as text. -/
def readSort : Value → Except Failure SortClause
  | .str text => SortClause.ofText text
  | .bytes _ => Fault.raise (.notPartOfBytes "str")
  | v => Fault.raise (.noAttribute v.fullKind "rpartition")

/-- How long before its end a time range starts that has no start of its own: five minutes. -/
def usualSpan : Nat := 300 * microsPerSecond

namespace SearchArguments

variable {σ : Type}

/-- The end of the time range: the present time unless it is given. -/
def lastTime (a : SearchArguments) (host : Host σ) : Flow σ DateTime :=
  match given? a.last with
  | some text => Flow.ofFault (readTime text)
  | none => host.now

/-- The start of a time range with this end. -/
def firstTime (a : SearchArguments) (last : DateTime) : Except Fault DateTime :=
  match given? a.first with
  | some text => readTime text
  | none =>
    match last.earlier? usualSpan with
    | some first => .ok first
    | none => .error .outsideCalendar

/-- The search that arguments ask for. -/
def spec (a : SearchArguments) (host : Host σ) (settings : Settings) : Flow σ SearchSpec := do
  let last ← a.lastTime host
  let first ← Flow.ofFault (a.firstTime last)
  let id ← match given? a.id with
    | some id => pure id
    | none => host.newId
  let timeRange ← Flow.ofFault (TimeRange.ofTimes first last)
  let sorts ← Flow.ofExcept (a.sorts.mapM readSort)
  let streams ← Flow.ofFault (Value.list a.streams).elementSet
  Flow.ofFault (SearchSpec.ofDraft
    { id := .str id
      timeRange := timeRange
      queryString := .str a.query
      limit := match a.limit with
        | .null => .int settings.limit
        | limit => limit
      offset := a.offset
      fields := .texts (((given? a.fields).map readFields).getD [])
      sorts := sorts.map .clause
      streams := .list streams
      name := a.name })

end SearchArguments

end LogSearch.CommandLine
