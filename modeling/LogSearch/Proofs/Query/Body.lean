import LogSearch.Proofs.Query.Build
import LogSearch.Proofs.Sort.Normal
import LogSearch.Proofs.Spec
import LogSearch.Proofs.Time.Milliseconds
import LogSearch.Proofs.Value.Sorted

/-!
# The body of a query that is built

Each part of a body depends on one part of the search: what is searched for on the text, the time
range and the streams, the size on the limit, the fields on the fields, and the highlighting on the
text.  The sorts are those of the normal form, each with the type that its field is known to have.
`record_combined` puts a body together from its parts.

Main statement: `SearchTerms.body_of_build`, which gives the whole body of the query for any terms.
-/

namespace LogSearch

/-- A sort by a clause in the body of a query. -/
def SortClause.directive (c : SortClause) (type : Option Value) : Value :=
  .record [(c.field, .record (("order", .str (if c.order = .asc then "asc" else "desc")) ::
    match type with
    | none => []
    | some type => [("unmapped_type", type)]))]

theorem FieldSort.record_withType (c : SortClause) (type : Option Value) :
    (c.withType type).record = .ok (c.directive type) := by
  obtain ⟨field, order⟩ := c
  cases order <;> cases type <;> rfl

/-- A bound of a time range as a filter names it: the date, and the time of day with its milliseconds.  The
year has as many digits as it needs. -/
def TimeRange.boundText (t : DateTime) : String :=
  let two := Text.padded 2
  String.ofList (Text.decimal t.date.year ++ '-' :: (two t.date.month ++ '-' :: (two t.date.day ++
    ' ' :: (two t.clock.hour ++ ':' :: (two t.clock.minute ++ ':' :: (two t.clock.second ++
      '.' :: Text.padded 3 (t.clock.micro / 1000)))))))

/-- The filter that names the bounds of a time range, and the format that they are given in. -/
def TimeRange.filter (range : TimeRange) : Value :=
  .record [("range", .record [("timestamp", .record [("gte", .str (boundText range.first)),
    ("lte", .str (boundText range.last)), ("format", .str "yyyy-MM-dd HH:mm:ss.SSS")])])]

namespace QueryBuilder

theorem rangeFilter_eq (range : TimeRange) : rangeFilter range = range.filter := by
  have written (t : DateTime) : Stamp.write t = TimeRange.boundText t :=
    congrArg String.ofList (Stamp.milliChars_eq t)
  unfold rangeFilter TimeRange.filter
  rw [written, written]

/-- The query for a text: every message for a blank or a star, and else what the text finds. -/
def textBody (text : String) : Value :=
  let stripped := Text.trim text.toList
  if stripped = [] ∨ stripped = ['*'] then .record [("match_all", .map [])]
  else .record [("query_string",
    .record [("query", .str text), ("allow_leading_wildcard", .bool true)])]

/-- The filter that names streams in order, if there are any. -/
def streamBody (streams : List String) : List Value :=
  if streams = [] then []
  else [.record [("terms", .record [("streams", .texts (Sorted.stable Text.codes streams))])]]

theorem textQuery_str (text : String) : textQuery (.str text) = .ok (textBody text) := by
  simp only [textQuery, textBody, matchAll, matchText, Bool.or_eq_true, List.isEmpty_iff,
    beq_iff_eq]
  split <;> rfl

theorem streamFilter_texts (streams : List String) :
    streamFilter (streams.map .str) = .ok (streamBody streams) := by
  cases streams with
  | nil => rfl
  | cons name rest =>
    unfold streamFilter
    rw [Sorted.sort_texts]
    rfl

/-- What a text in a time range and some streams searches for. -/
def baseBody (range : TimeRange) (text : String) (streams : List String) : Value :=
  .record [("bool", .record [("must", textBody text),
    ("filter", .list (range.filter :: streamBody streams))])]

theorem baseQuery_of_texts {spec : SearchSpec} {text : String} {streams : List String}
    (ht : spec.queryString = .str text) (hs : spec.streams = streams.map .str) :
    baseQuery spec = .ok (baseBody spec.timeRange text streams) := by
  unfold baseQuery
  rw [ht, hs, streamFilter_texts, textQuery_str, rangeFilter_eq]
  rfl

/-- The highlighting of what a text finds, if any is wanted. -/
def highlightOf (highlighting : Bool) (text : String) : Option Highlight :=
  if highlighting then some { query := textBody text } else none

theorem highlight?_str (b : QueryBuilder) (text : String) :
    b.highlight? (.str text) = .ok (highlightOf b.highlighting text) := by
  unfold highlight? highlightOf highlightFor
  rw [textQuery_str]
  cases b.highlighting <;> rfl

/-- The part of a body that asks for a number of messages; none leaves it to the backend. -/
def sizePart (limit : Value) : List (String × Value) :=
  if limit.isTrue then [("size", limit)] else []

/-- The part of a body that asks for some fields only. -/
def sourcePart (fields : List Value) : List (String × Value) :=
  if fields.isEmpty then []
  else [("_source", .record [("includes", .list fields), ("excludes", .list [])])]

/-- The part of a body that highlights what a text finds in every field, all of it. -/
def highlightPart (highlighting : Bool) (text : String) : List (String × Value) :=
  if highlighting then
    [("highlight", .record [("require_field_match", .bool false), ("highlight_query", textBody text),
      ("fields", .record [("*",
        .record [("fragment_size", .int 0), ("number_of_fragments", .int 0)])])])]
  else []

theorem record_combined {spec : SearchSpec} {base : Value} {sorts : List FieldSort}
    {records : List Value} (ne : sorts ≠ []) (shown : sorts.mapM FieldSort.record = .ok records)
    (highlighting : Bool) (text : String) :
    (combined spec base sorts (highlightOf highlighting text)).record =
      .ok (.record ([("query", base), ("from", spec.offset)] ++ sizePart spec.limit ++
        sourcePart spec.fields ++ [("sort", .list records)] ++ highlightPart highlighting text ++
        [("track_total_hits", .bool true)])) := by
  have some : sorts.isEmpty = false := by simpa using ne
  unfold BackendQuery.record combined sizePart sourcePart highlightPart highlightOf
  simp only [some, shown]
  cases spec.fields.isEmpty with
  | true => cases highlighting <;> rfl
  | false => cases highlighting <;> rfl

/-- A query has a body, whatever types its sorts have. -/
theorem exists_record_combined (spec : SearchSpec) (base : Value) {clauses : List SortClause}
    {sorts : List FieldSort} (ne : clauses ≠ [])
    (each : List.Forall₂ (fun c s => ∃ type, s = SortClause.withType c type) clauses sorts)
    (highlighting : Bool) (text : String) :
    ∃ body, (combined spec base sorts (highlightOf highlighting text)).record = .ok body := by
  have shown : ∃ records, List.Forall₂ (fun s v => FieldSort.record s = .ok v) sorts records := by
    clear ne
    induction each with
    | nil => exact ⟨[], .nil⟩
    | @cons c s _ _ h _ ih =>
      obtain ⟨type, rfl⟩ := h
      obtain ⟨records, others⟩ := ih
      exact ⟨c.directive type :: records, .cons (FieldSort.record_withType c type) others⟩
  obtain ⟨records, shown⟩ := shown
  have some : sorts ≠ [] := by
    rintro rfl
    cases each
    exact ne rfl
  exact ⟨_, record_combined some (mapM_eq_ok_iff.2 shown) highlighting text⟩

end QueryBuilder

/-- The types of fields as a function tells them. -/
def FieldTypes.ofFunction {σ : Type} (known : List Value → Value → Option String) :
    FieldTypes σ where
  resolve streams field := pure (.ofOption ((known streams field).map .str))

namespace SearchTerms

variable {σ : Type}

/-- The sorts of a query for some terms: the latest messages first, unless others are asked for. -/
def order (t : SearchTerms) : List SortClause :=
  if t.sorts = [] then [⟨"timestamp", .desc⟩]
  else SortNames.withTieBreak {} (SortClause.withoutRepeats t.sorts)

/-- The type that a sort by a field declares, where `known` tells the types of fields. -/
def sortType (t : SearchTerms) (known : List Value → Value → Option String) (field : String) :
    Option Value :=
  if field = "gl2_message_id" then some (.str "keyword")
  else ((known (t.streams.eraseDups.map .str) (.str field)).filter (· ≠ "")).map .str

/-- The body of the query for some terms. -/
def body (t : SearchTerms) (highlighting : Bool) (known : List Value → Value → Option String) :
    Value :=
  .record ([("query", QueryBuilder.baseBody t.timeRange t.text t.streams.eraseDups),
      ("from", .int t.offset)] ++
    (if t.limit = 0 then [] else [("size", .int t.limit)]) ++
    (if t.fields = [] then []
      else [("_source", .record [("includes", .texts t.fields.eraseDups), ("excludes", .list [])])]) ++
    [("sort", .list (t.order.map fun c => c.directive (t.sortType known c.field)))] ++
    QueryBuilder.highlightPart highlighting t.text ++
    [("track_total_hits", .bool true)])

theorem mapM_check_spec (t : SearchTerms) : t.spec.sorts.mapM SortRequest.check = .ok t.sorts := by
  apply mapM_eq_ok_iff.2
  apply List.forall₂_map_left_iff.2
  apply List.forall₂_same.2
  intro c hc
  have named : Text.allBlank c.field = false := by simpa [SortClause.isNamed] using t.named c hc
  exact SortClause.check_str named c.order

theorem normalized_sorts (t : SearchTerms) : SortNames.normalized {} t.sorts = t.order := by
  unfold order
  split
  · rename_i none
    rw [none]
    rfl
  · rename_i some
    exact SortNames.normalized_eq some

theorem sizePart_spec (t : SearchTerms) :
    QueryBuilder.sizePart t.spec.limit = if t.limit = 0 then [] else [("size", .int t.limit)] := by
  unfold QueryBuilder.sizePart spec
  by_cases zero : t.limit = 0
  · simp [Value.isTrue, zero]
  · simp [Value.isTrue, zero]

theorem sourcePart_spec (t : SearchTerms) :
    QueryBuilder.sourcePart t.spec.fields = if t.fields = [] then []
      else [("_source",
        .record [("includes", .texts t.fields.eraseDups), ("excludes", .list [])])] := by
  unfold QueryBuilder.sourcePart spec
  cases t.fields with
  | nil => rfl
  | cons name rest =>
    rw [if_neg (List.cons_ne_nil name rest), List.eraseDups_cons]
    rfl

theorem ends_fieldSort (t : SearchTerms) (known : List Value → Value → Option String)
    (c : SortClause) (w : σ) :
    Flow.Ends (QueryBuilder.fieldSort (.ofFunction known) t.spec c) w
      (.ok (c.withType (t.sortType known c.field))) w := by
  by_cases sequence : c.field = "gl2_message_id"
  · have type : t.sortType known c.field = some (.str "keyword") := if_pos sequence
    rw [type]
    exact QueryBuilder.ends_fieldSort_sequence sequence w
  · let answer := known (t.streams.eraseDups.map .str) (.str c.field)
    have type : (if (Value.ofOption (answer.map .str)).isTrue then
        some (Value.ofOption (answer.map .str)) else none) = t.sortType known c.field := by
      unfold sortType
      rw [if_neg sequence]
      change _ = (answer.filter (· ≠ "")).map Value.str
      cases answer with
      | none => rfl
      | some name => by_cases empty : name = "" <;> simp [Value.ofOption, Value.isTrue, empty]
    rw [← type]
    exact QueryBuilder.ends_fieldSort_found sequence (.pure _ w)

/-- The query for some terms has the body that they ask for. -/
theorem body_of_build (t : SearchTerms) (highlighting : Bool)
    (known : List Value → Value → Option String) (w : σ) :
    ∃ query, SearchSpec.ofDraft t.draft = .ok t.spec ∧
      Flow.Ends (QueryBuilder.build { highlighting } t.spec (.ofFunction known)) w (.ok query) w ∧
      query.record = .ok (t.body highlighting known) := by
  let base := QueryBuilder.baseBody t.timeRange t.text t.streams.eraseDups
  let sorts := t.order.map fun c => c.withType (t.sortType known c.field)
  have wanted : QueryBuilder.baseQuery t.spec = .ok base :=
    QueryBuilder.baseQuery_of_texts rfl rfl
  have found : Flow.Ends ((SortNames.normalized {} t.sorts).mapM
      (QueryBuilder.fieldSort (.ofFunction known) t.spec)) w (.ok sorts) w := by
    rw [normalized_sorts]
    exact .mapM fun c _ => t.ends_fieldSort known c w
  have some : sorts ≠ [] := by
    have some : t.order ≠ [] := t.normalized_sorts ▸ SortNames.normalized_ne_nil
    simpa [sorts] using some
  have records : sorts.mapM FieldSort.record =
      .ok (t.order.map fun c => c.directive (t.sortType known c.field)) := by
    apply mapM_eq_ok_iff.2
    rw [List.forall₂_map_left_iff, List.forall₂_map_right_iff, List.forall₂_same]
    intro c _
    exact FieldSort.record_withType c _
  have shown : (QueryBuilder.combined t.spec base sorts
      (QueryBuilder.highlightOf highlighting t.text)).record =
      .ok (t.body highlighting known) := by
    rw [QueryBuilder.record_combined some records, t.sizePart_spec, t.sourcePart_spec]
    rfl
  refine ⟨_, t.ofDraft_draft, ?_, shown⟩
  exact QueryBuilder.ends_build (QueryBuilder.sortsBy_default highlighting) t.mapM_check_spec wanted
    found (QueryBuilder.highlight?_str _ t.text) shown

/-- A query with every part, and with repeats that are dropped. -/
theorem body_of_build_full :
    let first : DateTime := ⟨63844891200000999, some .utc, by decide⟩
    let last : DateTime := ⟨63844891500250000, some .utc, by decide⟩
    let t : SearchTerms :=
      { id := "s", timeRange := ⟨first, last, rfl, rfl, by decide⟩, text := "level:3", limit := 50
        offset := 10, fields := ["source", "message", "source"]
        sorts := [⟨"level", .asc⟩, ⟨"timestamp", .desc⟩, ⟨"level", .desc⟩], streams := ["b", "a", "b"]
        named := by decide }
    let known (_ : List Value) (field : Value) : Option String :=
      if field.alike (.str "level") then some "long" else none
    let wanted : Value := .record [("query_string",
      .record [("query", .str "level:3"), ("allow_leading_wildcard", .bool true)])]
    ∃ query, Flow.Ends (QueryBuilder.build { highlighting := true } t.spec (.ofFunction known)) ()
        (.ok query) () ∧
      query.record = .ok (.record [
        ("query", .record [("bool", .record [("must", wanted), ("filter", .list [
          .record [("range", .record [("timestamp", .record [
            ("gte", .str "2024-03-01 12:00:00.000"), ("lte", .str "2024-03-01 12:05:00.250"),
            ("format", .str "yyyy-MM-dd HH:mm:ss.SSS")])])],
          .record [("terms", .record [("streams", .texts ["a", "b"])])]])])]),
        ("from", .int 10),
        ("size", .int 50),
        ("_source", .record [("includes", .texts ["source", "message"]), ("excludes", .list [])]),
        ("sort", .list [
          .record [("level", .record [("order", .str "asc"), ("unmapped_type", .str "long")])],
          .record [("timestamp", .record [("order", .str "desc")])],
          .record [("gl2_message_id",
            .record [("order", .str "desc"), ("unmapped_type", .str "keyword")])]]),
        ("highlight", .record [("require_field_match", .bool false), ("highlight_query", wanted),
          ("fields", .record [("*",
            .record [("fragment_size", .int 0), ("number_of_fragments", .int 0)])])]),
        ("track_total_hits", .bool true)]) := by
  intro first last t known wanted
  obtain ⟨query, -, built, record⟩ := body_of_build t true known ()
  refine ⟨query, built, record.trans (congrArg Except.ok ?_)⟩
  have bounds : TimeRange.boundText first = "2024-03-01 12:00:00.000" ∧
      TimeRange.boundText last = "2024-03-01 12:05:00.250" := ⟨by decide +kernel, by decide +kernel⟩
  have streams : Sorted.stable Text.codes ["b", "a"] = ["a", "b"] :=
    Sorted.stable_codes_eq (.swap "a" "b" [])
      (List.pairwise_pair.2 (le_of_lt (show Text.Before "a" "b" by decide)))
  have once : t.streams.eraseDups = ["b", "a"] ∧ t.fields.eraseDups = ["source", "message"] :=
    ⟨by decide, by decide⟩
  have sorts : t.order = [⟨"level", .asc⟩, ⟨"timestamp", .desc⟩, ⟨"gl2_message_id", .desc⟩] := by decide
  have text : QueryBuilder.textBody t.text = wanted := if_neg (by decide)
  unfold body QueryBuilder.baseBody QueryBuilder.streamBody QueryBuilder.highlightPart TimeRange.filter
  rw [bounds.1, bounds.2, once.1, once.2, streams, sorts, text]
  rfl

end SearchTerms

end LogSearch
