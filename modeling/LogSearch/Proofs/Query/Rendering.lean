import LogSearch.Proofs.Flow
import LogSearch.Proofs.Sort.Normal
import LogSearch.Proofs.Spec
import LogSearch.Proofs.Value.Records
import LogSearch.Query.Body

/-!
# Queries and their bodies

The body of a query leaves out what asks for nothing: a size of zero, fields that are not named, sorts
where there are none, a highlight that is not wanted, and the type of a sort that is not known.  Still
it tells everything of the query.  What is left out is left out under different conditions, but always
under a name of its own, and so bodies are equal just when the queries agree in each part.

Main statement: `QueryParts.record_same_iff`.
-/

namespace LogSearch

open Entries (ofParts)
open Value (IsAlike)

/-- What a sort by a field is made of. -/
structure SortParts where
  field : String
  order : SortOrder
  unmappedType : Option Value

/-- What a highlight is made of: it names some fields, each once. -/
structure HighlightParts where
  query : Value
  fields : List String
  requireFieldMatch : Value
  fragmentSize : Value
  numberOfFragments : Value
  fields_ne : fields ≠ []
  distinct : fields.Nodup

/-- What a query is made of. -/
structure QueryParts where
  query : Value
  size : Int
  start : Int
  sourceIncludes : Option (List String)
  sorts : List SortParts
  highlight : Option HighlightParts

theorem optionRel_map_iff {α β γ δ : Type} {R : γ → δ → Prop} {f : α → γ} {g : β → δ} {a : Option α}
    {b : Option β} : Option.Rel R (a.map f) (b.map g) ↔ Option.Rel (fun x y => R (f x) (g y)) a b := by
  cases a with
  | none =>
    cases b with
    | none => exact ⟨fun _ => .none, fun _ => .none⟩
    | some y => exact ⟨nofun, nofun⟩
  | some x =>
    cases b with
    | none => exact ⟨nofun, nofun⟩
    | some y => rw [Option.map_some, Option.map_some, Option.rel_some_some, Option.rel_some_some]

theorem optionRel_eq_iff {α : Type} {a b : Option α} : Option.Rel (fun x y => x = y) a b ↔ a = b := by
  constructor
  · rintro (same | _)
    · rw [same]
    · rfl
  · rintro rfl
    cases a with
    | none => exact .none
    | some x => exact .some rfl

theorem SortOrder.keyword_inj {o p : SortOrder} (same : o.keyword = p.keyword) : o = p := by
  cases o <;> cases p <;> first | rfl | exact absurd same (by decide)

namespace SortParts

variable {s t : SortParts}

/-- The sort that is made of some parts. -/
def fieldSort (s : SortParts) : FieldSort := ⟨.str s.field, .order s.order, s.unmappedType⟩

/-- Two sorts are the same. -/
structure Agree (s t : SortParts) : Prop where
  field : s.field = t.field
  order : s.order = t.order
  unmappedType : Option.Rel IsAlike s.unmappedType t.unmappedType

/-- The options of a sort in the body of a query. -/
def options (s : SortParts) : Value :=
  .map (ofParts [("order", some (.str s.order.keyword)), ("unmapped_type", s.unmappedType)])

/-- A sort in the body of a query. -/
def body (s : SortParts) : Value := .map [(.str s.field, s.options)]

theorem record_fieldSort (s : SortParts) : s.fieldSort.record = .ok s.body := by
  obtain ⟨field, order, type?⟩ := s
  cases type? <;> rfl

theorem options_alike_iff : s.options.IsAlike t.options ↔
    s.order = t.order ∧ Option.Rel IsAlike s.unmappedType t.unmappedType := by
  have keyword : s.order.keyword = t.order.keyword ↔ s.order = t.order :=
    ⟨SortOrder.keyword_inj, fun same => same ▸ rfl⟩
  refine Iff.trans (Entries.ofParts_alike_iff (by simp) rfl) ?_
  simp [Value.isAlike_str, keyword]

theorem body_alike_iff : s.body.IsAlike t.body ↔ s.Agree t := by
  rw [body, body, Value.isAlike_map]
  simp only [List.mem_singleton, forall_eq, exists_eq_left, Value.isAlike_str, options_alike_iff]
  constructor
  · rintro ⟨-, field, order, type⟩
    exact ⟨field, order, type⟩
  · rintro ⟨field, order, type⟩
    exact ⟨rfl, field, order, type⟩

end SortParts

namespace HighlightParts

variable {h g : HighlightParts}

/-- The highlight that is made of some parts. -/
def highlight (h : HighlightParts) : Highlight where
  query := h.query
  fields := .tuple (h.fields.map .str)
  requireFieldMatch := h.requireFieldMatch
  fragmentSize := h.fragmentSize
  numberOfFragments := h.numberOfFragments

/-- Two highlights are the same, in whatever order they name their fields. -/
structure Agree (h g : HighlightParts) : Prop where
  query : h.query.IsAlike g.query
  fields : ∀ name, name ∈ h.fields ↔ name ∈ g.fields
  requireFieldMatch : h.requireFieldMatch.IsAlike g.requireFieldMatch
  fragmentSize : h.fragmentSize.IsAlike g.fragmentSize
  numberOfFragments : h.numberOfFragments.IsAlike g.numberOfFragments

/-- The options of each highlighted field in the body of a query. -/
def options (h : HighlightParts) : Value :=
  .map (ofParts [("fragment_size", some h.fragmentSize),
    ("number_of_fragments", some h.numberOfFragments)])

/-- A highlight in the body of a query. -/
def body (h : HighlightParts) : Value :=
  .map (ofParts [("require_field_match", some h.requireFieldMatch),
    ("highlight_query", some h.query),
    ("fields", some (.map (h.fields.map fun name => (.str name, h.options))))])

theorem record_highlight (h : HighlightParts) : h.highlight.record = .ok h.body := by
  have names : (Value.tuple (h.fields.map .str)).elementSet = .ok (h.fields.map .str) := by
    rw [Value.elementSet_texts, eraseDups_of_nodup h.distinct]
  unfold Highlight.record highlight
  rw [names]
  change Except.ok (Value.record _) = _
  rw [List.map_map]
  rfl

theorem options_alike_iff : h.options.IsAlike g.options ↔
    h.fragmentSize.IsAlike g.fragmentSize ∧ h.numberOfFragments.IsAlike g.numberOfFragments := by
  refine Iff.trans (Entries.ofParts_alike_iff (by simp) rfl) ?_
  simp

theorem body_alike_iff : h.body.IsAlike g.body ↔ h.Agree g := by
  refine Iff.trans (Entries.ofParts_alike_iff (by simp) rfl) ?_
  simp only [List.forall₂_cons, Option.rel_some_some, List.forall₂_nil_left_iff, and_true,
    Entries.map_const_alike_iff h.fields_ne h.distinct g.distinct, options_alike_iff]
  constructor
  · rintro ⟨required, query, fields, size, number⟩
    exact ⟨query, fields, required, size, number⟩
  · rintro ⟨query, fields, required, size, number⟩
    exact ⟨required, query, fields, size, number⟩

end HighlightParts

namespace QueryParts

variable {p q : QueryParts}

/-- The query that is made of some parts. -/
def backendQuery (p : QueryParts) : BackendQuery where
  query := p.query
  size := .int p.size
  start := .int p.start
  sourceIncludes := p.sourceIncludes.map fun names => .tuple (names.map .str)
  sorts := p.sorts.map SortParts.fieldSort
  highlight := p.highlight.map HighlightParts.highlight

/-- Two queries are the same: no fields at all are not the same as no named fields, and the sorts are the
same one by one. -/
structure Agree (p q : QueryParts) : Prop where
  query : p.query.IsAlike q.query
  size : p.size = q.size
  start : p.start = q.start
  sourceIncludes : p.sourceIncludes = q.sourceIncludes
  sorts : List.Forall₂ SortParts.Agree p.sorts q.sorts
  highlight : Option.Rel HighlightParts.Agree p.highlight q.highlight

/-- The number of messages in the body of a query: zero is left out. -/
def size? (p : QueryParts) : Option Value := if p.size = 0 then none else some (.int p.size)

/-- The fields that a message shall have, in the body of a query. -/
def sourceBody (names : List String) : Value :=
  .map (ofParts [("includes", some (.texts names)), ("excludes", some (.list []))])

/-- The sorts in the body of a query, if there are some. -/
def sort? (p : QueryParts) : Option Value :=
  if p.sorts = [] then none else some (.list (p.sorts.map SortParts.body))

/-- The body of a query. -/
def body (p : QueryParts) : Entries :=
  ofParts [("query", some p.query), ("from", some (.int p.start)), ("size", p.size?),
    ("_source", p.sourceIncludes.map sourceBody), ("sort", p.sort?),
    ("highlight", p.highlight.map HighlightParts.body), ("track_total_hits", some (.bool true))]

theorem record_sorts (sorts : List SortParts) :
    (sorts.map SortParts.fieldSort).mapM FieldSort.record = .ok (sorts.map SortParts.body) := by
  rw [mapM_eq_ok_iff, List.forall₂_map_left_iff, List.forall₂_map_right_iff, List.forall₂_same]
  exact fun s _ => s.record_fieldSort

/-- A part of a body with its name, if it is there. -/
def part (name : String) (v? : Option Value) : List (String × Value) :=
  (v?.map fun v => (name, v)).toList

theorem record_parts (query start : Value) (size? source? sort? highlight? : Option Value) :
    Value.record ([("query", query), ("from", start)] ++ part "size" size? ++ part "_source" source? ++
        part "sort" sort? ++ part "highlight" highlight? ++ [("track_total_hits", .bool true)]) =
      .map (ofParts [("query", some query), ("from", some start), ("size", size?),
        ("_source", source?), ("sort", sort?), ("highlight", highlight?),
        ("track_total_hits", some (.bool true))]) := by
  cases size? <;> cases source? <;> cases sort? <;> cases highlight? <;> rfl

theorem record_backendQuery (p : QueryParts) : p.backendQuery.record = .ok (.map p.body) := by
  obtain ⟨query, size, start, source?, sorts, highlight?⟩ := p
  have sizePart : (if (Value.int size).isTrue then [("size", Value.int size)] else []) =
      part "size" (if size = 0 then none else some (.int size)) := by
    by_cases zero : size = 0 <;> simp [Value.isTrue, zero, part]
  unfold body size? sort?
  rw [← record_parts, ← sizePart]
  unfold BackendQuery.record backendQuery
  -- Whether a part is left out is decided part by part, each time by another condition.
  cases source? <;> cases sorts <;> cases highlight? <;>
    simp only [Option.map_some, Option.map_none, record_sorts, HighlightParts.record_highlight] <;> rfl

theorem size?_rel_iff : Option.Rel IsAlike p.size? q.size? ↔ p.size = q.size := by
  unfold size?
  by_cases zero : p.size = 0
  · by_cases zero' : q.size = 0
    · rw [if_pos zero, if_pos zero', zero, zero']
      exact ⟨fun _ => rfl, fun _ => .none⟩
    · rw [if_pos zero, if_neg zero', zero]
      exact ⟨nofun, fun same => absurd same.symm zero'⟩
  · by_cases zero' : q.size = 0
    · rw [if_neg zero, if_pos zero', zero']
      exact ⟨nofun, fun same => absurd same zero⟩
    · rw [if_neg zero, if_neg zero', Option.rel_some_some, Value.isAlike_int]

theorem sourceBody_alike_iff {names others : List String} :
    (sourceBody names).IsAlike (sourceBody others) ↔ names = others := by
  refine Iff.trans (Entries.ofParts_alike_iff (by simp) rfl) ?_
  simp [Value.isAlike_texts, Value.isAlike_list]

theorem sort?_rel_iff :
    Option.Rel IsAlike p.sort? q.sort? ↔ List.Forall₂ SortParts.Agree p.sorts q.sorts := by
  unfold sort?
  cases p.sorts with
  | nil =>
    cases q.sorts with
    | nil => exact ⟨fun _ => .nil, fun _ => .none⟩
    | cons s rest => exact ⟨nofun, nofun⟩
  | cons s rest =>
    cases q.sorts with
    | nil => exact ⟨nofun, nofun⟩
    | cons t others =>
      rw [if_neg (List.cons_ne_nil _ _), if_neg (List.cons_ne_nil _ _), Option.rel_some_some,
        Value.isAlike_list, List.forall₂_map_left_iff, List.forall₂_map_right_iff]
      simp only [SortParts.body_alike_iff]

theorem body_alike_iff : (Value.map p.body).IsAlike (.map q.body) ↔ p.Agree q := by
  refine Iff.trans (Entries.ofParts_alike_iff (by simp) rfl) ?_
  simp only [List.forall₂_cons, Option.rel_some_some, List.forall₂_nil_left_iff, and_true,
    Value.isAlike_int, size?_rel_iff, sort?_rel_iff, optionRel_map_iff, sourceBody_alike_iff,
    HighlightParts.body_alike_iff]
  constructor
  · rintro ⟨query, start, size, source, sorts, highlight, -⟩
    exact ⟨query, size, start, optionRel_eq_iff.1 source, sorts, highlight⟩
  · rintro ⟨query, size, start, source, sorts, highlight⟩
    exact ⟨query, start, size, optionRel_eq_iff.2 source, sorts, highlight, rfl⟩

theorem get?_body_size (p : QueryParts) : Entries.get? p.body (.str "size") = p.size? := by
  unfold body
  rw [Entries.get?_ofParts_ne _ (by decide), Entries.get?_ofParts_ne _ (by decide),
    Entries.get?_ofParts_self _ (by simp)]

/-- Every query has a body, and the bodies of two queries are equal just when the queries are the same:
in what is searched for, in size and start, in the fields that are named, if any are, in each sort and in
what is highlighted.  A body names its size, unless that is zero. -/
theorem record_same_iff (p q : QueryParts) :
    ∃ body other, p.backendQuery.record = .ok (.map body) ∧ q.backendQuery.record = .ok (.map other) ∧
      ((Value.map body).same (.map other) = true ↔ p.Agree q) ∧
      Entries.get? body (.str "size") = if p.size = 0 then none else some (.int p.size) :=
  ⟨p.body, q.body, p.record_backendQuery, q.record_backendQuery, body_alike_iff, p.get?_body_size⟩

/-- Two queries whose highlights name the same fields in another order have the same body, and one that also
wants ten messages has another. -/
theorem record_same_iff_reordered :
    let query : Value := .map [(.str "match_all", .map [])]
    let first : QueryParts := ⟨query, 0, 0, none, [],
      some ⟨query, ["message", "source"], .bool false, .int 0, .int 0, by decide, by decide⟩⟩
    let second : QueryParts := ⟨query, 0, 0, none, [],
      some ⟨query, ["source", "message"], .bool false, .int 0, .int 0, by decide, by decide⟩⟩
    let third : QueryParts := { second with size := 10 }
    ∃ a b c, first.backendQuery.record = .ok a ∧ second.backendQuery.record = .ok b ∧
      third.backendQuery.record = .ok c ∧ a.same b = true ∧ a.same c = false := by
  intro query first second third
  obtain ⟨a, b, isA, isB, second_iff, -⟩ := record_same_iff first second
  obtain ⟨a', c, isA', isC, third_iff, -⟩ := record_same_iff first third
  obtain rfl := Value.map.inj (Except.ok.inj (isA.symm.trans isA'))
  have same : query.IsAlike query := rfl
  have fields : ∀ name, name ∈ ["message", "source"] ↔ name ∈ ["source", "message"] := by
    simp [or_comm]
  have highlights : HighlightParts.Agree
      ⟨query, ["message", "source"], .bool false, .int 0, .int 0, by decide, by decide⟩
      ⟨query, ["source", "message"], .bool false, .int 0, .int 0, by decide, by decide⟩ :=
    ⟨same, fields, rfl, rfl, rfl⟩
  refine ⟨.map a, .map b, .map c, isA, isB, isC, second_iff.2 ?_, ?_⟩
  · exact ⟨same, rfl, rfl, rfl, .nil, .some highlights⟩
  · exact Bool.eq_false_iff.2 fun same => absurd (third_iff.1 same).size (by decide)

end QueryParts

end LogSearch
