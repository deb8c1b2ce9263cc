import LogSearch.Spec

/-!
# The terms of a search

A caller may hand in parts of any kind for a search.  `SearchTerms` are what a search is meant to be
made of: texts where a text belongs, counts that are not negative, and sorts that are clauses on
fields with names.  They always make a request, in which fields and streams stand without repeats.

Main statement: `ofDraft_draft`.
-/

namespace LogSearch

theorem Value.elementSet_texts (names : List String) :
    (Value.tuple (names.map .str)).elementSet = .ok (names.eraseDups.map .str) := by
  have fixed : (names.map Value.str).forM Value.fixed = .ok () := by
    induction names with
    | nil => rfl
    | cons name rest ih => exact ih
  unfold Value.elementSet
  simp only [Value.elements, bind, Except.bind, fixed, Value.distinct_texts]
  rfl

/-- What a search is made of. -/
structure SearchTerms where
  id : String
  timeRange : TimeRange
  text : String := ""
  limit : Nat := 0
  offset : Nat := 0
  fields : List String := []
  sorts : List SortClause := []
  streams : List String := []
  decorators : List DecoratorConfig := []
  name : Option String := none
  /-- Every clause is on a field with a name. -/
  named : ∀ c ∈ sorts, c.isNamed = true := by simp

namespace SearchTerms

/-- The terms of a search as a caller hands them in. -/
def draft (t : SearchTerms) : SearchDraft where
  id := .str t.id
  timeRange := t.timeRange
  queryString := .str t.text
  limit := .int t.limit
  offset := .int t.offset
  fields := .tuple (t.fields.map .str)
  sorts := t.sorts.map .clause
  streams := .tuple (t.streams.map .str)
  decorators := t.decorators
  name := .ofOption (t.name.map .str)

/-- The request that the terms of a search make. -/
def spec (t : SearchTerms) : SearchSpec where
  id := .str t.id
  timeRange := t.timeRange
  queryString := .str t.text
  limit := .int t.limit
  offset := .int t.offset
  fields := t.fields.eraseDups.map .str
  sorts := t.sorts.map .clause
  streams := t.streams.eraseDups.map .str
  decorators := t.decorators
  name := .ofOption (t.name.map .str)

theorem checkCount_natural (what : String) (n : Nat) :
    SearchSpec.checkCount what (.int n) = .ok () := by
  have less : (Value.int n).less (.int 0) = .ok false := by
    simp [Value.less, Value.atomLess, Value.int?]
  unfold SearchSpec.checkCount
  simp [less, bind, Except.bind, pure, Except.pure]

/-- The terms of a search make a request. -/
theorem ofDraft_draft (t : SearchTerms) : SearchSpec.ofDraft t.draft = .ok t.spec := by
  unfold SearchSpec.ofDraft draft
  simp only [checkCount_natural, Value.elementSet_texts, bind, Except.bind]
  rfl

end SearchTerms

end LogSearch
