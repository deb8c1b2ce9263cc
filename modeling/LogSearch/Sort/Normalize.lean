import LogSearch.Sort.Clause

/-!
# The sorts of a query

Of several clauses on one field the first counts.  A query without clauses is sorted by time, latest
first.  A clause on the time leaves messages of the same time in no order, so a clause on the
sequence of their arrival follows it in the same direction, unless there is one anywhere.

`SortNames.normalized` is that rule for two names.  What a caller gives in their place need not be
names, and is checked where a clause is made of it; `normalize` takes requests that nobody checked
beside.

Renders `SortNormalizer`: `normalize` (`normalizeClauses`), `_first_per_field`
(`SortClause.firsts`), `_find` and `default_sort`.

Main statement: with names that are not blank, checking finds nothing wrong.
-/

namespace LogSearch

/-- The names of the two fields that have a part in every query's sorts. -/
structure SortNames where
  /-- The time of a message. -/
  timestamp : String := "timestamp"
  /-- The place of a message in the sequence of arrival. -/
  sequence : String := "gl2_message_id"
deriving Repr, DecidableEq

/-- What is given as the names of the two fields that have a part in every query's sorts. -/
structure SortFields where
  timestamp : Value := .str "timestamp"
  sequence : Value := .str "gl2_message_id"

/-- Two names as they are given. -/
def SortNames.fields (names : SortNames) : SortFields := ⟨.str names.timestamp, .str names.sequence⟩

/-- The items whose key is not that of an earlier one; `seen` holds the keys before the first. -/
def firstPerKey {α κ : Type} (same : κ → κ → Bool) (key : α → κ) (seen : List κ) :
    List α → List α
  | [] => []
  | x :: r =>
    if seen.any fun k => same k (key x) then firstPerKey same key seen r
    else x :: firstPerKey same key (key x :: seen) r

/-- Puts an item right after the first one with property `p`. -/
def insertAfter {α : Type} (p : α → Bool) (new : α) : List α → List α
  | [] => []
  | x :: r => if p x then x :: new :: r else x :: insertAfter p new r

/-- The first clause on each field. -/
def SortClause.firsts (clauses : List SortClause) : List SortClause :=
  firstPerKey (· == ·) SortClause.field [] clauses

/-- Whether a clause is on the field that is given. -/
def SortClause.isOn (field : Value) (c : SortClause) : Bool := (Value.str c.field).same field

@[simp] theorem SortClause.isOn_str (name : String) (c : SortClause) :
    c.isOn (.str name) = (c.field == name) := Value.same_str c.field name

namespace SortNames

/-- The clause that keeps messages of one time in order, if one is missing. -/
def tieBreak? (names : SortNames) (clauses : List SortClause) : Option SortClause :=
  match clauses.find? (·.field == names.timestamp) with
  | none => none
  | some c =>
    if clauses.any (·.field == names.sequence) then none else some ⟨names.sequence, c.order⟩

/-- The sorts of a query. -/
def normalized (names : SortNames) (clauses : List SortClause) : List SortClause :=
  let clauses := SortClause.firsts clauses
  if clauses.isEmpty then [⟨names.timestamp, .desc⟩]
  else
    match names.tieBreak? clauses with
    | none => clauses
    | some c => insertAfter (·.field == names.timestamp) c clauses

end SortNames

namespace SortFields

/-- The field and the direction of the clause that keeps messages of one time in order, if one is
missing. -/
def tieBreak? (fields : SortFields) (clauses : List SortClause) : Option (Value × SortOrder) :=
  match clauses.find? (·.isOn fields.timestamp) with
  | none => none
  | some c =>
    if clauses.any (·.isOn fields.sequence) then none else some (fields.sequence, c.order)

/-- The sorts of a query, after checking the clause that is added. -/
def normalizeClauses (fields : SortFields) (clauses : List SortClause) :
    Except Failure (List SortClause) :=
  let firsts := SortClause.firsts clauses
  if firsts.isEmpty then (SortClause.check fields.timestamp (.order .desc)).map fun c => [c]
  else
    match fields.tieBreak? firsts with
    | none => .ok firsts
    | some (field, order) =>
      (SortClause.check field (.order order)).map fun c =>
        insertAfter (·.isOn fields.timestamp) c firsts

/-- The first requests on each field, of requests that nobody checked. -/
def firstRequests (seen : List Value) : List SortRequest → Except Fault (List SortRequest)
  | [] => .ok []
  | x :: r => do
    let field ← x.field
    field.fixed
    if Value.isIn field seen then firstRequests seen r
    else return x :: (← firstRequests (field :: seen) r)

/-- The sorts of a query from requests that nobody checked. -/
def normalize (fields : SortFields) (requests : List SortRequest) :
    Except Failure (List SortRequest) := do
  let firsts ← ofFaults (firstRequests [] requests)
  let isOn (field : Value) (x : SortRequest) : Bool := x.key.same field
  if firsts.isEmpty then return [.clause (← SortClause.check fields.timestamp (.order .desc))]
  match firsts.find? (isOn fields.timestamp) with
  | none => return firsts
  | some x =>
    if firsts.any (isOn fields.sequence) then return firsts
    let added ← SortClause.check fields.sequence x.order
    return insertAfter (isOn fields.timestamp) (.clause added) firsts

theorem tieBreak?_fields (names : SortNames) (clauses : List SortClause) :
    names.fields.tieBreak? clauses =
      (names.tieBreak? clauses).map fun c => (.str c.field, c.order) := by
  simp only [tieBreak?, SortNames.tieBreak?, SortNames.fields, SortClause.isOn_str]
  cases clauses.find? (·.field == names.timestamp) with
  | none => rfl
  | some c => dsimp only; split <;> rfl

/-- With names that are not blank, checking finds nothing wrong. -/
theorem normalizeClauses_of_named {names : SortNames} (ht : Text.allBlank names.timestamp = false)
    (hs : Text.allBlank names.sequence = false) (clauses : List SortClause) :
    names.fields.normalizeClauses clauses = .ok (names.normalized clauses) := by
  unfold normalizeClauses SortNames.normalized
  dsimp only
  rw [tieBreak?_fields]
  split
  · simp only [SortNames.fields, SortClause.check_str ht]; rfl
  · cases h : names.tieBreak? (SortClause.firsts clauses) with
    | none => rfl
    | some c =>
      have hf : c.field = names.sequence := by
        unfold SortNames.tieBreak? at h
        split at h
        · cases h
        · split at h
          · cases h
          · obtain rfl := Option.some.inj h; rfl
      have hb : Text.allBlank c.field = false := hf ▸ hs
      simp only [Option.map_some, SortClause.check_str hb, SortNames.fields, SortClause.isOn_str]
      rfl

end SortFields

end LogSearch
