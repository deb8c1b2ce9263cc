import LogSearch.Failure
import LogSearch.Value.Access
import LogSearch.Value.Hash

/-!
# Sort clauses

A clause sorts by one field in one direction.  What a caller hands in need not be a clause: a
`SortRequest` is a clause, a field and a direction that nobody checked, or some other value.  Its
`check` gives the clause or tells what is wrong with it.

Two clauses count as the same when they sort by the same field, whatever the direction.

Renders `SortClause`: `__post_init__` (`check`), `create`, `__eq__` (`SortRequest.same`) and
`__hash__` (`SortRequest.hashCode`); `SortOrder.parse`; `QueryBuilder._validate_sort`
(`SortRequest.check`).
-/

namespace LogSearch

/-- A sort by one field. -/
structure SortClause where
  field : String
  order : SortOrder
deriving Repr, DecidableEq, Inhabited

/-- The direction that a value is or names. -/
def SortOrder.ofValue? : Value → Option SortOrder
  | .order o => some o
  | .str s => ofText? s
  | _ => none

/-- The direction that a value is or names, or a report that it does neither. -/
def SortOrder.parse (v : Value) : Except Failure SortOrder :=
  match ofValue? v with
  | some o => .ok o
  | none =>
    .error (Report.failure (.invalidSort .null v "sort order must be ASC or DESC"))

namespace SortClause

/-- Whether the field of a clause has a name. -/
def isNamed (c : SortClause) : Bool := !Text.allBlank c.field

/-- The clause of a field and a direction: the field must be a text that is not blank. -/
def check (field order : Value) : Except Failure SortClause :=
  match field with
  | .str s =>
    if Text.allBlank s then
      .error (Report.failure (.invalidSort field order "sort field must not be empty"))
    else
      match order with
      | .order o => .ok ⟨s, o⟩
      | _ => .error (Report.failure (.invalidSort field order "sort order must be ASC or DESC"))
  | _ => .error (Report.failure (.invalidSort field order "sort field must not be empty"))

/-- The clause of a field and a direction that may be given by name. -/
def create (field order : Value) : Except Failure SortClause :=
  match SortOrder.ofValue? order with
  | some o => check field (.order o)
  | none => .error (Report.failure (.invalidSort field order "sort order must be ASC or DESC"))

theorem check_str {s : String} (h : Text.allBlank s = false) (o : SortOrder) :
    check (.str s) (.order o) = .ok ⟨s, o⟩ := by
  simp [check, h]

theorem isNamed_of_check {field order : Value} {c : SortClause} (h : check field order = .ok c) :
    c.isNamed = true := by
  unfold check at h
  split at h
  · split at h
    · cases h
    · split at h
      · obtain rfl := Except.ok.inj h
        simp_all [isNamed]
      · cases h
  · cases h

end SortClause

/-- What a caller hands in as a sort. -/
inductive SortRequest
  | clause (c : SortClause)
  /-- A field and a direction that nobody checked. -/
  | unchecked (field order : Value)
  /-- No clause at all. -/
  | other (v : Value)
deriving Inhabited

namespace SortRequest

/-- The field of a request that has one. -/
def field : SortRequest → Except Fault Value
  | clause c => .ok (.str c.field)
  | unchecked field _ => .ok field
  | other v => .error (.noAttribute v.fullKind "field")

/-- The direction of a request, which is that of a clause or unchecked. -/
def order : SortRequest → Value
  | clause c => .order c.order
  | unchecked _ order => order
  | other _ => .null

/-- The clause that a request is, or a report of what is wrong with it. -/
def check : SortRequest → Except Failure SortClause
  | clause c => SortClause.check (.str c.field) (.order c.order)
  | unchecked field order => SortClause.check field order
  | other v => .error (Report.failure (.invalidSort v .null "not a sort clause"))

/-- The request as a list of its field and direction. -/
def toValue : SortRequest → Value
  | clause c => .list [.str c.field, .order c.order]
  | unchecked field order => .list [field, order]
  | other v => v

/-- What a request counts as when requests are told apart: a clause as its field. -/
def key : SortRequest → Value
  | clause c => .str c.field
  | unchecked field _ => field
  | other v => v

/-- Whether a request is a clause, checked or not. -/
def isClause : SortRequest → Bool
  | other _ => false
  | _ => true

/-- Whether two requests count as the same: clauses do when they sort by the same field, and no
clause is the same as another value. -/
def same (a b : SortRequest) : Bool := a.isClause == b.isClause && a.key.same b.key

/-- The hash code of a request: a clause has that of its field. -/
def hashCode (r : SortRequest) : Except Fault HashCode := r.key.fixed.map fun _ => r.key.hashCode

end SortRequest

end LogSearch
