import LogSearch.Value.Access
import LogSearch.Value.Runs

/-!
# Sorting by a key

Sorting is stable and ascending by `Value.less`, where texts stand in the order of their codes.  When all
keys are integers, or all are texts, nothing can go wrong.  For other keys a comparison may fail, and which
one does depends on the order in which `Runs.sort` compares keys.

Renders `sorted`, with a `key`.
-/

namespace LogSearch.Sorted

/-- Sorts by keys, keeping the order of items with equal ones. -/
def sortBy {α : Type} (key : α → Value) (xs : List α) : Except Fault (List α) :=
  if xs.all fun x => (key x).int?.isSome then
    .ok (xs.mergeSort fun a b => decide (((key a).int?.getD 0) ≤ ((key b).int?.getD 0)))
  else if xs.all fun x => (key x).text?.isSome then
    .ok (xs.mergeSort fun a b => !decide (Text.Before ((key b).text?.getD "") ((key a).text?.getD "")))
  else Runs.sort (fun a b => (key a).less (key b)) xs

/-- Sorts values. -/
def sort (vs : List Value) : Except Fault (List Value) := sortBy id vs

end LogSearch.Sorted
