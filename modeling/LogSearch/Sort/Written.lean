import LogSearch.Sort.Clause

/-!
# Sorts written as text

A sort is written as a field, or as a field and a direction with a colon between them.  The last
colon counts, so that a field may have colons in its name; without a field in front of it, the whole
text is the field.

Renders `parse_sort` (`SortClause.ofText`).

Main statement: a text is split at its last colon.
-/

namespace LogSearch

/-- Splits a text at its last colon. -/
def splitLastColon? (cs : List Char) : Option (List Char × List Char) :=
  match cs.reverse.dropWhile (· != ':') with
  | _ :: front => some (front.reverse, (cs.reverse.takeWhile (· != ':')).reverse)
  | [] => none

/-- The sort that a text writes. -/
def SortClause.ofText (text : String) : Except Failure SortClause :=
  match splitLastColon? text.toList with
  | some (c :: field, order) =>
    create (.str (String.ofList (c :: field))) (.str (String.ofList order))
  | _ => create (.str text) (.order .desc)

/-- A text with a colon, behind which there is no other, is split there. -/
theorem splitLastColon?_append (field order : List Char) (h : ':' ∉ order) :
    splitLastColon? (field ++ ':' :: order) = some (field, order) := by
  have all : ∀ c ∈ order.reverse, (c != ':') = true := by
    intro c hc
    simp only [bne_iff_ne]
    rintro rfl
    exact h (List.mem_reverse.1 hc)
  have shape : (field ++ ':' :: order).reverse = order.reverse ++ ':' :: field.reverse := by simp
  have drop : (order.reverse ++ ':' :: field.reverse).dropWhile (· != ':') =
      ':' :: field.reverse := by
    rw [List.dropWhile_append_of_pos all]; simp
  have take : (order.reverse ++ ':' :: field.reverse).takeWhile (· != ':') = order.reverse := by
    rw [List.takeWhile_append_of_pos all]; simp
  simp [splitLastColon?, shape, drop, take]

end LogSearch
