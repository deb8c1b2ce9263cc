import LogSearch.Proofs.Json.Keys
import LogSearch.Sort.Written

/-!
# Failures that have a text

A report is shown as JSON, and so it has a text when JSON has a form for all that it holds.  The
reports of a search hold texts, numbers and parts of what was read from JSON.

Main statement: `hasText_report`.
-/

namespace LogSearch

namespace Failure

/-- A failure that can be shown. -/
def HasText (e : Failure) : Prop := ∃ text, e.text = .ok text

/-- A failure that is told in the end, unless it is a fault of which `P` holds: a report that has a text,
or a fault that tells of a value. -/
def ToldUnless (P : Fault → Prop) : Failure → Prop
  | fault f => f.kind.isValue = true ∨ P f
  | search report cause => HasText (.search report cause)

theorem ToldUnless.imp {P Q : Fault → Prop} {e : Failure} (h : e.ToldUnless P)
    (weaker : ∀ f, P f → Q f) : e.ToldUnless Q := by
  cases e with
  | fault f => exact h.imp_right (weaker f)
  | search report cause => exact h

/-- What is always told is told under any condition. -/
theorem ToldUnless.of_false {P : Fault → Prop} {e : Failure} (h : e.ToldUnless fun _ => False) :
    e.ToldUnless P :=
  h.imp fun _ => False.elim

theorem hasText_fault (f : Fault) : HasText (.fault f) := ⟨f.message, rfl⟩

/-- A report can be shown when its parts can. -/
theorem hasText_report {report : Report} (cause : Option Failure)
    (code : Json.badKey? report.code = none) (message : Json.badKey? report.message = none)
    (detail : Json.badKey? report.detail = none) : HasText (.search report cause) := by
  have written : Json.badKey? (record report cause) = none := by
    refine Json.badKey?_record fun field member => ?_
    rcases List.mem_append.1 member with member | member
    · rcases List.mem_cons.1 member with rfl | member
      · exact code
      · rcases List.mem_cons.1 member with rfl | member
        · exact message
        · rw [List.mem_singleton.1 member]
          exact detail
    · cases cause with
      | none => cases member
      | some c =>
        rw [List.mem_singleton.1 member]
        rfl
  refine ⟨Json.line (record report cause), ?_⟩
  rw [text, written]

theorem hasText_invalidSort (field : String) {order : Value} (reason : String)
    (written : Json.badKey? order = none) :
    HasText (.search (.invalidSort (.str field) order reason) none) :=
  hasText_report none rfl rfl (Json.badKey?_pair rfl written)

theorem hasText_unresolvedType (field : String) (streams : List String) (cause : Option Failure) :
    HasText (.search (.unresolvedType (.str field) (streams.map .str)) cause) :=
  hasText_report cause rfl rfl (Json.badKey?_pair rfl (Json.badKey?_texts streams))

theorem hasText_unparsedHit {id index : Value} (reason : String) (cause : Option Failure)
    (hid : Json.badKey? id = none) (hindex : Json.badKey? index = none) :
    HasText (.search (.unparsedHit id index reason) cause) :=
  hasText_report cause rfl rfl (Json.badKey?_pair hid hindex)

theorem hasText_failedExecution (message : String) {status : Value} (indices : List String)
    (cause : Option Failure) (written : Json.badKey? status = none) :
    HasText (.search (.failedExecution (.str message) status (indices.map .str)) cause) :=
  hasText_report cause rfl rfl (Json.badKey?_pair written (Json.badKey?_texts indices))

end Failure

namespace SortClause

/-- The clause of a named field, or the report of why there is none. -/
theorem create_cases (field : String) {order : Value} (written : Json.badKey? order = none) :
    (∃ c, create (.str field) order = .ok c ∧ c.isNamed = true) ∨
      ∃ r, create (.str field) order = .error (.search r none) ∧ Failure.HasText (.search r none) := by
  unfold create
  cases SortOrder.ofValue? order with
  | none => exact .inr ⟨_, rfl, Failure.hasText_invalidSort field _ written⟩
  | some o =>
    cases blank : Text.allBlank field with
    | false => exact .inl ⟨_, check_str blank o, isNamed_of_check (check_str blank o)⟩
    | true =>
      refine .inr ⟨.invalidSort (.str field) (.order o) "sort field must not be empty", ?_,
        Failure.hasText_invalidSort field _ rfl⟩
      unfold check
      dsimp only
      rw [if_pos blank]
      rfl

/-- A text writes a sort by a field that has a name, or is reported. -/
theorem ofText_cases (text : String) :
    (∃ c, ofText text = .ok c ∧ c.isNamed = true) ∨
      ∃ r, ofText text = .error (.search r none) ∧ Failure.HasText (.search r none) := by
  unfold ofText
  split
  · exact create_cases _ rfl
  · exact create_cases _ rfl

end SortClause

end LogSearch
