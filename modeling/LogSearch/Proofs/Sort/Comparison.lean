import LogSearch.Sort.Normalize
import Mathlib.Data.Nat.Basic
import Mathlib.Order.Compare
import Mathlib.Order.Defs.LinearOrder

/-!
# The order that sorts give

A list of sorts puts messages in order: the first clause on whose field two messages differ decides,
in its direction.  Here a message is the values of its fields, and the values of each field are in
some linear order.

The sorts of a query are not those that were asked for.  Repeated fields are dropped, which changes
no answer, and a tie-break is put behind the first clause on the time, which changes only the answer
on messages that agree on everything up to there.

Main statement: `normalize_comparison`, which says how the answers of the two lists are related.
-/

namespace LogSearch

variable {V : String → Type*} [∀ f, LinearOrder (V f)] {m n : ∀ f, V f}

/-- Compares two values in a direction. -/
def SortOrder.compare {α : Type*} [Ord α] (o : SortOrder) (x y : α) : Ordering :=
  match o with
  | .asc => Ord.compare x y
  | .desc => (Ord.compare x y).swap

theorem SortOrder.compare_eq_iff {α : Type*} [LinearOrder α] (o : SortOrder) {x y : α} :
    o.compare x y = .eq ↔ x = y := by
  cases o with
  | asc => exact compare_eq_iff_eq
  | desc =>
    change (Ord.compare x y).swap = .eq ↔ x = y
    rw [Ordering.swap_eq_eq]
    exact compare_eq_iff_eq

/-- Compares two messages: the first clause on whose field they differ decides. -/
def compareBy (clauses : List SortClause) (m n : ∀ f, V f) : Ordering :=
  match clauses with
  | [] => .eq
  | c :: rest =>
    if m c.field = n c.field then compareBy rest m n else c.order.compare (m c.field) (n c.field)

theorem compareBy_cons (c : SortClause) (rest : List SortClause) (m n : ∀ f, V f) :
    compareBy (c :: rest) m n =
      (c.order.compare (m c.field) (n c.field)).then (compareBy rest m n) := by
  by_cases same : m c.field = n c.field
  · rw [compareBy, if_pos same, (c.order.compare_eq_iff).2 same]
    rfl
  · rw [compareBy, if_neg same]
    cases decided : c.order.compare (m c.field) (n c.field) with
    | eq => exact absurd ((c.order.compare_eq_iff).1 decided) same
    | lt => rfl
    | gt => rfl

/-- Two messages tie when they agree on the field of each clause. -/
theorem compareBy_eq_iff {clauses : List SortClause} :
    compareBy clauses m n = .eq ↔ ∀ c ∈ clauses, m c.field = n c.field := by
  induction clauses with
  | nil => exact ⟨fun _ c hc => (List.not_mem_nil hc).elim, fun _ => rfl⟩
  | cons c rest ih =>
    rw [compareBy_cons, Ordering.then_eq_eq, c.order.compare_eq_iff, ih, List.forall_mem_cons]

/-- The later clauses count where the earlier ones tie. -/
theorem compareBy_append (before after : List SortClause) (m n : ∀ f, V f) :
    compareBy (before ++ after) m n = (compareBy before m n).then (compareBy after m n) := by
  induction before with
  | nil => rfl
  | cons c rest ih => rw [List.cons_append, compareBy_cons, compareBy_cons, ih, Ordering.then_assoc]

section Firsts

variable {α κ : Type} {same : κ → κ → Bool} {key : α → κ} {seen : List κ}

theorem firstPerKey_cons_of_seen {x : α} (rest : List α) (h : seen.any fun k => same k (key x)) :
    firstPerKey same key seen (x :: rest) = firstPerKey same key seen rest := if_pos h

theorem firstPerKey_cons_of_new {x : α} (rest : List α)
    (h : (seen.any fun k => same k (key x)) = false) :
    firstPerKey same key seen (x :: rest) =
      x :: firstPerKey same key (key x :: seen) rest := if_neg (by rw [h]; exact Bool.false_ne_true)

/-- The first items are among the items. -/
theorem mem_of_mem_firstPerKey {items : List α} {x : α}
    (h : x ∈ firstPerKey same key seen items) : x ∈ items := by
  induction items generalizing seen with
  | nil => exact h
  | cons y rest ih =>
    cases known : seen.any fun k => same k (key y) with
    | true =>
      rw [firstPerKey_cons_of_seen rest known] at h
      exact List.mem_cons_of_mem y (ih h)
    | false =>
      rw [firstPerKey_cons_of_new rest known] at h
      rcases List.mem_cons.1 h with rfl | h
      · exact List.mem_cons_self
      · exact List.mem_cons_of_mem y (ih h)

/-- The first items of two lists together are those of the one, and then of the other after it. -/
theorem firstPerKey_append (seen : List κ) (before after : List α) :
    firstPerKey same key seen (before ++ after) =
      firstPerKey same key seen before ++
        firstPerKey same key (((firstPerKey same key seen before).map key).reverse ++ seen) after := by
  induction before generalizing seen with
  | nil => rfl
  | cons x rest ih =>
    rw [List.cons_append]
    cases known : seen.any fun k => same k (key x) with
    | true => rw [firstPerKey_cons_of_seen _ known, firstPerKey_cons_of_seen _ known, ih]
    | false =>
      rw [firstPerKey_cons_of_new _ known, firstPerKey_cons_of_new _ known, ih, List.map_cons,
        List.reverse_cons, List.append_assoc]
      rfl

/-- An item after some without its property has the new one put right behind it. -/
theorem insertAfter_append {p : α → Bool} {before after : List α} {x new : α}
    (none : ∀ y ∈ before, p y = false) (h : p x = true) :
    insertAfter p new (before ++ x :: after) = before ++ x :: new :: after := by
  induction before with
  | nil => exact if_pos h
  | cons y rest ih =>
    have skipped : p y = false := none y List.mem_cons_self
    rw [List.cons_append, insertAfter, skipped, if_neg Bool.false_ne_true,
      ih fun z hz => none z (List.mem_cons_of_mem y hz)]
    rfl

end Firsts

namespace SortClause

variable {clauses : List SortClause}

/-- Dropping what repeats a field changes no answer, as long as the messages agree on what was seen
before. -/
theorem compareBy_firstPerKey {seen : List String} (agree : ∀ f ∈ seen, m f = n f) :
    compareBy (firstPerKey (· == ·) SortClause.field seen clauses) m n = compareBy clauses m n := by
  -- A clause on a field that was seen never decides, because the messages agree there; and where a
  -- clause on a new field does not decide, they agree on one field more.
  induction clauses generalizing seen with
  | nil => rfl
  | cons c rest ih =>
    cases known : seen.any fun f => f == c.field with
    | true =>
      obtain ⟨f, hf, same⟩ := List.any_eq_true.1 known
      have tie : m c.field = n c.field := eq_of_beq same ▸ agree f hf
      rw [firstPerKey_cons_of_seen rest known, ih agree, compareBy, if_pos tie]
    | false =>
      rw [firstPerKey_cons_of_new rest known, compareBy, compareBy]
      by_cases tie : m c.field = n c.field
      · rw [if_pos tie, if_pos tie]
        refine ih fun f hf => ?_
        rcases List.mem_cons.1 hf with rfl | hf
        · exact tie
        · exact agree f hf
      · rw [if_neg tie, if_neg tie]

theorem compareBy_firsts (clauses : List SortClause) (m n : ∀ f, V f) :
    compareBy (firsts clauses) m n = compareBy clauses m n :=
  compareBy_firstPerKey fun _ hf => (List.not_mem_nil hf).elim

/-- The first clauses are on the same fields as all of them. -/
theorem exists_firstPerKey_iff {seen : List String} {name : String} (new : name ∉ seen) :
    (∃ c ∈ firstPerKey (· == ·) SortClause.field seen clauses, c.field = name) ↔
      ∃ c ∈ clauses, c.field = name := by
  constructor
  · rintro ⟨c, hc, on⟩
    exact ⟨c, mem_of_mem_firstPerKey hc, on⟩
  · rintro ⟨c, hc, on⟩
    induction clauses generalizing seen with
    | nil => exact (List.not_mem_nil hc).elim
    | cons d rest ih =>
      cases known : seen.any fun f => f == d.field with
      | true =>
        rw [firstPerKey_cons_of_seen rest known]
        rcases List.mem_cons.1 hc with rfl | hc
        · obtain ⟨f, hf, same⟩ := List.any_eq_true.1 known
          rw [← on, ← eq_of_beq same] at new
          exact absurd hf new
        · exact ih new hc
      | false =>
        rw [firstPerKey_cons_of_new rest known]
        by_cases here : d.field = name
        · exact ⟨d, List.mem_cons_self, here⟩
        · rcases List.mem_cons.1 hc with rfl | hc
          · exact absurd on here
          · have still : name ∉ d.field :: seen := by
              rw [List.mem_cons]
              rintro (eq | old)
              · exact here eq.symm
              · exact new old
            obtain ⟨e, he, one⟩ := ih still hc
            exact ⟨e, List.mem_cons_of_mem d he, one⟩

end SortClause

/-- A list of clauses that is parted at its first one on a field. -/
structure FirstOn (name : String) (clauses before : List SortClause) (c : SortClause)
    (after : List SortClause) : Prop where
  parts : clauses = before ++ c :: after
  field_eq : c.field = name
  earlier : ∀ d ∈ before, d.field ≠ name

/-- A list with a clause on a field can be parted at the first. -/
theorem FirstOn.exists {name : String} {clauses : List SortClause}
    (h : ∃ c ∈ clauses, c.field = name) : ∃ before c after, FirstOn name clauses before c after := by
  cases found : clauses.find? (·.field == name) with
  | none =>
    obtain ⟨c, hc, on⟩ := h
    have off := List.find?_eq_none.1 found c hc
    exact absurd (beq_iff_eq.2 on) off
  | some c =>
    obtain ⟨on, before, after, parts, earlier⟩ := List.find?_eq_some_iff_append.1 found
    refine ⟨before, c, after, parts, beq_iff_eq.1 on, fun d hd eq => ?_⟩
    have off := earlier d hd
    rw [beq_iff_eq.2 eq] at off
    cases off

namespace SortNames

variable {names : SortNames} {clauses before after : List SortClause} {c : SortClause}

/-- Sorts that are asked for get a tie-break, or are kept. -/
theorem normalized_of_ne_nil (ne : clauses ≠ []) :
    names.normalized clauses =
      match names.tieBreak? (SortClause.firsts clauses) with
      | none => SortClause.firsts clauses
      | some c => insertAfter (·.field == names.timestamp) c (SortClause.firsts clauses) := by
  cases clauses with
  | nil => exact absurd rfl ne
  | cons c rest => rfl

/-- Sorts without the time, or with a clause on the sequence, are kept. -/
theorem normalized_of_kept (ne : clauses ≠ [])
    (kept : (∀ c ∈ clauses, c.field ≠ names.timestamp) ∨
      ∃ c ∈ clauses, c.field = names.sequence) :
    names.normalized clauses = SortClause.firsts clauses := by
  have noBreak : names.tieBreak? (SortClause.firsts clauses) = none := by
    unfold tieBreak?
    rcases kept with untimed | ⟨c, hc, on⟩
    · have missing : (SortClause.firsts clauses).find? (·.field == names.timestamp) = none := by
        refine List.find?_eq_none.2 fun c hc => ?_
        rw [beq_iff_eq]
        exact untimed c (mem_of_mem_firstPerKey hc)
      rw [missing]
    · obtain ⟨d, hd, same⟩ := (SortClause.exists_firstPerKey_iff List.not_mem_nil).2 ⟨c, hc, on⟩
      have present : (SortClause.firsts clauses).any (·.field == names.sequence) = true :=
        List.any_eq_true.2 ⟨d, hd, beq_iff_eq.2 same⟩
      split
      · rfl
      · rw [if_pos present]
  rw [normalized_of_ne_nil ne, noBreak]

/-- Without a clause on the sequence, one is put behind the first clause on the time, in its
direction. -/
theorem normalized_of_firstOn (first : FirstOn names.timestamp clauses before c after)
    (unordered : ∀ d ∈ clauses, d.field ≠ names.sequence) :
    ∃ seen : List String, (∀ f ∈ seen, f = names.timestamp ∨ ∃ d ∈ before, d.field = f) ∧
      names.normalized clauses = SortClause.firsts before ++ c :: ⟨names.sequence, c.order⟩ ::
        firstPerKey (· == ·) SortClause.field seen after := by
  obtain ⟨rfl, on, earlier⟩ := first
  -- The fields that were seen before the clause `c`, which is on none of them.
  let fields := ((SortClause.firsts before).map SortClause.field).reverse
  have among : ∀ f ∈ fields, ∃ d ∈ before, d.field = f := by
    intro f hf
    obtain ⟨d, hd, eq⟩ := List.mem_map.1 (List.mem_reverse.1 hf)
    exact ⟨d, mem_of_mem_firstPerKey hd, eq⟩
  have new : (fields.any fun f => f == c.field) = false := by
    rw [List.any_eq_false]
    intro f hf same
    obtain ⟨d, hd, eq⟩ := among f hf
    exact earlier d hd (by rw [eq, eq_of_beq same, on])
  have firsts : SortClause.firsts (before ++ c :: after) = SortClause.firsts before ++
      c :: firstPerKey (· == ·) SortClause.field (c.field :: fields) after := by
    unfold SortClause.firsts
    rw [firstPerKey_append, List.append_nil]
    exact congrArg _ (firstPerKey_cons_of_new after new)
  refine ⟨c.field :: fields, ?_, ?_⟩
  · intro f hf
    rcases List.mem_cons.1 hf with rfl | hf
    · exact .inl on
    · exact .inr (among f hf)
  · have skipped : ∀ d ∈ SortClause.firsts before, (d.field == names.timestamp) = false :=
      fun d hd => beq_false_of_ne (earlier d (mem_of_mem_firstPerKey hd))
    have found : (SortClause.firsts (before ++ c :: after)).find? (·.field == names.timestamp) =
        some c := by
      rw [firsts, List.find?_append, List.find?_eq_none.2 fun d hd => by
        rw [skipped d hd]; exact Bool.false_ne_true]
      rw [List.find?_cons, beq_iff_eq.2 on]
      rfl
    have missing : ¬ (SortClause.firsts (before ++ c :: after)).any (·.field == names.sequence) := by
      intro present
      obtain ⟨d, hd, same⟩ := List.any_eq_true.1 present
      exact unordered d (mem_of_mem_firstPerKey hd) (beq_iff_eq.1 same)
    have added : names.tieBreak? (SortClause.firsts (before ++ c :: after)) =
        some ⟨names.sequence, c.order⟩ := by
      unfold tieBreak?
      rw [found]
      exact if_neg missing
    rw [normalized_of_ne_nil (List.append_ne_nil_of_right_ne_nil _ (List.cons_ne_nil _ _)), added,
      firsts]
    exact insertAfter_append skipped (beq_iff_eq.2 on)

/-- What sorts that are kept answer is what was asked for. -/
theorem compareBy_normalized_of_kept (ne : clauses ≠ [])
    (kept : (∀ c ∈ clauses, c.field ≠ names.timestamp) ∨
      ∃ c ∈ clauses, c.field = names.sequence) :
    compareBy (names.normalized clauses) m n = compareBy clauses m n := by
  rw [normalized_of_kept ne kept, SortClause.compareBy_firsts]

/-- With a tie-break the sequence decides after the first clause on the time, and before the
rest. -/
theorem compareBy_normalized_of_firstOn (first : FirstOn names.timestamp clauses before c after)
    (unordered : ∀ d ∈ clauses, d.field ≠ names.sequence) :
    compareBy (names.normalized clauses) m n =
      (compareBy (before ++ [c]) m n).then
        ((c.order.compare (m names.sequence) (n names.sequence)).then (compareBy after m n)) := by
  obtain ⟨seen, among, shape⟩ := normalized_of_firstOn first unordered
  have front : compareBy (SortClause.firsts before ++ [c]) m n = compareBy (before ++ [c]) m n := by
    rw [compareBy_append, compareBy_append, SortClause.compareBy_firsts]
  rw [shape, List.append_cons, compareBy_append, front, compareBy_cons]
  cases tie : compareBy (before ++ [c]) m n with
  | lt => rfl
  | gt => rfl
  | eq =>
    -- Messages that tie so far agree on every field that was seen, so that the clauses which were
    -- dropped behind it do not matter.
    have agree : ∀ f ∈ seen, m f = n f := by
      intro f hf
      rcases among f hf with rfl | ⟨d, hd, rfl⟩
      · rw [← first.field_eq]
        exact compareBy_eq_iff.1 tie c (List.mem_append_right _ List.mem_cons_self)
      · exact compareBy_eq_iff.1 tie d (List.mem_append_left _ hd)
    rw [SortClause.compareBy_firstPerKey agree]

end SortNames

namespace SortFields

theorem firstRequests_map_clause (seen : List String) (clauses : List SortClause) :
    firstRequests (seen.map Value.str) (clauses.map .clause) =
      .ok ((firstPerKey (· == ·) SortClause.field seen clauses).map .clause) := by
  induction clauses generalizing seen with
  | nil => rfl
  | cons c rest ih =>
    have known : Value.isIn (.str c.field) (seen.map Value.str) =
        seen.any fun f => f == c.field := by
      rw [Value.isIn, List.any_map]
      exact congrArg seen.any (funext fun f => Value.alike_str f c.field)
    change (if Value.isIn (.str c.field) (seen.map Value.str) = true then
        firstRequests (seen.map Value.str) (rest.map .clause)
      else firstRequests (Value.str c.field :: seen.map Value.str) (rest.map .clause) >>=
        fun r => pure (.clause c :: r)) = _
    rw [known]
    cases any : seen.any fun f => f == c.field with
    | true => rw [if_pos rfl, ih, firstPerKey_cons_of_seen rest any]
    | false =>
      rw [if_neg Bool.false_ne_true, firstPerKey_cons_of_new rest any]
      change (firstRequests ((c.field :: seen).map Value.str) (rest.map .clause) >>= _) = _
      rw [ih]
      rfl

theorem insertAfter_map_clause (field : Value) (new : SortClause) (clauses : List SortClause) :
    insertAfter (fun x : SortRequest => x.key.same field) (.clause new) (clauses.map .clause) =
      (insertAfter (·.isOn field) new clauses).map .clause := by
  induction clauses with
  | nil => rfl
  | cons c rest ih =>
    have here : (SortRequest.clause c).key.same field = c.isOn field := rfl
    rw [List.map_cons, insertAfter, insertAfter, here]
    cases c.isOn field with
    | true => rfl
    | false => exact congrArg (SortRequest.clause c :: ·) ih

/-- Requests that are clauses are normalized as clauses. -/
theorem normalize_map_clause (fields : SortFields) (clauses : List SortClause) :
    fields.normalize (clauses.map .clause) =
      (fields.normalizeClauses clauses).map (List.map .clause) := by
  have firsts : firstRequests [] (clauses.map .clause) =
      .ok ((SortClause.firsts clauses).map .clause) := firstRequests_map_clause [] clauses
  have find (field : Value) (l : List SortClause) :
      (l.map SortRequest.clause).find? (fun x => x.key.same field) =
        (l.find? (·.isOn field)).map .clause := by
    rw [List.find?_map]
    rfl
  have any (field : Value) (l : List SortClause) :
      (l.map SortRequest.clause).any (fun x => x.key.same field) = l.any (·.isOn field) := by
    rw [List.any_map]
    rfl
  unfold normalize normalizeClauses tieBreak?
  rw [firsts]
  dsimp only
  generalize SortClause.firsts clauses = l
  change (if (l.map SortRequest.clause).isEmpty = true then _ else _) = _
  rw [List.isEmpty_map]
  by_cases empty : l.isEmpty = true
  · rw [if_pos empty, if_pos empty]
    cases SortClause.check fields.timestamp (.order .desc) <;> rfl
  · rw [if_neg empty, if_neg empty, find]
    cases l.find? (·.isOn fields.timestamp) with
    | none => rfl
    | some c =>
      dsimp only [Option.map_some]
      rw [any]
      by_cases ordered : l.any (·.isOn fields.sequence) = true
      · rw [if_pos ordered, if_pos ordered]
        rfl
      · rw [if_neg ordered, if_neg ordered]
        dsimp only [SortRequest.order]
        cases SortClause.check fields.sequence (.order c.order) with
        | error e => rfl
        | ok new => exact congrArg Except.ok (insertAfter_map_clause _ new l)

end SortFields

/-- The sorts of a query order the messages as the sorts that were asked for do, except that messages
which agree on everything up to the first clause on the time are put in order by their sequence
first.  No two messages of different sequence tie if the time or the sequence is sorted by. -/
theorem normalize_comparison (names : SortNames) (clauses : List SortClause)
    (timed : Text.allBlank names.timestamp = false)
    (ordered : Text.allBlank names.sequence = false) (ne : clauses ≠ []) :
    ∃ sorts : List SortClause,
      names.fields.normalize (clauses.map .clause) = .ok (sorts.map .clause) ∧
      ∀ m n : ∀ f, V f,
        ((∃ c ∈ clauses, c.field = names.timestamp ∨ c.field = names.sequence) →
          m names.sequence ≠ n names.sequence → compareBy sorts m n ≠ .eq) ∧
        (∀ before c after, FirstOn names.timestamp clauses before c after →
          compareBy (before ++ [c]) m n ≠ .eq → compareBy sorts m n = compareBy clauses m n) ∧
        (∀ before c after, FirstOn names.timestamp clauses before c after →
          (∀ d ∈ clauses, d.field ≠ names.sequence) → compareBy (before ++ [c]) m n = .eq →
          compareBy sorts m n =
            (c.order.compare (m names.sequence) (n names.sequence)).then (compareBy after m n)) ∧
        ((∀ c ∈ clauses, c.field ≠ names.timestamp) ∨ (∃ c ∈ clauses, c.field = names.sequence) →
          compareBy sorts m n = compareBy clauses m n) := by
  refine ⟨names.normalized clauses, ?_, fun m n => ⟨?_, ?_, ?_, ?_⟩⟩
  · rw [SortFields.normalize_map_clause, SortFields.normalizeClauses_of_named timed ordered]
    rfl
  · intro named differ tie
    by_cases sequenced : ∃ c ∈ clauses, c.field = names.sequence
    · rw [SortNames.compareBy_normalized_of_kept ne (.inr sequenced), compareBy_eq_iff] at tie
      obtain ⟨c, hc, on⟩ := sequenced
      have agree := tie c hc
      rw [on] at agree
      exact differ agree
    · have unordered : ∀ d ∈ clauses, d.field ≠ names.sequence :=
        fun d hd on => sequenced ⟨d, hd, on⟩
      have onTime : ∃ c ∈ clauses, c.field = names.timestamp := by
        obtain ⟨c, hc, on | on⟩ := named
        · exact ⟨c, hc, on⟩
        · exact absurd on (unordered c hc)
      obtain ⟨before, c, after, first⟩ := FirstOn.exists onTime
      rw [SortNames.compareBy_normalized_of_firstOn first unordered, Ordering.then_eq_eq,
        Ordering.then_eq_eq, c.order.compare_eq_iff] at tie
      exact differ tie.2.1
  · intro before c after first decided
    by_cases sequenced : ∃ c ∈ clauses, c.field = names.sequence
    · exact SortNames.compareBy_normalized_of_kept ne (.inr sequenced)
    · have parts : clauses = (before ++ [c]) ++ after := by
        rw [first.parts, List.append_assoc]
        rfl
      rw [SortNames.compareBy_normalized_of_firstOn first fun d hd on => sequenced ⟨d, hd, on⟩,
        parts, compareBy_append (before ++ [c]) after]
      cases answer : compareBy (before ++ [c]) m n with
      | eq => exact absurd answer decided
      | lt => rfl
      | gt => rfl
  · intro before c after first unordered tie
    rw [SortNames.compareBy_normalized_of_firstOn first unordered, tie]
    rfl
  · exact SortNames.compareBy_normalized_of_kept ne

/-- Of two messages of one time, the later arrival comes first when the latest time does. -/
theorem normalize_comparison_latest_first :
    ∃ sorts : List SortClause,
      (SortNames.fields {}).normalize
          [.clause ⟨"timestamp", .desc⟩, .clause ⟨"source", .asc⟩] = .ok (sorts.map .clause) ∧
      ∀ m n : String → Nat, m "timestamp" = n "timestamp" →
        n "gl2_message_id" < m "gl2_message_id" → compareBy sorts m n = .lt := by
  obtain ⟨sorts, shape, answers⟩ := normalize_comparison (V := fun _ => Nat) {}
    [⟨"timestamp", .desc⟩, ⟨"source", .asc⟩] (by decide) (by decide) (List.cons_ne_nil _ _)
  refine ⟨sorts, shape, fun m n same later => ?_⟩
  have tie : compareBy [⟨"timestamp", .desc⟩] m n = .eq :=
    compareBy_eq_iff.2 fun c hc => by rw [List.mem_singleton.1 hc]; exact same
  rw [(answers m n).2.2.1 [] ⟨"timestamp", .desc⟩ [⟨"source", .asc⟩]
    ⟨rfl, rfl, fun d hd => (List.not_mem_nil hd).elim⟩ (by decide) tie]
  change ((Ord.compare (m "gl2_message_id") (n "gl2_message_id")).swap).then _ = _
  rw [compare_gt_iff_gt.2 later]
  rfl

/-- Messages of one time and one place in the sequence need not tie: the clauses behind the tie-break
still tell them apart. -/
theorem compareBy_source_after_sequence :
    let asked : List SortClause := [⟨"timestamp", .desc⟩, ⟨"source", .asc⟩]
    let m : String → Nat := fun f => if f = "source" then 1 else 0
    let n : String → Nat := fun _ => 0
    ∃ sorts : List SortClause,
      (SortNames.fields {}).normalize (asked.map .clause) = .ok (sorts.map .clause) ∧
      FirstOn "timestamp" asked [] ⟨"timestamp", .desc⟩ [⟨"source", .asc⟩] ∧
      (∀ c ∈ asked, c.field ≠ "gl2_message_id") ∧
      compareBy [⟨"timestamp", .desc⟩] m n = .eq ∧
      compareBy sorts m n ≠ SortOrder.desc.compare (m "gl2_message_id") (n "gl2_message_id") := by
  refine ⟨[⟨"timestamp", .desc⟩, ⟨"gl2_message_id", .desc⟩, ⟨"source", .asc⟩], rfl, ?_, ?_, rfl, ?_⟩
  · exact ⟨rfl, rfl, fun c hc => (List.not_mem_nil hc).elim⟩
  · decide
  · intro same
    cases same

end LogSearch
