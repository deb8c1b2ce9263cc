import LogSearch.Decoration.Builtin
import LogSearch.Proofs.Flow
import LogSearch.Proofs.Value.Keys

/-!
# What a template writes

A template is split from left to right, and in one way only: where a placeholder starts it is taken as
a whole, and elsewhere one character is.  `Splits` says so without a reader.  The text that is written
has the characters as they are, and in the place of each placeholder the text of the field that it
names, as the message had it before.

Main statements: `Template.splits_iff` and `TemplateWriter.decorate_splits`.
-/

namespace LogSearch

namespace Template

variable {cs name rest : List Char} {segs : List Segment}

/-- A text starts with a placeholder: its name is not empty and goes up to the first closing brace. -/
def Starts (cs name rest : List Char) : Prop :=
  cs = '$' :: '\x7b' :: name ++ '\x7d' :: rest ∧ name ≠ [] ∧ '\x7d' ∉ name

/-- The parts that a template splits into, from left to right. -/
inductive Splits : List Char → List Segment → Prop
  | nil : Splits [] []
  | placeholder {cs name rest : List Char} {segs : List Segment} (starts : Starts cs name rest)
      (others : Splits rest segs) : Splits cs (.placeholder name :: segs)
  | char {c : Char} {cs : List Char} {segs : List Segment}
      (none : ∀ name rest, ¬ Starts (c :: cs) name rest) (others : Splits cs segs) :
    Splits (c :: cs) (.char c :: segs)

theorem placeholder?_of_starts (h : Starts cs name rest) : placeholder? cs = some (name, rest) := by
  obtain ⟨rfl, named, closed⟩ := h
  obtain ⟨c, tail, rfl⟩ := List.exists_cons_of_ne_nil named
  have inside : ∀ x ∈ c :: tail, (x != '\x7d') = true := by
    intro x hx
    rw [bne_iff_ne]
    rintro rfl
    exact closed hx
  have front : (c :: tail ++ '\x7d' :: rest).takeWhile (· != '\x7d') = c :: tail := by
    rw [List.takeWhile_append_of_pos inside, List.takeWhile_cons_of_neg (by decide), List.append_nil]
  have back : (c :: tail ++ '\x7d' :: rest).dropWhile (· != '\x7d') = '\x7d' :: rest := by
    rw [List.dropWhile_append_of_pos inside, List.dropWhile_cons_of_neg (by decide)]
  simp only [placeholder?, List.cons_append] at front back ⊢
  rw [front, back]

theorem starts_of_placeholder? (h : placeholder? cs = some (name, rest)) : Starts cs name rest := by
  refine ⟨eq_of_placeholder? h, ?_⟩
  unfold placeholder? at h
  split at h
  · rename_i r
    dsimp only at h
    split at h
    · rename_i c tail _ _ isFront _
      obtain ⟨rfl, -⟩ := Prod.mk.inj (Option.some.inj h)
      refine ⟨isFront ▸ List.cons_ne_nil c tail, ?_⟩
      intro member
      have inside := List.all_eq_true.1 List.all_takeWhile _ member
      simp at inside
    · cases h
  · cases h

theorem splits_segments (cs : List Char) : Splits cs (segments cs) := by
  fun_induction segments cs with
  | case1 cs name rest h ih => exact .placeholder (starts_of_placeholder? h) ih
  | case2 => exact .nil
  | case3 c r h ih =>
    refine .char ?_ ih
    intro name rest starts
    rw [placeholder?_of_starts starts] at h
    cases h

theorem segments_of_starts (h : Starts cs name rest) :
    segments cs = .placeholder name :: segments rest := by
  have found := placeholder?_of_starts h
  rw [segments]
  split
  · rename_i found'
    rw [found] at found'
    obtain ⟨rfl, rfl⟩ := Prod.mk.inj (Option.some.inj found')
    rfl
  · rename_i missing
    rw [found] at missing
    cases missing

theorem segments_of_other {c : Char} (h : ∀ name rest, ¬ Starts (c :: cs) name rest) :
    segments (c :: cs) = .char c :: segments cs := by
  rw [segments]
  split
  · rename_i name rest found
    exact absurd (starts_of_placeholder? found) (h name rest)
  · rfl

/-- A template splits in one way only. -/
theorem splits_iff : Splits cs segs ↔ segs = segments cs := by
  constructor
  · intro h
    induction h with
    | nil => simp [segments, placeholder?]
    | placeholder starts _ ih => rw [segments_of_starts starts, ih]
    | char none _ ih => rw [segments_of_other none, ih]
  · rintro rfl
    exact splits_segments cs

/-- The names of a template are those of its placeholders. -/
theorem mem_names_iff {s : String} :
    s ∈ names cs ↔ ∃ name, .placeholder name ∈ segments cs ∧ String.ofList name = s := by
  unfold names
  rw [List.mem_filterMap]
  constructor
  · rintro ⟨c | name, member, isName⟩
    · cases isName
    · exact ⟨name, member, Option.some.inj isName⟩
  · rintro ⟨name, member, rfl⟩
    exact ⟨.placeholder name, member, rfl⟩

/-- What is put in the place of other names than those of a template does not matter. -/
theorem render_congr {fill fill' : String → String} (same : ∀ s ∈ names cs, fill s = fill' s) :
    render fill cs = render fill' cs := by
  unfold render
  refine congrArg String.ofList (List.flatMap_congr ?_)
  rintro (c | name) member
  · rfl
  · exact congrArg String.toList (same _ (mem_names_iff.2 ⟨name, member, rfl⟩))

end Template

/-- The text that a value has in a template: none for no value, the texts of its items for a list, with
commas between them, and its plain text for any other. -/
inductive Value.HasFieldText : Value → String → Prop
  | null : HasFieldText .null ""
  | list {items : List Value} {texts : List String} (each : List.Forall₂ HasFieldText items texts) :
    HasFieldText (.list items) (", ".intercalate texts)
  | tuple {items : List Value} {texts : List String} (each : List.Forall₂ HasFieldText items texts) :
    HasFieldText (.tuple items) (", ".intercalate texts)
  | other {v : Value} (some : v ≠ .null) (noList : ∀ items, v ≠ .list items)
      (noTuple : ∀ items, v ≠ .tuple items) : HasFieldText v v.plain

section FieldText

open Value (HasFieldText)

mutual

theorem hasFieldText_fieldText : ∀ v : Value, HasFieldText v (fieldText v)
  | .null => .null
  | .list items => .list (hasFieldText_fieldTexts items)
  | .tuple items => .tuple (hasFieldText_fieldTexts items)
  | .bool _ | .int _ | .float _ | .str _ | .bytes _ | .map _ | .time _ | .order _ =>
    .other nofun nofun nofun

theorem hasFieldText_fieldTexts : ∀ items : List Value,
    List.Forall₂ HasFieldText items (fieldText.fieldTexts items)
  | [] => .nil
  | v :: r => .cons (hasFieldText_fieldText v) (hasFieldText_fieldTexts r)

end

mutual

theorem eq_of_hasFieldText : ∀ {v : Value} {s : String}, HasFieldText v s → s = fieldText v
  | .list items, s, h => by
    cases h with
    | list each => rw [eq_of_hasFieldTexts each]; rfl
    | other _ noList _ => exact absurd rfl (noList items)
  | .tuple items, s, h => by
    cases h with
    | tuple each => rw [eq_of_hasFieldTexts each]; rfl
    | other _ _ noTuple => exact absurd rfl (noTuple items)
  | .null, _, h => by
    cases h with
    | null => rfl
    | other some _ _ => exact absurd rfl some
  | .bool _, _, .other _ _ _ | .int _, _, .other _ _ _ | .float _, _, .other _ _ _
  | .str _, _, .other _ _ _ | .bytes _, _, .other _ _ _ | .map _, _, .other _ _ _
  | .time _, _, .other _ _ _ | .order _, _, .other _ _ _ => rfl

theorem eq_of_hasFieldTexts : ∀ {items : List Value} {texts : List String},
    List.Forall₂ HasFieldText items texts → texts = fieldText.fieldTexts items
  | [], _, h => List.forall₂_nil_left_iff.1 h
  | v :: r, _, h => by
    obtain ⟨s, others, first, rest, rfl⟩ := List.forall₂_cons_left_iff.1 h
    rw [eq_of_hasFieldText first, eq_of_hasFieldTexts rest]
    rfl

end

/-- A value has one text in a template. -/
theorem hasFieldText_iff {v : Value} {s : String} : HasFieldText v s ↔ s = fieldText v := by
  constructor
  · exact eq_of_hasFieldText
  · rintro rfl
    exact hasFieldText_fieldText v

end FieldText

namespace Template

/-- What is written for a part of a template: a character as it is, and for a placeholder the text of
the field that it names, or that of no value where a message has no such field. -/
inductive Fills (message : Entries) : Segment → List Char → Prop
  | char (c : Char) : Fills message (.char c) [c]
  | placeholder {name : List Char} {text : String}
      (shown : ((Entries.get? message (.str (String.ofList name))).getD .null).HasFieldText text) :
    Fills message (.placeholder name) text.toList

/-- A message has no field for some placeholder of a template. -/
def Lacks (message : Entries) (segs : List Segment) : Prop :=
  ∃ name, .placeholder name ∈ segs ∧ Entries.has message (.str (String.ofList name)) = false

/-- What is written for a part of a template, as it is computed. -/
def filled (message : Entries) : Segment → List Char
  | .char c => [c]
  | .placeholder name =>
    (fieldText ((Entries.get? message (.str (String.ofList name))).getD .null)).toList

variable {message : Entries} {seg : Segment} {segs : List Segment} {part : List Char}
  {parts : List (List Char)}

theorem fills_iff : Fills message seg part ↔ part = filled message seg := by
  constructor
  · rintro (c | shown)
    · rfl
    · rw [hasFieldText_iff.1 shown]
      rfl
  · rintro rfl
    cases seg with
    | char c => exact .char c
    | placeholder name => exact .placeholder (hasFieldText_iff.2 rfl)

theorem forall₂_fills_iff : List.Forall₂ (Fills message) segs parts ↔ parts = segs.map (filled message) := by
  constructor
  · intro h
    rw [← List.forall₂_eq_eq_eq, List.forall₂_map_right_iff]
    exact h.flip.imp fun _ _ => fills_iff.1
  · rintro rfl
    rw [List.forall₂_map_right_iff]
    exact List.forall₂_same.2 fun seg _ => fills_iff.2 rfl

end Template

namespace TemplateWriter

variable (d : TemplateWriter) (message : Entries)

theorem text_eq : d.text message =
    String.ofList ((Template.segments d.template.toList).map (Template.filled message)).flatten := by
  unfold text Template.render
  rw [← List.flatMap_def]
  refine congrArg String.ofList (List.flatMap_congr ?_)
  rintro (c | name) _
  · rfl
  · rfl

theorem hasAll_eq_false_iff : d.hasAll message = false ↔
    Template.Lacks message (Template.segments d.template.toList) := by
  unfold hasAll Template.Lacks
  rw [List.all_eq_false]
  constructor
  · rintro ⟨s, member, missing⟩
    obtain ⟨name, part, rfl⟩ := Template.mem_names_iff.1 member
    exact ⟨name, part, by simpa using missing⟩
  · rintro ⟨name, part, missing⟩
    exact ⟨_, Template.mem_names_iff.2 ⟨name, part, rfl⟩, by simpa using missing⟩

theorem decorate_of_lacks (requires : d.requireAll = true)
    (lacks : Template.Lacks message (Template.segments d.template.toList)) :
    d.decorate message = .ok message := by
  unfold decorate
  rw [requires, (d.hasAll_eq_false_iff message).2 lacks]
  rfl

theorem decorate_of_writes (writes : ¬ (d.requireAll = true ∧
    Template.Lacks message (Template.segments d.template.toList))) :
    d.decorate message =
      d.target.fixed.map fun _ => Entries.put message d.target (.str (d.text message)) := by
  have skips : (d.requireAll && !d.hasAll message) = false := by
    rw [← Bool.not_eq_true, Bool.and_eq_true, Bool.not_eq_true', d.hasAll_eq_false_iff message]
    exact writes
  unfold decorate
  rw [skips, if_neg Bool.false_ne_true]
  cases d.target.fixed <;> rfl

/-- A template splits in one way, and its parts written out are the template.  For each part there is one
text, and the texts one after another are what is put under the target, unless all fields are required
and the message lacks one: then the message is left as it is.  So with that requirement a message stays
the same when it lacks a field, or has just that text under the target already. -/
theorem decorate_splits : ∃ segs parts,
    (∀ others, Template.Splits d.template.toList others ↔ others = segs) ∧
    segs.flatMap Template.Segment.written = d.template.toList ∧
    (∀ others, List.Forall₂ (Template.Fills message) segs others ↔ others = parts) ∧
    (d.requireAll = true ∧ Template.Lacks message segs → d.decorate message = .ok message) ∧
    (¬ (d.requireAll = true ∧ Template.Lacks message segs) → d.decorate message =
      d.target.fixed.map fun _ =>
        Entries.put message d.target (.str (String.ofList parts.flatten))) ∧
    (d.requireAll = true → d.target.fixed = .ok () →
      (d.decorate message = .ok message ↔ Template.Lacks message segs ∨
        Entries.get? message d.target = some (.str (String.ofList parts.flatten)))) := by
  refine ⟨_, _, fun _ => Template.splits_iff, Template.flatMap_written_segments _,
    fun _ => Template.forall₂_fills_iff, ?_, ?_, ?_⟩
  · rintro ⟨requires, lacks⟩
    exact d.decorate_of_lacks message requires lacks
  · intro writes
    rw [← d.text_eq message]
    exact d.decorate_of_writes message writes
  · intro requires fixed
    rw [← d.text_eq message]
    by_cases lacks : Template.Lacks message (Template.segments d.template.toList)
    · exact iff_of_true (d.decorate_of_lacks message requires lacks) (.inl lacks)
    · rw [d.decorate_of_writes message fun h => lacks h.2, fixed, or_iff_right lacks,
        ← Entries.put_eq_self_iff]
      exact ⟨fun h => Except.ok.inj h, fun h => congrArg Except.ok h⟩

/-- A text from a field is not read as a template, and what is no placeholder stays. -/
example :
    decorate ⟨"$\x7ba\x7d $\x7b\x7d", .str "t", true⟩ [(.str "a", .str "$\x7bb\x7d"), (.str "b", .int 1)] =
      .ok [(.str "a", .str "$\x7bb\x7d"), (.str "b", .int 1),
        (.str "t", .str "$\x7bb\x7d $\x7b\x7d")] := by
  cbv

end TemplateWriter

end LogSearch
