import LogSearch.Proofs.Sort.Requests
import LogSearch.Sort.Written

/-!
# Which texts write a sort

A text is a field alone, to be sorted from the last value to the first, or a field and the name of a
direction with a colon between them.  The colon is the last one in the text, and the name of the
direction may have blanks around it and letters of any case.  Where the last colon is the first
character, nothing stands in front of it, and then it counts as a part of the field; but where only
blanks stand in front of it, there is no sort.

Main statement: `SortClause.ofText_outcome`.
-/

namespace LogSearch

namespace Text

variable {front core back : List Char}

/-- What trimming leaves stands between blanks. -/
theorem exists_trim (cs : List Char) :
    ∃ front back, cs = front ++ (trim cs ++ back) ∧ front.all isBlank = true ∧
      back.all isBlank = true := by
  refine ⟨cs.takeWhile isBlank, ((cs.dropWhile isBlank).reverse.takeWhile isBlank).reverse, ?_,
    List.all_takeWhile, ?_⟩
  · rw [trim, trimBy, ← List.reverse_append, List.takeWhile_append_dropWhile, List.reverse_reverse,
      List.takeWhile_append_dropWhile]
  · rw [List.all_reverse]
    exact List.all_takeWhile

/-- What has no blank in it is left when the blanks in front of it are dropped. -/
theorem dropWhile_isBlank_append (blank : front.all isBlank = true)
    (visible : ∀ c ∈ core, isBlank c = false) : (front ++ core).dropWhile isBlank = core := by
  rw [List.dropWhile_append_of_pos (List.all_eq_true.1 blank)]
  cases core with
  | nil => rfl
  | cons c cs =>
    have first := visible c List.mem_cons_self
    simp [first]

/-- What has no blank in it is left when the blanks around it are trimmed. -/
theorem trim_of_visible (blank : front.all isBlank = true) (blank' : back.all isBlank = true)
    (visible : ∀ c ∈ core, isBlank c = false) : trim (front ++ (core ++ back)) = core := by
  cases core with
  | nil =>
    refine trim_eq_nil_of_all ?_
    rw [List.nil_append, List.all_append, blank, blank']
    rfl
  | cons c cs =>
    have first := visible c List.mem_cons_self
    have dropped : (front ++ (c :: cs ++ back)).dropWhile isBlank = c :: cs ++ back := by
      rw [List.dropWhile_append_of_pos (List.all_eq_true.1 blank)]
      simp [first]
    have visible' : ∀ d ∈ (c :: cs).reverse, isBlank d = false :=
      fun d hd => visible d (List.mem_reverse.1 hd)
    rw [trim, trimBy, dropped, List.reverse_append,
      dropWhile_isBlank_append (by rw [List.all_reverse]; exact blank') visible',
      List.reverse_reverse]

end Text

namespace SortOrder

/-- A text names a direction when what stands between its blanks is the name in upper case. -/
def IsNamedBy (o : SortOrder) (text : String) : Prop :=
  ∃ front core back, text.toList = front ++ (core ++ back) ∧ front.all Text.isBlank = true ∧
    back.all Text.isBlank = true ∧ core.flatMap latinUpper = o.name.toList

variable {o : SortOrder} {text : String}

/-- A blank is the same in upper case. -/
theorem mem_latinUpper_of_isBlank {c : Char} (blank : Text.isBlank c = true) : c ∈ latinUpper c := by
  have same : c.toUpper = c := by
    unfold Char.toUpper
    rw [dif_neg]
    rintro ⟨low, high⟩
    have low : 97 ≤ c.toNat := low
    have high : c.toNat ≤ 122 := high
    simp only [Text.isBlank, Text.isSpace, Bool.or_eq_true, Bool.and_eq_true, decide_eq_true_eq,
      beq_iff_eq] at blank
    omega
  have other (d : Char) (visible : Text.isBlank d = false) : c ≠ d := by
    rintro rfl
    rw [blank] at visible
    cases visible
  simp (disch := decide) [latinUpper, other, same]

theorem isBlank_of_mem_name {c : Char} (h : c ∈ o.name.toList) : Text.isBlank c = false := by
  have visible : (o.name.toList.all fun c => !Text.isBlank c) = true := by
    cases o <;> decide
  simpa using List.all_eq_true.1 visible c h

theorem ofText?_eq_some_iff_upper :
    ofText? text = some o ↔ (Text.trim text.toList).flatMap latinUpper = o.name.toList := by
  unfold ofText?
  dsimp only
  cases o with
  | asc => split <;> simp_all [name]
  | desc => split <;> simp_all [name]

/-- The direction that is found in a text is the one that it names. -/
theorem ofText?_eq_some_iff : ofText? text = some o ↔ o.IsNamedBy text := by
  rw [ofText?_eq_some_iff_upper]
  constructor
  · intro upper
    obtain ⟨front, back, parts, blank, blank'⟩ := Text.exists_trim text.toList
    exact ⟨front, _, back, parts, blank, blank', upper⟩
  · rintro ⟨front, core, back, parts, blank, blank', upper⟩
    have visible : ∀ c ∈ core, Text.isBlank c = false := by
      intro c hc
      rw [← Bool.not_eq_true]
      intro isBlank
      have shown : c ∈ o.name.toList := by
        rw [← upper]
        exact List.mem_flatMap.2 ⟨c, hc, mem_latinUpper_of_isBlank isBlank⟩
      rw [isBlank_of_mem_name shown] at isBlank
      cases isBlank
    rw [parts, Text.trim_of_visible blank blank' visible, upper]

theorem isNamedBy_name (o : SortOrder) : o.IsNamedBy o.name :=
  ofText?_eq_some_iff.1 (ofText?_name o)

end SortOrder

section LastColon

variable {cs front back : List Char}

/-- A text is split at its last colon, and nowhere else. -/
theorem splitLastColon?_eq_some_iff :
    splitLastColon? cs = some (front, back) ↔ cs = front ++ ':' :: back ∧ ':' ∉ back := by
  constructor
  · intro h
    unfold splitLastColon? at h
    split at h
    · rename_i c left behind
      obtain ⟨rfl, rfl⟩ := Prod.mk.inj (Option.some.inj h)
      have isColon : c = ':' := by
        have stops := List.head?_dropWhile_not (· != ':') cs.reverse
        rw [behind] at stops
        simpa using stops
      rw [isColon] at behind
      have parts : cs.reverse = cs.reverse.takeWhile (· != ':') ++ ':' :: left := by
        rw [← behind, List.takeWhile_append_dropWhile]
      constructor
      · calc cs = cs.reverse.reverse := (List.reverse_reverse cs).symm
          _ = (cs.reverse.takeWhile (· != ':') ++ ':' :: left).reverse := congrArg List.reverse parts
          _ = left.reverse ++ ':' :: (cs.reverse.takeWhile (· != ':')).reverse := by simp
      · intro member
        have passed := List.all_eq_true.1 List.all_takeWhile _ (List.mem_reverse.1 member)
        simp at passed
    · cases h
  · rintro ⟨rfl, noColon⟩
    exact splitLastColon?_append front back noColon

theorem splitLastColon?_eq_none_iff : splitLastColon? cs = none ↔ ':' ∉ cs := by
  constructor
  · intro h
    unfold splitLastColon? at h
    split at h
    · cases h
    · rename_i none
      intro member
      have parts := List.takeWhile_append_dropWhile (p := (· != ':')) (l := cs.reverse)
      rw [none, List.append_nil] at parts
      rw [← List.mem_reverse, ← parts] at member
      simpa using List.all_eq_true.1 List.all_takeWhile _ member
  · intro noColon
    rw [Option.eq_none_iff_forall_ne_some]
    rintro ⟨front, back⟩ h
    obtain ⟨rfl, -⟩ := splitLastColon?_eq_some_iff.1 h
    simp at noColon

end LastColon

namespace SortClause

/-- A text writes a clause: its field alone, or its field and a name of its direction with a colon
between them. -/
inductive IsWritten : SortClause → String → Prop
  | plain {field : String} (named : Text.allBlank field = false) (noColon : ':' ∉ field.toList) :
    IsWritten ⟨field, .desc⟩ field
  /-- Nothing stands in front of the colon, which is a part of the field then. -/
  | colonFirst {rest : String} (noColon : ':' ∉ rest.toList) :
    IsWritten ⟨":" ++ rest, .desc⟩ (":" ++ rest)
  | directed {field direction : String} {o : SortOrder} (named : Text.allBlank field = false)
    (noColon : ':' ∉ direction.toList) (names : o.IsNamedBy direction) :
    IsWritten ⟨field, o⟩ (field ++ ":" ++ direction)

variable {text field direction rest : String} {c : SortClause}

/-- A text has no colon, or has one in front and no other, or has something in front of its last. -/
theorem text_cases (text : String) :
    ':' ∉ text.toList ∨ (∃ rest, ':' ∉ rest.toList ∧ text = ":" ++ rest) ∨
      ∃ field direction, field ≠ "" ∧ ':' ∉ direction.toList ∧ text = field ++ ":" ++ direction := by
  cases split : splitLastColon? text.toList with
  | none => exact .inl (splitLastColon?_eq_none_iff.1 split)
  | some parts =>
    obtain ⟨front, back⟩ := parts
    obtain ⟨joined, noColon⟩ := splitLastColon?_eq_some_iff.1 split
    refine .inr ?_
    cases front with
    | nil =>
      refine .inl ⟨String.ofList back, by simpa using noColon, ?_⟩
      rw [← String.toList_inj, joined]
      simp
    | cons first front =>
      refine .inr ⟨String.ofList (first :: front), String.ofList back, ?_, by simpa using noColon, ?_⟩
      · intro empty
        simpa using congrArg String.toList empty
      · rw [← String.toList_inj, joined]
        simp

theorem ofText_of_no_colon (noColon : ':' ∉ text.toList) :
    ofText text = create (.str text) (.order .desc) := by
  rw [ofText, splitLastColon?_eq_none_iff.2 noColon]

theorem ofText_of_colon_first (noColon : ':' ∉ rest.toList) :
    ofText (":" ++ rest) = create (.str (":" ++ rest)) (.order .desc) := by
  have split : splitLastColon? (":" ++ rest).toList = some ([], rest.toList) :=
    splitLastColon?_eq_some_iff.2 ⟨by simp, noColon⟩
  rw [ofText, split]

theorem ofText_of_last_colon (filled : field ≠ "") (noColon : ':' ∉ direction.toList) :
    ofText (field ++ ":" ++ direction) = create (.str field) (.str direction) := by
  have split : splitLastColon? (field ++ ":" ++ direction).toList =
      some (field.toList, direction.toList) :=
    splitLastColon?_eq_some_iff.2 ⟨by simp, noColon⟩
  cases chars : field.toList with
  | nil => exact absurd (String.toList_inj.1 chars) filled
  | cons first others =>
    rw [ofText, split, chars]
    dsimp only
    rw [← chars, String.ofList_toList, String.ofList_toList]

/-- A clause is created of a field with a name and a direction, given or named. -/
theorem create_eq_ok_iff {order : Value} :
    create (.str field) order = .ok c ↔
      Text.allBlank field = false ∧ SortOrder.ofValue? order = some c.order ∧ c.field = field := by
  unfold create
  cases SortOrder.ofValue? order with
  | none => simp
  | some o =>
    cases blank : Text.allBlank field with
    | true => simp [check, blank]
    | false =>
      dsimp only
      rw [check_str blank]
      constructor
      · intro h
        obtain rfl := Except.ok.inj h
        exact ⟨rfl, rfl, rfl⟩
      · rintro ⟨-, same, rfl⟩
        obtain rfl := Option.some.inj same
        rfl

/-- What no clause is created of is reported as a sort. -/
theorem exists_of_create_eq_error {order : Value} {e : Failure}
    (h : create (.str field) order = .error e) :
    ∃ field order reason, e = (Report.invalidSort field order reason).failure := by
  unfold create at h
  cases named : SortOrder.ofValue? order with
  | none =>
    rw [named] at h
    exact ⟨_, _, _, (Except.error.inj h).symm⟩
  | some o =>
    rw [named] at h
    cases blank : Text.allBlank field with
    | true =>
      simp only [check, blank, if_true] at h
      exact ⟨_, _, _, (Except.error.inj h).symm⟩
    | false =>
      simp only [check_str blank] at h
      cases h

theorem isWritten_of_ofText (h : ofText text = .ok c) : c.IsWritten text := by
  obtain ⟨field, order⟩ := c
  rcases text_cases text with noColon | ⟨rest, noColon, rfl⟩ |
    ⟨front, direction, filled, noColon, rfl⟩
  · rw [ofText_of_no_colon noColon, create_eq_ok_iff] at h
    obtain ⟨named, direction, rfl⟩ := h
    obtain rfl := Option.some.inj direction
    exact .plain named noColon
  · rw [ofText_of_colon_first noColon, create_eq_ok_iff] at h
    obtain ⟨-, direction, rfl⟩ := h
    obtain rfl := Option.some.inj direction
    exact .colonFirst noColon
  · rw [ofText_of_last_colon filled noColon, create_eq_ok_iff] at h
    obtain ⟨named, names, rfl⟩ := h
    exact .directed named noColon (SortOrder.ofText?_eq_some_iff.1 names)

theorem ne_empty_of_allBlank (named : Text.allBlank field = false) : field ≠ "" := by
  rintro rfl
  cases named

theorem ofText_of_isWritten (h : c.IsWritten text) : ofText text = .ok c := by
  cases h with
  | plain named noColon =>
    rw [ofText_of_no_colon noColon, create_eq_ok_iff]
    exact ⟨named, rfl, rfl⟩
  | colonFirst noColon =>
    rw [ofText_of_colon_first noColon, create_eq_ok_iff]
    refine ⟨?_, rfl, rfl⟩
    simp [Text.allBlank, Text.isBlank, Text.isSpace]
  | directed named noColon names =>
    rw [ofText_of_last_colon (ne_empty_of_allBlank named) noColon, create_eq_ok_iff]
    exact ⟨named, SortOrder.ofText?_eq_some_iff.2 names, rfl⟩

theorem exists_of_ofText_eq_error {e : Failure} (h : ofText text = .error e) :
    ∃ field order reason, e = (Report.invalidSort field order reason).failure := by
  unfold ofText at h
  split at h
  · exact exists_of_create_eq_error h
  · exact exists_of_create_eq_error h

theorem colon_notMem_name (o : SortOrder) : ':' ∉ o.name.toList := by
  cases o <;> decide

/-- A text gives just the clauses that it writes, of which there is at most one, and where it writes
none it is reported as a sort.  So a clause with a name is given again by its field and the name of its
direction, whatever colons are in the field.  Of the texts with only blanks in front of their last
colon, those with a blank there write nothing, and those with nothing there a clause by all of the
text. -/
theorem ofText_outcome (text : String) :
    (∀ c, ofText text = .ok c ↔ c.IsWritten text) ∧
    ((∀ c : SortClause, ¬ c.IsWritten text) → ∃ field order reason,
      ofText text = .error (Report.invalidSort field order reason).failure) ∧
    (∀ c : SortClause, c.isNamed = true → text = c.field ++ ":" ++ c.order.name →
      ofText text = .ok c) ∧
    ∀ front back, text = front ++ ":" ++ back → Text.allBlank front = true → ':' ∉ back.toList →
      (front = "" → ofText text = .ok ⟨text, .desc⟩) ∧ (front ≠ "" → ∀ c, ofText text ≠ .ok c) := by
  have writes (c : SortClause) : ofText text = .ok c ↔ c.IsWritten text :=
    ⟨isWritten_of_ofText, ofText_of_isWritten⟩
  refine ⟨writes, ?_, ?_, ?_⟩
  · intro unwritten
    cases outcome : ofText text with
    | ok c => exact absurd ((writes c).1 outcome) (unwritten c)
    | error e =>
      obtain ⟨field, order, reason, rfl⟩ := exists_of_ofText_eq_error outcome
      exact ⟨field, order, reason, rfl⟩
  · rintro c named rfl
    have named : Text.allBlank c.field = false := by simpa [isNamed] using named
    exact ofText_of_isWritten (.directed named (colon_notMem_name _) (SortOrder.isNamedBy_name _))
  · rintro front back rfl blank noColon
    constructor
    · rintro rfl
      exact ofText_of_isWritten (.colonFirst noColon)
    · intro filled c given
      rw [ofText_of_last_colon filled noColon, create_eq_ok_iff, blank] at given
      cases given.1

/-- A field with colons in it, and a direction in small letters between blanks. -/
theorem ofText_outcome_colons :
    let c : SortClause := ⟨"a::b", .asc⟩
    c.isNamed = true ∧ ofText "a::b:ASC" = .ok c ∧ c.IsWritten "a::b: asc\n" ∧
      ofText "a::b: asc\n" = .ok c ∧ ∀ c', ofText " :asc" ≠ .ok c' := by
  intro c
  have named : c.isNamed = true := by decide
  have names : SortOrder.asc.IsNamedBy " asc\n" :=
    ⟨[' '], ['a', 's', 'c'], ['\n'], by decide, by decide, by decide, by decide⟩
  have written : c.IsWritten "a::b: asc\n" := .directed (by decide) (by decide) names
  obtain ⟨-, -, again, -⟩ := ofText_outcome "a::b:ASC"
  obtain ⟨gives, -⟩ := ofText_outcome "a::b: asc\n"
  obtain ⟨-, -, -, blank⟩ := ofText_outcome " :asc"
  refine ⟨named, again c named (by decide), written, (gives c).2 written, ?_⟩
  exact (blank " " "asc" (by decide) (by decide) (by decide)).2 (by decide)

/-- The name of a direction with nothing in front of its colon is taken for a field, which no rule for
a field alone or a field with a direction gives. -/
theorem ofText_colon_first :
    ofText ":asc" = .ok ⟨":asc", .desc⟩ ∧ ":asc" = "" ++ ":" ++ "asc" ∧
      ':' ∈ ":asc".toList ∧ ∀ direction, ":asc" ≠ ":asc" ++ ":" ++ direction := by
  have written : IsWritten ⟨":" ++ "asc", .desc⟩ (":" ++ "asc") := .colonFirst (by decide)
  refine ⟨ofText_of_isWritten written, by decide, by decide, ?_⟩
  intro direction same
  have lengths := congrArg (fun text => text.toList.length) same
  simp at lengths

end SortClause

end LogSearch
