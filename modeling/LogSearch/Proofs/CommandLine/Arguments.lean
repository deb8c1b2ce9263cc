import LogSearch.CommandLine.Command
import LogSearch.Proofs.Flow

/-!
# What a command is given

An option takes a text or an integer, and its argument is read as what it takes.  There is one way out:
where `--` stands in the same word it is dropped, and then there are no words at all.

Main statement: `Command.isRead_of_read`, which says so for every command that is read.
-/

namespace LogSearch.CommandLine

/-- What the argument of an option is read as: a text or an integer, or no words at all. -/
inductive ArgumentKind.Reads : ArgumentKind → Value → Prop
  | text (s : String) : Reads .text (.str s)
  | integer (n : Int) : Reads .integer (.int n)
  | nothing (kind : ArgumentKind) : Reads kind (.list [])

theorem Form.reads_of_read {form : Form} {kind : ArgumentKind} {text : String} {v : Value}
    (h : form.read kind text = .ok v) : kind.Reads v := by
  cases kind with
  | text =>
    obtain rfl := Except.ok.inj h
    exact .text text
  | integer =>
    unfold Form.read at h
    dsimp only at h
    split at h
    · obtain rfl := Except.ok.inj h
      exact .integer _
    · cases h

namespace Grammar

variable {g : Grammar}

theorem reads_of_argument {name : String} {form : Form} {attached : Option (List Char)}
    {next : Option Token} {v : Value} {used : Bool}
    (h : g.argument name form attached next = .ok (v, used)) :
    ∃ kind, form.argument = some kind ∧ kind.Reads v := by
  unfold argument at h
  split at h
  · cases h
  · split at h <;> cases h
  · rename_i kind text isKind
    refine ⟨kind, isKind, ?_⟩
    split at h
    · obtain ⟨rfl, -⟩ := Prod.mk.inj (Except.ok.inj h)
      exact .nothing kind
    · split at h
      · rename_i w read
        obtain ⟨rfl, -⟩ := Prod.mk.inj (Except.ok.inj h)
        exact Form.reads_of_read read
      · cases h
  · rename_i kind isKind
    refine ⟨kind, isKind, ?_⟩
    split at h
    · split at h
      · rename_i w read
        obtain ⟨rfl, -⟩ := Prod.mk.inj (Except.ok.inj h)
        exact Form.reads_of_read read
      · cases h
    · cases h

/-- The option that a word is, if it is one, is an option of the grammar. -/
def Knows (g : Grammar) : Role → Prop
  | .option _ form _ => form ∈ g.options
  | _ => True

theorem mem_options_of_mem_named {name : String} {form : Form} (h : (name, form) ∈ g.named) :
    form ∈ g.options := by
  unfold named at h
  obtain ⟨f, hf, h⟩ := List.mem_flatMap.1 h
  obtain ⟨n, -, h⟩ := List.mem_map.1 h
  obtain ⟨-, rfl⟩ := Prod.mk.inj h
  exact hf

theorem mem_options_of_form? {cs : List Char} {name : String} {form : Form}
    (h : g.form? cs = some (name, form)) : form ∈ g.options :=
  mem_options_of_mem_named (List.mem_of_find?_eq_some h)

theorem mem_options_of_mem_candidates {cs : List Char} {name : String} {form : Form}
    {attached : Option (List Char)} (h : (name, form, attached) ∈ g.candidates cs) :
    form ∈ g.options := by
  unfold candidates at h
  split at h
  · obtain ⟨⟨n, f⟩, member, h⟩ := List.mem_filterMap.1 h
    obtain ⟨-, h⟩ := Option.ite_none_right_eq_some.1 h
    cases h
    exact mem_options_of_mem_named member
  · obtain ⟨⟨n, f⟩, member, h⟩ := List.mem_filterMap.1 h
    dsimp only at h
    split at h
    · cases h
      exact mem_options_of_mem_named member
    · split at h
      · cases h
        exact mem_options_of_mem_named member
      · cases h

theorem knows_of_role {word : String} {role : Role} (h : g.role word = .ok role) : g.Knows role := by
  unfold Grammar.role at h
  dsimp only at h
  split at h
  · cases h; trivial
  · split at h
    · rename_i name form found
      cases h
      exact mem_options_of_form? found
    · split at h
      · cases h; trivial
      · split at h
        · rename_i attached name form _ found
          cases h
          exact mem_options_of_form? found
        · split at h
          · rename_i name form attached only
            cases h
            exact mem_options_of_mem_candidates (only ▸ List.mem_singleton_self _)
          · cases h
            split <;> trivial
          · cases h

theorem knows_of_tokens {words : List String} {ts : List Token} (h : g.tokens words = .ok ts) :
    ∀ t ∈ ts, g.Knows t.role := by
  induction words generalizing ts with
  | nil =>
    cases h
    exact fun t ht => (List.not_mem_nil ht).elim
  | cons word rest ih =>
    unfold tokens at h
    split at h
    · cases h
      intro t ht
      rcases List.mem_cons.1 ht with rfl | ht
      · trivial
      · obtain ⟨w, -, rfl⟩ := List.mem_map.1 ht
        trivial
    · obtain ⟨role, first, h⟩ := exists_of_bind_eq_ok h
      obtain ⟨tail, others, h⟩ := exists_of_bind_eq_ok h
      obtain rfl := Except.ok.inj h
      intro t ht
      rcases List.mem_cons.1 ht with rfl | ht
      · exact knows_of_role first
      · exact ih others t ht

/-- The words that are told apart are the words that are given. -/
theorem word_tokens {words : List String} {ts : List Token} (h : g.tokens words = .ok ts) :
    ts.map Token.word = words := by
  induction words generalizing ts with
  | nil =>
    obtain rfl := Except.ok.inj h
    rfl
  | cons word rest ih =>
    unfold tokens at h
    by_cases separates : word = "--"
    · rw [if_pos separates] at h
      obtain rfl := Except.ok.inj h
      simp [Function.comp_def]
    · rw [if_neg separates] at h
      obtain ⟨role, -, h⟩ := exists_of_bind_eq_ok h
      obtain ⟨tail, others, h⟩ := exists_of_bind_eq_ok h
      obtain rfl := Except.ok.inj h
      rw [List.map_cons, ih others]

/-- Every argument is one of an option of the grammar, and is read as that option says. -/
def Takes (g : Grammar) (given : Given) : Prop :=
  ∀ entry ∈ given.options, ∃ form ∈ g.options, form.key = entry.1 ∧
    ∃ kind, form.argument = some kind ∧ kind.Reads entry.2

theorem Takes.of_options {given other : Given} (h : g.Takes given)
    (same : other.options = given.options) : g.Takes other := by
  unfold Takes
  rw [same]
  exact h

theorem takes_of_take {isFree : Bool} {ts : List Token} {given : Given}
    (known : ∀ t ∈ ts, g.Knows t.role) (h : g.take isFree ts = .ok given) : g.Takes given := by
  have none : g.Takes {} := fun entry member => (List.not_mem_nil member).elim
  have behind {t : Token} {r : List Token} (all : ∀ u ∈ t :: r, g.Knows u.role) (used : Bool) :
      ∀ u ∈ if used then r.tail else r, g.Knows u.role := by
    intro u member
    refine all u (List.mem_cons_of_mem t ?_)
    cases used with
    | true => exact List.mem_of_mem_tail member
    | false => exact member
  fun_induction g.take isFree ts generalizing given with
  | case1 =>
    obtain rfl := Except.ok.inj h
    exact none
  | case2 isFree t r name form attached isOption ih =>
    obtain ⟨⟨v, used⟩, read, h⟩ := exists_of_bind_eq_ok h
    obtain ⟨rest, others, h⟩ := exists_of_bind_eq_ok h
    obtain rfl := Except.ok.inj h
    have own : form ∈ g.options := by
      have := known t List.mem_cons_self
      rwa [isOption] at this
    intro entry member
    rcases List.mem_cons.1 member with rfl | member
    · exact ⟨form, own, rfl, reads_of_argument read⟩
    · exact ih used (behind known used) others entry member
  | case3 isFree t r isUnknown ih | case4 isFree t r isOperand full ih =>
    obtain ⟨rest, others, h⟩ := exists_of_bind_eq_ok h
    obtain rfl := Except.ok.inj h
    exact (ih (behind known false) others).of_options rfl
  | case5 =>
    rename_i ends ih
    obtain ⟨rest, others, h⟩ := exists_of_bind_eq_ok h
    obtain rfl := Except.ok.inj h
    exact (ih (behind known ends) others).of_options rfl
  | case6 | case8 | case9 =>
    obtain rfl := Except.ok.inj h
    exact none.of_options rfl
  | case7 isFree t r isSeparator next isNext one ih =>
    obtain ⟨rest, others, h⟩ := exists_of_bind_eq_ok h
    obtain rfl := Except.ok.inj h
    exact (ih (behind known true) others).of_options rfl
  | case10 isFree t r isSeparator _ _ _ ih =>
    obtain ⟨rest, others, h⟩ := exists_of_bind_eq_ok h
    obtain rfl := Except.ok.inj h
    exact (ih (behind known false) others).of_options rfl

theorem takes_of_read {words : List String} {given : Given} (h : g.read words = .ok given) :
    g.Takes given := by
  unfold read at h
  split at h
  · rename_i ts isTokens
    exact takes_of_take (knows_of_tokens isTokens) h
  · cases h

/-- All arguments of an option are read as it says. -/
theorem Takes.reads {given : Given} {key : String} {kind : ArgumentKind} (h : g.Takes given)
    (only : ∀ form ∈ g.options, form.key = key → form.argument = some kind) :
    ∀ v ∈ given.all key, kind.Reads v := by
  intro v hv
  unfold Given.all at hv
  obtain ⟨⟨k, w⟩, member, found⟩ := List.mem_filterMap.1 hv
  obtain ⟨same, found⟩ := Option.ite_none_right_eq_some.1 found
  obtain rfl := Option.some.inj found
  obtain ⟨form, own, isKey, other, takes, reads⟩ := h _ member
  rw [only form own (isKey.trans same)] at takes
  obtain rfl := Option.some.inj takes
  exact reads

/-- So is the last one, if there is any. -/
theorem Takes.reads_last {given : Given} {key : String} {kind : ArgumentKind} (h : g.Takes given)
    (only : ∀ form ∈ g.options, form.key = key → form.argument = some kind) :
    given.last? key = none ∨ ∃ v, given.last? key = some v ∧ kind.Reads v := by
  cases last : given.last? key with
  | none => exact .inl rfl
  | some v => exact .inr ⟨v, rfl, h.reads only v (List.mem_of_getLast? last)⟩

end Grammar

/-- Arguments of `search` whose options are read as it says. -/
structure SearchArguments.IsRead (a : SearchArguments) : Prop where
  limit : a.limit = .null ∨ ArgumentKind.integer.Reads a.limit
  offset : ArgumentKind.integer.Reads a.offset
  sorts : ∀ v ∈ a.sorts, ArgumentKind.text.Reads v
  streams : ∀ v ∈ a.streams, ArgumentKind.text.Reads v
  name : a.name = .null ∨ ArgumentKind.text.Reads a.name

/-- A command whose options are read as it says. -/
def Command.IsRead : Command → Prop
  | ping attempts => ArgumentKind.integer.Reads attempts
  | search arguments => arguments.IsRead

namespace Command

variable {given : Given}

theorem isRead_ofPing (h : pingGrammar.Takes given) : (ofPing given).IsRead := by
  have only : ∀ form ∈ pingGrammar.options, form.key = "--attempts" → form.argument = some .integer := by
    decide
  rcases h.reads_last only with last | ⟨v, last, reads⟩
  · unfold ofPing
    rw [last]
    exact .integer 30
  · unfold ofPing
    rw [last]
    exact reads

theorem isRead_ofSearch (h : searchGrammar.Takes given) : (ofSearch given).IsRead where
  limit := by
    have only : ∀ form ∈ searchGrammar.options, form.key = "--limit" → form.argument = some .integer := by
      decide
    rcases h.reads_last only with last | ⟨v, last, reads⟩
    · exact .inl (congrArg Value.ofOption last)
    · exact .inr ((congrArg Value.ofOption last).symm ▸ reads)
  offset := by
    have only : ∀ form ∈ searchGrammar.options, form.key = "--offset" → form.argument = some .integer := by
      decide
    rcases h.reads_last only with last | ⟨v, last, reads⟩
    · exact (congrArg (·.getD (.int 0)) last).symm ▸ .integer 0
    · exact (congrArg (·.getD (.int 0)) last).symm ▸ reads
  sorts := h.reads (by decide)
  streams := h.reads (by decide)
  name := by
    have only : ∀ form ∈ searchGrammar.options, form.key = "--name" → form.argument = some .text := by
      decide
    rcases h.reads_last only with last | ⟨v, last, reads⟩
    · exact .inl (congrArg Value.ofOption last)
    · exact .inr ((congrArg Value.ofOption last).symm ▸ reads)

/-- The word that names the command is followed by its arguments. -/
theorem read_of_named {name : String} {arguments : List String} {grammar : Grammar}
    {make : Given → Command}
    (call : ∃ ts, callGrammar.tokens (name :: arguments) = .ok (⟨name, .operand⟩ :: ts))
    (isNamed : named? name = some (grammar, make)) (read : grammar.read arguments = .ok given)
    (all : given.leftOver = []) : Command.read (name :: arguments) = .ok (make given) := by
  have called : callGrammar.read (name :: arguments) = .ok { operands := name :: arguments } := by
    obtain ⟨ts, call⟩ := call
    have words := Grammar.word_tokens call
    unfold Grammar.read
    rw [call, ← words]
    dsimp only
    rw [Grammar.take]
    rfl
  simp [Command.read, called, isNamed, read, all, bind, Except.bind, pure, Except.pure]

theorem isRead_of_read {words : List String} {command : Command} (h : read words = .ok command) :
    command.IsRead := by
  unfold read at h
  obtain ⟨call, -, h⟩ := exists_of_bind_eq_ok h
  split at h
  · cases h
  · rename_i name arguments _
    split at h
    · cases h
    · rename_i grammar make isNamed
      obtain ⟨given, read, h⟩ := exists_of_bind_eq_ok h
      have takes := Grammar.takes_of_read read
      dsimp only at h
      split at h
      · obtain rfl := Except.ok.inj h
        unfold named? at isNamed
        split at isNamed
        · cases isNamed
          exact isRead_ofPing takes
        · cases isNamed
          exact isRead_ofSearch takes
        · cases isNamed
      · cases h

end Command

end LogSearch.CommandLine
