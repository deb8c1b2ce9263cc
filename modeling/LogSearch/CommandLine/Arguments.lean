import LogSearch.Text.Integer
import LogSearch.Text.Quoted
import LogSearch.Value.Basic

/-!
# Arguments of a command

A command takes options and operands.  An option starts with a dash; a long one may be cut short as
long as no other starts like it, and its argument follows it, in the same word after an equals sign
or in the next word.  After a word `--` there are only operands.  A word that looks like a negative
number, or has a blank in it, is an operand too unless it starts like an option.

Words are first told apart and then taken in order: each option with its argument, and of the
operands as many as the command takes.  What is left over is handed back.

Renders `ArgumentParser.parse_args` of `argparse`.
-/

namespace LogSearch.CommandLine

/-- What the argument of an option is read as. -/
inductive ArgumentKind
  | text
  | integer
deriving Repr, DecidableEq

/-- An option.  One without an argument asks for help. -/
structure Form where
  /-- How it may be written, with its dashes. -/
  names : List String
  argument : Option ArgumentKind
deriving Repr, DecidableEq

/-- The option that asks for help. -/
def helpForm : Form := ⟨["-h", "--help"], none⟩

/-- The operands that a command takes. -/
inductive Operands
  | none
  /-- One, which may be left out. -/
  | optional
  /-- One, and with it all that follows. -/
  | rest
deriving Repr, DecidableEq

/-- How the arguments of a command are written. -/
structure Grammar where
  /-- What the command is called in messages. -/
  program : String
  options : List Form
  operands : Operands
deriving Repr, DecidableEq

/-- Why arguments are refused. -/
inductive UsageError
  /-- A word that starts like several options, which are given as they are written in full. -/
  | ambiguous (word : String) (candidates : List String)
  | missingArgument (option : String)
  /-- An option was given an argument that it does not take. -/
  | unwanted (option argument : String)
  | notInteger (option argument : String)
  | invalidChoice (operand argument : String) (choices : List String)
  | missingOperand (operand : String)
  | leftOver (words : List String)
deriving Repr, DecidableEq

/-- An error in words. -/
def UsageError.message : UsageError → String
  | ambiguous word candidates =>
    "ambiguous option: " ++ word ++ " could match " ++ ", ".intercalate candidates
  | missingArgument option => "argument " ++ option ++ ": expected one argument"
  | unwanted option argument =>
    "argument " ++ option ++ ": ignored explicit argument " ++ Text.quoted argument
  | notInteger option argument =>
    "argument " ++ option ++ ": invalid int value: " ++ Text.quoted argument
  | invalidChoice operand argument choices =>
    "argument " ++ operand ++ ": invalid choice: " ++ Text.quoted argument ++ " (choose from " ++
      ", ".intercalate (choices.map Text.quoted) ++ ")"
  | missingOperand operand => "the following arguments are required: " ++ operand
  | leftOver words => "unrecognized arguments: " ++ " ".intercalate words

/-- Why reading arguments stops. -/
inductive Stop
  /-- The help of a command was asked for. -/
  | help (program : String)
  | usage (program : String) (error : UsageError)
deriving Repr, DecidableEq

/-- The line that tells why arguments were refused. -/
def Stop.line? : Stop → Option String
  | help _ => none
  | usage program error => some (program ++ ": error: " ++ error.message)

/-- What a word is. -/
inductive Role
  | operand
  /-- After this word there are only operands. -/
  | separator
  /-- An option by its name, and what stands behind the name in the same word. -/
  | option (name : String) (form : Form) (attached : Option (List Char))
  /-- Written like an option, but none. -/
  | unknown
deriving Repr, DecidableEq

/-- A word, and what it is. -/
structure Token where
  word : String
  role : Role
deriving Repr, DecidableEq

/-- Whether a text is a number with a minus sign: digits, or a point with digits behind it and maybe
before it.  A line feed may follow. -/
def isNegativeNumber (cs : List Char) : Bool :=
  match cs with
  | '-' :: body =>
    let body := if body.getLast? == some '\n' then body.dropLast else body
    let isDigit (c : Char) : Bool := (Text.digitValue? c).isSome
    match body.dropWhile isDigit with
    | [] => !body.isEmpty
    | '.' :: fraction => !fraction.isEmpty && fraction.all isDigit
    | _ => false
  | _ => false

namespace Grammar

/-- The options of a grammar by name. -/
def named (g : Grammar) : List (String × Form) :=
  g.options.flatMap fun form => form.names.map fun name => (name, form)

/-- The option with a name, and the name. -/
def form? (g : Grammar) (name : List Char) : Option (String × Form) :=
  g.named.find? fun (n, _) => n.toList == name

/-- Splits a word at its first equals sign. -/
def splitMark (cs : List Char) : List Char × Option (List Char) :=
  match cs.dropWhile (· != '=') with
  | _ :: text => (cs.takeWhile (· != '='), some text)
  | [] => (cs, none)

/-- The options that a word which is none may stand for, with what is behind their names: the ones
that start like it, and for a single dash the one whose name is its first letter. -/
def candidates (g : Grammar) (cs : List Char) : List (String × Form × Option (List Char)) :=
  if cs.take 2 = ['-', '-'] then
    let (start, attached) := splitMark cs
    g.named.filterMap fun (name, form) =>
      if start.isPrefixOf name.toList then some (name, form, attached) else none
  else
    g.named.filterMap fun (name, form) =>
      if name.toList = cs.take 2 then some (name, form, some (cs.drop 2))
      else if cs.isPrefixOf name.toList then some (name, form, none)
      else none

/-- Tells what a word is that stands before any `--`. -/
def role (g : Grammar) (word : String) : Except UsageError Role :=
  let cs := word.toList
  if cs.head? != some '-' then .ok .operand
  else
    match g.form? cs with
    | some (name, form) => .ok (.option name form none)
    | none =>
      if cs.length = 1 then .ok .operand
      else
        let (start, attached) := splitMark cs
        match attached, g.form? start with
        | some attached, some (name, form) => .ok (.option name form (some attached))
        | _, _ =>
          match g.candidates cs with
          | [(name, form, attached)] => .ok (.option name form attached)
          | [] => .ok (if isNegativeNumber cs || cs.contains ' ' then .operand else .unknown)
          | several => .error (.ambiguous word (several.map Prod.fst))

/-- Tells what the words are. -/
def tokens (g : Grammar) : List String → Except UsageError (List Token)
  | [] => .ok []
  | word :: rest =>
    if word = "--" then .ok (⟨word, .separator⟩ :: rest.map (⟨·, .operand⟩))
    else do
      let role ← g.role word
      return ⟨word, role⟩ :: (← g.tokens rest)

end Grammar

/-- What was read: the arguments of the options, the operands, and what is left over. -/
structure Given where
  /-- The arguments of the options, in order. -/
  options : List (String × Value) := []
  operands : List String := []
  leftOver : List String := []

namespace Given

/-- Puts the argument of an option in front. -/
def withOption (g : Given) (key : String) (v : Value) : Given :=
  { g with options := (key, v) :: g.options }

/-- Puts a word in front that is left over. -/
def withLeftOver (g : Given) (word : String) : Given := { g with leftOver := word :: g.leftOver }

/-- All arguments of an option, in order. -/
def all (g : Given) (key : String) : List Value :=
  g.options.filterMap fun (k, v) => if k = key then some v else none

/-- The last argument of an option. -/
def last? (g : Given) (key : String) : Option Value := (g.all key).getLast?

end Given

namespace Form

/-- The name of an option in messages. -/
def title (form : Form) : String := "/".intercalate form.names

/-- The name of an option in what was read. -/
def key (form : Form) : String := form.names.getLast?.getD ""

/-- The argument of an option. -/
def read (form : Form) (kind : ArgumentKind) (text : String) : Except UsageError Value :=
  match kind with
  | .text => .ok (.str text)
  | .integer =>
    match Text.integer? text with
    | .ok n => .ok (.int n)
    | .error _ => .error (.notInteger form.title text)

end Form

namespace Grammar

/-- Stops with an error. -/
def refuse {α : Type} (g : Grammar) (error : UsageError) : Except Stop α :=
  .error (.usage g.program error)

/-- The letters of options without arguments may stand together behind one dash.  The first asks for
help, unless a letter behind it is none of an option. -/
def flags (g : Grammar) (form : Form) (text : List Char) : Stop :=
  let unwanted := Stop.usage g.program (.unwanted form.title (String.ofList text))
  match text with
  | [] => unwanted
  | c :: r =>
    match g.form? ['-', c] with
    | none => unwanted
    | some (_, next) =>
      if r.isEmpty || next.argument.isSome then .help g.program else flags g next r

/-- The argument of an option, and whether it is the word that follows.  Where `--` stands in the
same word it is dropped, so that the argument has no words at all. -/
def argument (g : Grammar) (name : String) (form : Form) (attached : Option (List Char))
    (next : Option Token) : Except Stop (Value × Bool) :=
  match form.argument, attached with
  | none, none => .error (.help g.program)
  | none, some text =>
    if name.length = 2 then .error (g.flags form text)
    else g.refuse (.unwanted form.title (String.ofList text))
  | some kind, some text =>
    if text = ['-', '-'] then .ok (.list [], false)
    else
      match form.read kind (String.ofList text) with
      | .ok v => .ok (v, false)
      | .error e => g.refuse e
  | some kind, none =>
    match next with
    | some ⟨word, .operand⟩ =>
      match form.read kind word with
      | .ok v => .ok (v, true)
      | .error e => g.refuse e
    | _ => g.refuse (.missingArgument form.title)

/-- What operands are to be read from here on, where one stands. -/
def operandsAt (g : Grammar) (isFree : Bool) : Operands := if isFree then g.operands else .none

/-- Takes the words in order; `isFree` says that no operand was taken yet. -/
def take (g : Grammar) (isFree : Bool) (ts : List Token) : Except Stop Given :=
  match ts with
  | [] => .ok {}
  | t :: r =>
    match t.role with
    | .option name form attached => do
      let (v, used) ← g.argument name form attached r.head?
      return (← g.take isFree (if used then r.tail else r)).withOption form.key v
    | .unknown => return (← g.take isFree r).withLeftOver t.word
    | .operand =>
      match g.operandsAt isFree with
      | .none => return (← g.take isFree r).withLeftOver t.word
      | .optional => do
        let ends := (r.head?.map Token.role) == some .separator
        return { ← g.take false (if ends then r.tail else r) with operands := [t.word] }
      | .rest => return { operands := t.word :: r.map Token.word }
    | .separator =>
      match g.operandsAt isFree, r.head? with
      | .optional, some next => return { ← g.take false r.tail with operands := [next.word] }
      | .optional, none => return {}
      | .rest, some _ => return { operands := t.word :: r.map Token.word }
      | _, _ => return (← g.take isFree r).withLeftOver t.word
termination_by ts.length
decreasing_by all_goals (simp only [List.length_cons]; grind)

/-- Reads arguments. -/
def read (g : Grammar) (words : List String) : Except Stop Given :=
  match g.tokens words with
  | .ok ts => g.take true ts
  | .error e => g.refuse e

end Grammar

end LogSearch.CommandLine
