import LogSearch.Decimal.Reader
import LogSearch.Text.Integer
import LogSearch.Value.Basic

/-!
# Settings written as text

A setting is given as text and read as what it is: a text, an integer, a number, a switch, or a map
of texts written as JSON.  Each kind has its own rules, and its own ways to be wrong.

Renders the checks that `BaseSettings` makes of a field.
-/

namespace LogSearch.Settings

/-- Why a setting cannot be read. -/
inductive Issue
  | notInteger
  | integerTooLong
  | notNumber
  | notSwitch
  | notMap
  | notText
deriving Repr, DecidableEq

/-- The name of an issue. -/
def Issue.name : Issue → String
  | notInteger => "int_parsing"
  | integerTooLong => "int_parsing_size"
  | notNumber => "float_parsing"
  | notSwitch => "bool_parsing"
  | notMap => "dict_type"
  | notText => "string_type"

/-- Drops the zeros that lead a number, and the underscores among them.  One character is left when
nothing else follows them, and one before a point.  A text that starts neither with a digit nor with
a minus sign is no number's. -/
def withoutLeadingZeros? : List Char → Option (List Char)
  | '0' :: r => afterZeros '0' r
  | c :: r => if Text.isAsciiDigit c || c = '-' then some (c :: r) else none
  | [] => none
where
  /-- What is left after zeros and underscores, of which `last` is the last. -/
  afterZeros (last : Char) : List Char → Option (List Char)
    | [] => some [last]
    | c :: r =>
      if c = '0' || c = '_' then afterZeros c r
      else if Text.isAsciiDigit c || c = '-' then some (c :: r)
      else if c = '.' then some (last :: c :: r)
      else none

/-- Drops a point with nothing but zeros behind it, of which there is at least one. -/
def withoutZeroFraction (cs : List Char) : List Char :=
  match cs.dropWhile (· != '.') with
  | '.' :: zeros =>
    if !zeros.isEmpty && zeros.all (· == '0') then cs.takeWhile (· != '.') else cs
  | _ => cs

/-- Drops underscores that stand alone, inside a text. -/
def withoutUnderscores? (cs : List Char) : Option (List Char) :=
  let doubled := (cs.zip (cs.drop 1)).any fun (c, d) => c == '_' && d == '_'
  if cs.head? == some '_' || cs.getLast? == some '_' || doubled then none
  else some (cs.filter (· != '_'))

/-- Drops what may be left out of an integer: spaces around it, a plus sign, leading zeros, zeros
after a point, and underscores inside it. -/
def bareInteger? (cs : List Char) : Option (List Char) := do
  let unsigned ← match Text.trimBy Text.isSpace cs with
    | '+' :: '-' :: _ => none
    | '+' :: r => some r
    | r => some r
  let short ← withoutLeadingZeros? unsigned
  withoutUnderscores? (withoutZeroFraction short)

/-- Reads an integer.  Of a bare one at most so many characters are read. -/
def readInteger (s : String) : Except Issue Int :=
  match bareInteger? s.toList with
  | none => .error .notInteger
  | some bare =>
    let (negative, digits) := match bare with
      | '-' :: r => (true, r)
      | r => (false, r)
    if Text.digitLimit < bare.length then .error .integerTooLong
    else if digits.isEmpty || !digits.all Text.isAsciiDigit then .error .notInteger
    else
      let n : Int := Text.ofDigits (digits.map fun c => c.toNat - 48)
      .ok (if negative then -n else n)

/-- Reads a number.  Spaces may stand around it, or else underscores inside it. -/
def readNumber (s : String) : Except Issue Binary64 :=
  match Decimal.binary64? s with
  | some x => .ok x
  | none =>
    match (withoutUnderscores? s.toList).bind Decimal.readSigned with
    | some x => .ok x
    | none => .error .notNumber

/-- The spellings of a switch that is on. -/
def onWords : List String := ["1", "t", "true", "y", "yes", "on"]

/-- The spellings of a switch that is off. -/
def offWords : List String := ["0", "f", "false", "n", "no", "off"]

/-- Reads a switch, in any case. -/
def readSwitch (s : String) : Except Issue Bool :=
  let word := String.ofList (s.toList.map Char.toLower)
  if onWords.contains word then .ok true
  else if offWords.contains word then .ok false
  else .error .notSwitch

/-- Something that is wrong with a setting: where, and what. -/
structure Problem where
  setting : String
  /-- The key of a map's entry, when the entry is wrong. -/
  key : Option String := none
  issue : Issue
deriving Repr, DecidableEq

/-- A problem in words. -/
def Problem.message (p : Problem) : String :=
  p.setting ++ (match p.key with
    | some key => "." ++ key
    | none => "") ++ ": " ++ p.issue.name

/-- Something made of settings, or all that is wrong with them. -/
structure Checked (α : Type) where
  outcome : Except (List Problem) α

namespace Checked

/-- What several settings are made into; the problems of all of them are kept. -/
instance : Applicative Checked where
  pure a := ⟨.ok a⟩
  seq f x := ⟨match f.outcome, (x ()).outcome with
    | .ok f, .ok a => .ok (f a)
    | .ok _, .error ps => .error ps
    | .error ps, .ok _ => .error ps
    | .error ps, .error qs => .error (ps ++ qs)⟩

/-- A setting with one problem. -/
def wrong {α : Type} (problem : Problem) : Checked α := ⟨.error [problem]⟩

/-- A setting that has a default. -/
def setting {α : Type} (name : String) (read : String → Except Issue α) (default : α)
    (given : Option String) : Checked α :=
  match given with
  | none => pure default
  | some text =>
    match read text with
    | .ok a => pure a
    | .error issue => wrong { setting := name, issue }

/-- An entry of a map of texts. -/
def entry (name key : String) : Value → Checked (String × String)
  | .str text => pure (key, text)
  | _ => wrong { setting := name, key := some key, issue := .notText }

/-- The entries of a map of texts. -/
def entries (name : String) : Entries → Checked (List (String × String))
  | [] => pure []
  | (key, v) :: r => List.cons <$> entry name (key.text?.getD "") v <*> entries name r

/-- A map of texts, empty when it is not given. -/
def map (name : String) (given : Option Value) : Checked (List (String × String)) :=
  match given with
  | none => pure []
  | some (.map es) => entries name es
  | some _ => wrong { setting := name, issue := .notMap }

end Checked

end LogSearch.Settings
