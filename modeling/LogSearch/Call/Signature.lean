import LogSearch.Fault

/-!
# Signatures

A part may be made from arguments that are given from outside, some by place and some by name.  A
`Signature` says which arguments there are.  Each is given once at most, and those without a default
once at least; what does not fit is a fault, and of several the first of these counts: a name that no
argument has or that is given twice, too many arguments, a missing one.

Renders the binding of arguments at a call, with the texts of its `TypeError`s.
-/

namespace LogSearch

/-- An argument: its name, and what it is when it is not given. -/
structure Parameter where
  name : String
  default? : Option Value := none

/-- The arguments that something takes. -/
structure Signature where
  /-- What takes them, as messages name it. -/
  subject : String
  /-- Those that are given by place or by name. -/
  placed : List Parameter
  /-- Those that are given by name only. -/
  named : List Parameter := []

/-- An argument without a default. -/
def required (name : String) : Parameter := { name }

/-- An argument with a default. -/
def optional (name : String) (default : Value := .null) : Parameter :=
  { name, default? := some default }

namespace Signature

/-- Arguments by name. -/
abbrev Given := List (String × Value)

/-- All arguments. -/
def parameters (s : Signature) : List Parameter := s.placed ++ s.named

/-- Names as a sentence lists them. -/
def enumerate : List String → String
  | [] => ""
  | [a] => a
  | [a, b] => a ++ " and " ++ b
  | names => ", ".intercalate names.dropLast ++ ", and " ++ names.getLast?.getD ""

/-- The letter that makes a plural, where there are several. -/
def plural (n : Nat) : String := if n = 1 then "" else "s"

/-- A number in words of a message. -/
def count (n : Nat) : String := String.ofList (Text.decimal n)

/-- The fault of arguments that do not fit. -/
def unfit (s : Signature) (complaint : String) : Fault :=
  .arguments (s.subject ++ "() " ++ complaint)

/-- Checks that arguments that are given by name are known and not given by place. -/
def checkNames (s : Signature) (placed : Given) : List String → Except Fault Unit
  | [] => .ok ()
  | name :: r =>
    if name == "self" || placed.any (·.1 == name) then
      .error (s.unfit ("got multiple values for argument '" ++ name ++ "'"))
    else if s.parameters.any (·.name == name) then s.checkNames placed r
    else .error (s.unfit ("got an unexpected keyword argument '" ++ name ++ "'"))

/-- Checks how many arguments are given by place.  What takes them counts as one of them. -/
def checkCount (s : Signature) (args : List Value) (given : Given) : Except Fault Unit :=
  if args.length ≤ s.placed.length then .ok ()
  else
    let most := s.placed.length + 1
    let least := (s.placed.filter (·.default?.isNone)).length + 1
    let takes :=
      if least = most then count most ++ " positional argument" ++ plural most
      else "from " ++ count least ++ " to " ++ count most ++ " positional arguments"
    let named := (given.filter fun (name, _) => s.named.any (·.name == name)).length
    let there := args.length + 1
    let beside :=
      if named = 0 then ""
      else " positional argument" ++ plural there ++ " (and " ++ count named ++
        " keyword-only argument" ++ plural named ++ ")"
    .error (s.unfit ("takes " ++ takes ++ " but " ++ count there ++ beside ++ " were given"))

/-- Checks that every argument without a default is given. -/
def checkMissing (s : Signature) (all : Given) : Except Fault Unit :=
  let missing := s.parameters.filter fun p =>
    p.default?.isNone && !all.any fun (name, _) => name == p.name
  if missing.isEmpty then .ok ()
  else .error (s.unfit ("missing " ++ count missing.length ++ " required positional argument" ++
    plural missing.length ++ ": " ++ enumerate (missing.map fun p => "'" ++ p.name ++ "'")))

/-- The arguments that are given by place, with their names. -/
def place (s : Signature) (args : List Value) : Given := (s.placed.map (·.name)).zip args

/-- What an argument is, of all that are given. -/
def value (s : Signature) (all : Given) (name : String) : Value :=
  match all.find? (·.1 == name) with
  | some (_, v) => v
  | none => ((s.parameters.find? (·.name == name)).bind (·.default?)).getD .null

/-- What the arguments are by name, or why they do not fit. -/
def bind (s : Signature) (args : List Value) (given : Given) : Except Fault (String → Value) := do
  let placed := s.place args
  s.checkNames placed (given.map (·.1))
  s.checkCount args given
  s.checkMissing (placed ++ given)
  return s.value (placed ++ given)

end Signature

end LogSearch
