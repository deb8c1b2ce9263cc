import LogSearch.CommandLine.Arguments

/-!
# Commands

The program has two commands: `ping` waits for the search backend, and `search` searches and prints
what it finds.  The first word that is no option names the command, and all that follows belongs to
it.

Renders `build_parser`.
-/

namespace LogSearch.CommandLine

/-- What `search` is given. -/
structure SearchArguments where
  query : String := "*"
  /-- The time from which on, and up to which, messages are wanted. -/
  first : Option String := none
  last : Option String := none
  limit : Value := .null
  offset : Value := .int 0
  /-- The fields that are wanted, separated by commas. -/
  fields : Option String := none
  sorts : List Value := []
  streams : List Value := []
  id : Option String := none
  name : Value := .null

/-- A command with its arguments. -/
inductive Command
  | ping (attempts : Value)
  | search (arguments : SearchArguments)

namespace Command

/-- An option with a text. -/
def textOption (name : String) : Form := ⟨[name], some .text⟩

/-- An option with an integer. -/
def integerOption (name : String) : Form := ⟨[name], some .integer⟩

/-- The name of the program. -/
def program : String := "msglist"

/-- The names of the commands. -/
def names : List String := ["ping", "search"]

/-- How a command is called: one operand names it. -/
def callGrammar : Grammar :=
  { program, options := [helpForm], operands := .rest }

/-- How `ping` is called. -/
def pingGrammar : Grammar :=
  { program := program ++ " ping", options := [helpForm, integerOption "--attempts"]
    operands := .none }

/-- How `search` is called. -/
def searchGrammar : Grammar :=
  { program := program ++ " search"
    options := [helpForm, textOption "--from", textOption "--to", integerOption "--limit",
      integerOption "--offset", textOption "--fields", textOption "--sort", textOption "--stream",
      textOption "--id", textOption "--name"]
    operands := .optional }

/-- An argument that is a text. -/
def lastText? (given : Given) (key : String) : Option String := (given.last? key).bind Value.text?

/-- The command `ping` with what it was given. -/
def ofPing (given : Given) : Command := .ping ((given.last? "--attempts").getD (.int 30))

/-- The command `search` with what it was given. -/
def ofSearch (given : Given) : Command :=
  .search
    { query := given.operands.head?.getD "*"
      first := lastText? given "--from"
      last := lastText? given "--to"
      limit := Value.ofOption (given.last? "--limit")
      offset := (given.last? "--offset").getD (.int 0)
      fields := lastText? given "--fields"
      sorts := given.all "--sort"
      streams := given.all "--stream"
      id := lastText? given "--id"
      name := Value.ofOption (given.last? "--name") }

/-- How a command is called, and what its arguments make of it. -/
def named? : String → Option (Grammar × (Given → Command))
  | "ping" => some (pingGrammar, ofPing)
  | "search" => some (searchGrammar, ofSearch)
  | _ => none

/-- Reads a command.  Words that nothing takes are refused in the end. -/
def read (words : List String) : Except Stop Command := do
  let call ← callGrammar.read words
  match call.operands with
  | [] => callGrammar.refuse (.missingOperand "command")
  | name :: arguments =>
    match named? name with
    | none => callGrammar.refuse (.invalidChoice "command" name names)
    | some (grammar, make) =>
      let given ← grammar.read arguments
      let leftOver := call.leftOver ++ given.leftOver
      if leftOver.isEmpty then return make given
      else callGrammar.refuse (.leftOver leftOver)

end Command

end LogSearch.CommandLine
