import LogSearch.Text.Blank
import LogSearch.Text.Lines

/-!
# Files of variables

A file of variables has one binding a line: a name, an equals sign and a value.  The word `export`
may stand in front, names and values may be in quotes, and what follows a number sign is a comment.
A value in quotes may go over several lines.  A line that is no binding is passed over.

In a value, `$` and a name in braces stand for a variable bound before, or one of the environment.

Renders `dotenv_values`.
-/

namespace LogSearch.EnvFile

/-- A blank that does not end a line. -/
def isGap (c : Char) : Bool := c != '\n' && Text.isBlank c

/-- What follows the end of this line. -/
def nextLine (cs : List Char) : List Char := (cs.dropWhile (· != '\n')).drop 1

/-- The text up to the quote that closes it, and what follows.  A backslash and the character after
it, which is on the same line, close nothing. -/
def closing (quote : Char) : List Char → Option (List Char × List Char)
  | [] => none
  | '\\' :: c :: r =>
    if c = '\n' then none
    else (closing quote r).map fun (text, rest) => ('\\' :: c :: text, rest)
  | c :: r =>
    if c = quote then some ([], r)
    else (closing quote r).map fun (text, rest) => (c :: text, rest)

/-- What a backslash and a character stand for between double quotes. -/
def doubleEscape? : Char → Option Char
  | '\\' => some '\\'
  | '\x27' => some '\x27'
  | '"' => some '"'
  | 'a' => some '\x07'
  | 'b' => some '\x08'
  | 'f' => some '\x0c'
  | 'n' => some '\n'
  | 'r' => some '\r'
  | 't' => some '\t'
  | 'v' => some '\x0b'
  | _ => none

/-- What a backslash and a character stand for between single quotes. -/
def singleEscape? : Char → Option Char
  | '\\' => some '\\'
  | '\x27' => some '\x27'
  | _ => none

/-- Puts in what the escapes stand for. -/
def unescape (escape? : Char → Option Char) : List Char → List Char
  | '\\' :: c :: r =>
    match escape? c with
    | some d => d :: unescape escape? r
    | none => '\\' :: unescape escape? (c :: r)
  | c :: r => c :: unescape escape? r
  | [] => []

/-- Drops a comment, which starts at blanks and a number sign. -/
def cutComment : List Char → List Char
  | [] => []
  | c :: r =>
    if Text.isBlank c && (r.dropWhile Text.isBlank).head? == some '#' then []
    else c :: cutComment r

/-- A value without quotes: the rest of the line, without a comment and without blanks around it. -/
def plainValue (cs : List Char) : List Char × List Char :=
  (Text.trim (cutComment (cs.takeWhile (· != '\n'))), cs.dropWhile (· != '\n'))

/-- The value behind an equals sign, and what follows; none when its quote is not closed. -/
def value (cs : List Char) : Option (List Char × List Char) :=
  match cs.dropWhile isGap with
  | '\x27' :: r => (closing '\x27' r).map fun (text, rest) => (unescape singleEscape? text, rest)
  | '"' :: r => (closing '"' r).map fun (text, rest) => (unescape doubleEscape? text, rest)
  | _ => some (plainValue cs)

/-- Drops the word `export` at the front, when blanks follow it. -/
def dropExport (cs : List Char) : List Char :=
  let word := ['e', 'x', 'p', 'o', 'r', 't']
  if cs.take 6 = word then
    match cs.drop 6 with
    | c :: r => if isGap c then r.dropWhile isGap else cs
    | [] => cs
  else cs

/-- Whether a character may stand in a name without quotes. -/
def isNameChar (c : Char) : Bool := c != '=' && c != '#' && !Text.isBlank c

/-- The name at the front, absent in a line that is only a comment, and what follows; none when
there is none. -/
def name : List Char → Option (Option (List Char) × List Char)
  | '#' :: r => some (none, '#' :: r)
  | '\x27' :: r =>
    let text := r.takeWhile (· != '\x27')
    match r.dropWhile (· != '\x27') with
    | _ :: rest => if text.isEmpty then none else some (some text, rest)
    | [] => none
  | cs =>
    let text := cs.takeWhile isNameChar
    if text.isEmpty then none else some (some text, cs.dropWhile isNameChar)

/-- Drops a comment that may end a binding. -/
def dropComment (cs : List Char) : List Char :=
  match cs.dropWhile isGap with
  | '#' :: r => r.dropWhile (· != '\n')
  | _ => cs

/-- What follows the end of a line, when nothing but blanks stands before it. -/
def lineEnd? (cs : List Char) : Option (List Char) :=
  match cs.dropWhile isGap with
  | [] => some []
  | '\n' :: r => some r
  | _ => none

/-- A name with its value, which is absent when there is no equals sign. -/
abbrev Binding := String × Option String

/-- The binding at the front, when there is one, and what follows. -/
def binding (cs : List Char) : Option Binding × List Char :=
  let start := dropExport (cs.dropWhile Text.isBlank)
  match name start with
  | none => (none, nextLine start)
  | some (name?, rest) =>
    let rest := rest.dropWhile isGap
    let given : Option (Option (List Char)) × List Char :=
      match rest with
      | '=' :: r =>
        match value r with
        | some (text, rest) => (some (some text), rest)
        | none => (none, r)
      | _ => (some none, rest)
    match given with
    | (none, rest) => (none, nextLine rest)
    | (some text?, rest) =>
      let rest := dropComment rest
      match lineEnd? rest with
      | none => (none, nextLine rest)
      | some next =>
        (name?.map fun name => (String.ofList name, text?.map String.ofList), next)

/-- The bindings of a text, in order. -/
def bindings (cs : List Char) : List Binding :=
  let (found, rest) := binding cs
  if _ : rest.length < cs.length then found.toList ++ bindings rest else found.toList
termination_by cs.length

/-- A part of a value. -/
inductive Part
  | text (c : Char)
  /-- A variable, with what stands for it when there is none. -/
  | reference (name : String) (default : Option String)
deriving Repr, DecidableEq

/-- The reference whose name and closing brace are at the front, and what follows. -/
def reference? (cs : List Char) : Option (Part × List Char) :=
  let name := String.ofList (cs.takeWhile fun c => c != '\x7d' && c != ':')
  match cs.dropWhile fun c => c != '\x7d' && c != ':' with
  | '\x7d' :: rest => some (.reference name none, rest)
  | ':' :: '-' :: r =>
    match r.dropWhile (· != '\x7d') with
    | _ :: rest => some (.reference name (some (String.ofList (r.takeWhile (· != '\x7d')))), rest)
    | [] => none
  | _ => none

/-- The reference at the front, and what follows. -/
def referenceFront? : List Char → Option (Part × List Char)
  | '$' :: '\x7b' :: r => reference? r
  | _ => none

/-- The parts of a value. -/
def parts : List Char → List Part
  | [] => []
  | c :: r =>
    match referenceFront? (c :: r) with
    | some (part, rest) => if _ : rest.length ≤ r.length then part :: parts rest else [part]
    | none => .text c :: parts r
termination_by cs => cs.length

/-- What is bound to a name: bindings count before the environment. -/
def lookup (environment : List (String × String)) (bound : List Binding) (name : String) :
    Option (Option String) :=
  match bound.find? fun (n, _) => n == name with
  | some (_, text?) => some text?
  | none => (environment.find? fun (n, _) => n == name).map fun (_, text) => some text

/-- What a part of a value stands for. -/
def Part.resolve (environment : List (String × String)) (bound : List Binding) : Part → String
  | text c => c.toString
  | reference name default =>
    match lookup environment bound name with
    | some text? => text?.getD ""
    | none => default.getD ""

/-- A value with its variables put in. -/
def expand (environment : List (String × String)) (bound : List Binding) (text : String) : String :=
  String.join ((parts text.toList).map (Part.resolve environment bound))

/-- Binds a name, in the place where it is bound already or else at the end. -/
def assign (bound : List Binding) (name : String) (text? : Option String) : List Binding :=
  if bound.any fun (n, _) => n == name then
    bound.map fun (n, old) => if n == name then (n, text?) else (n, old)
  else bound ++ [(name, text?)]

/-- The characters of a file: line ends are made one, and a byte order mark in front is passed
over. -/
def content (text : String) : List Char :=
  Text.unifyLines (match text.toList with
    | '\ufeff' :: r => r
    | cs => cs)

/-- The bindings of a file, each name once, with the variables in their values put in. -/
def read (environment : List (String × String)) (text : String) : List Binding :=
  (bindings (content text)).foldl
    (fun bound (name, text?) => assign bound name (text?.map (expand environment bound))) []

/-- The names that the values of a file refer to. -/
def references (text : String) : List String :=
  (bindings (content text)).flatMap fun (_, value?) =>
    (parts (value?.getD "").toList).filterMap fun
      | .reference name _ => some name
      | .text _ => none

example : bindings "A=1 # x\nexport B='q' \n# c\nC".toList =
    [("A", some "1"), ("B", some "q"), ("C", none)] := by
  decide +kernel

end LogSearch.EnvFile
