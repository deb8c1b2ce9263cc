/-!
# Paths of files

A path leads to a file by way of directories.  Slashes that stand together count as one, except two in
front, and a dot alone stands for no step.  What is left are the steps of the path, of which `..`
leads back; its `text` is the shortest way to write it.

Renders `pathlib.Path` of a text, and its `str`.
-/

namespace LogSearch

/-- A path: the slashes in front of it, none, one or two, and its steps. -/
structure Path where
  root : String
  steps : List String
deriving Repr, DecidableEq

namespace Path

/-- Splits a text at every slash. -/
def splitSlashes : List Char → List (List Char)
  | [] => [[]]
  | c :: r =>
    match splitSlashes r with
    | [] => [[c]]
    | first :: rest => if c = '/' then [] :: first :: rest else (c :: first) :: rest

/-- The path that a text writes. -/
def ofString (s : String) : Path where
  root :=
    match (s.toList.takeWhile (· == '/')).length with
    | 0 => ""
    | 2 => "//"
    | _ => "/"
  steps := ((splitSlashes s.toList).map String.ofList).filter fun step => step != "" && step != "."

/-- Whether a path starts at the root of all files. -/
def isAbsolute (p : Path) : Bool := !p.root.isEmpty

/-- A path as text. -/
def text (p : Path) : String :=
  let written := p.root ++ "/".intercalate p.steps
  if written.isEmpty then "." else written

example : (ofString "./a//b/.").text = "a/b" ∧ (ofString "").text = "." ∧
    (ofString "//x/").text = "//x" ∧ (ofString "///").text = "/" := by decide +kernel

end Path

/-- What is found under the path of a file. -/
inductive FoundFile
  | missing
  | directory
  /-- A step of the path, or all of it, is longer than any name of a file. -/
  | tooLong
  | text (content : String)
deriving Repr, DecidableEq

end LogSearch
