import LogSearch.Files.Path

/-!
# Files in memory

A tree holds the texts of some files, and has a home, from which relative paths start.  A directory
is there when a file is under it, or the home is.

Renders `Path.exists` and `open`.
-/

namespace LogSearch

/-- Some files, each under the steps that lead to it from the root. -/
structure FileTree where
  home : List String
  files : List (List String × String)

namespace FileTree

/-- The greatest number of bytes in the name of a file. -/
def stepLimit : Nat := 255

/-- A path has fewer bytes than this. -/
def pathLimit : Nat := 4096

/-- Whether a directory is there. -/
def isDirectory (t : FileTree) (steps : List String) : Bool :=
  steps.isPrefixOf t.home || t.files.any fun (file, _) => steps.isPrefixOf file

/-- The text of a file. -/
def text? (t : FileTree) (steps : List String) : Option String :=
  (t.files.find? fun (file, _) => file == steps).map Prod.snd

/-- What steps lead to from a directory, which is given by the steps to it in reverse. -/
def walk (t : FileTree) (place : List String) : List String → FoundFile
  | [] => .directory
  | step :: rest =>
    if step = ".." then t.walk place.tail rest
    else if stepLimit < step.utf8ByteSize then .tooLong
    else
      match t.text? (step :: place).reverse with
      | some content => if rest.isEmpty then .text content else .missing
      | none =>
        if t.isDirectory (step :: place).reverse then t.walk (step :: place) rest else .missing

/-- What is found under a path. -/
def find (t : FileTree) (path : String) : FoundFile :=
  let p := Path.ofString path
  if path.toList.contains '\x00' then .missing
  else if pathLimit ≤ p.text.utf8ByteSize then .tooLong
  else t.walk (if p.isAbsolute then [] else t.home.reverse) p.steps

end FileTree

end LogSearch
