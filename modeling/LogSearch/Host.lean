import LogSearch.FieldType.Table
import LogSearch.Http

/-!
# What a program finds outside itself

A program sends requests, reads files, waits, looks at the clock, makes new names and prints.  A
`Host` does all this for it.

Renders `requests.request`, `httpx.get`, `Path.read_text`, `time.sleep`, `datetime.now`, `uuid4` and
`print`.
-/

namespace LogSearch

/-- What a program finds outside itself. -/
structure Host (σ : Type) where
  client : HttpClient σ
  fileAt : (path : String) → Flow σ FoundFile
  /-- Waits for some seconds. -/
  sleep : Nat → Flow σ Unit
  now : Flow σ DateTime
  /-- A name that was not in use before. -/
  newId : Flow σ String
  /-- Prints a line. -/
  print : String → Flow σ Unit

end LogSearch
