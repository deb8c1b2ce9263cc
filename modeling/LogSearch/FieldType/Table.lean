import LogSearch.Files.Path
import LogSearch.Query.Build
import LogSearch.Text.Lines

/-!
# Field types from a table

A table says for each stream which types its fields have.  A field has a type in a set of streams
when all streams that know the field agree on it.

Renders `StaticFieldTypeResolver`: `resolve` and `from_file` (`ofFile`).
-/

namespace LogSearch

/-- A table of the types of fields, by stream and by field, as it is given. -/
structure TypeTable where
  byStream : Value := .map []

namespace TypeTable

/-- A table as it is given; nothing, and anything that counts as nothing, is an empty one. -/
def ofValue (v : Value) : TypeTable := ⟨if v.isTrue then v else .map []⟩

/-- The type that one stream has for a field. -/
def typeIn? (t : TypeTable) (field stream : Value) : Except Fault (Option Value) := do
  let fields ← t.byStream.getOr stream (.map [])
  if ← fields.holds field then
    let type ← fields.index field
    type.fixed
    return some type
  else return none

/-- The one value in a list without repeats that has just one. -/
def theOnly : List Value → Value
  | [v] => v
  | _ => .null

/-- The type of a field in some streams, if all streams that know the field agree. -/
def resolve (t : TypeTable) (streams : List Value) (field : Value) : Except Fault Value := do
  let types ← streams.mapM (t.typeIn? field)
  return theOnly (Value.distinct (types.filterMap id))

/-- The table as a collaborator. -/
def fieldTypes {σ : Type} (t : TypeTable) : FieldTypes σ where
  resolve streams field := Flow.ofFault (t.resolve streams field)

/-- The table in the text of a file. -/
def ofText (text : String) : Except Fault (TypeTable × Nat) := do
  let v ← (Json.read (String.ofList (Text.unifyLines text.toList))).mapError .json
  let size ← v.size
  return (ofValue v, size)

variable {σ : Type}

/-- The table in a file; without the file, an empty one. -/
def ofFile (path : String) (found : FoundFile) : Flow σ TypeTable := do
  match found with
  | .missing =>
    Flow.log .warning ("Field types file " ++ path ++ " not found, using empty table")
    return {}
  | .directory => Flow.ofFault (.error (.directory (Path.ofString path).text))
  | .tooLong => Flow.ofFault (.error (.longName (Path.ofString path).text))
  | .text content =>
    let (table, size) ← Flow.ofFault (ofText content)
    Flow.log .info ("Field types loaded for " ++ String.ofList (Text.decimal size) ++
      " stream(s) from " ++ path)
    return table

end TypeTable

end LogSearch
