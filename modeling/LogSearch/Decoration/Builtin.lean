import LogSearch.Decoration.Config
import LogSearch.Decoration.Template
import LogSearch.Value.Access

/-!
# Built-in decorators

Each of the three decorators changes messages one by one and writes at most one field of each: the
name of a severity beside its number, a text made from a template, or a value looked up in a table.
A decorator is made from settings of any shape, and its making or its run may find a fault in them.

Renders `SyslogSeverityMapperDecorator` (`SeverityMapper`), `FormatStringDecorator`
(`TemplateWriter`) and `LookupTableDecorator` (`TableLookup`), each with `from_config` (`ofConfig`)
and `decorate_message` (`decorate`); `_stringify` (`fieldText`).
-/

namespace LogSearch

/-- The text of a field's value: nothing for no value, and the items of a list with commas. -/
def fieldText : Value → String
  | .null => ""
  | .list vs => ", ".intercalate (fieldTexts vs)
  | .tuple vs => ", ".intercalate (fieldTexts vs)
  | v => v.plain
where
  /-- The texts of the items of a list. -/
  fieldTexts : List Value → List String
    | [] => []
    | v :: r => fieldText v :: fieldTexts r

/-- Writes the number of a severity as its name. -/
structure SeverityMapper where
  source : Value
  target : Value

/-- Writes a text made from a template. -/
structure TemplateWriter where
  template : String
  target : Value
  requireAll : Bool

/-- Writes what a table holds for a field's value. -/
structure TableLookup where
  source : Value
  target : Value
  table : List (String × Value)
  default : Value

namespace SeverityMapper

/-- The names of the severities from 0 to 7. -/
def names : List String :=
  ["Emergency", "Alert", "Critical", "Error", "Warning", "Notice", "Informational", "Debug"]

/-- The text for a severity that has a name. -/
def severityText? (level : Int) : Option String :=
  if level < 0 then none
  else names[level.toNat]?.map fun name => name ++ " (" ++ String.ofList (Text.integer level) ++ ")"

/-- The decorator with some settings. -/
def ofConfig (config : Value) : Except Fault SeverityMapper := do
  let source ← config.field "source_field" (.str "level")
  return ⟨source, ← config.field "target_field" source⟩

/-- Changes a message.  A value that is no number is left alone; an infinity is a fault. -/
def decorate (d : SeverityMapper) (message : Entries) : Except Fault Entries := do
  let value ← (Value.map message).getOr d.source .null
  match value.toInt with
  | .ok level =>
    match severityText? level with
    | some text =>
      d.target.fixed
      return Entries.put message d.target (.str text)
    | none => return message
  | .error fault =>
    if fault.kind == .type || fault.kind.isValue then return message else throw fault

end SeverityMapper

namespace TemplateWriter

/-- The decorator with some settings. -/
def ofConfig (config : Value) : Except Fault TemplateWriter := do
  let template ← config.item "format_string"
  let target ← config.item "target_field"
  let requireAll ← config.field "require_all_fields" (.bool false)
  match template with
  | .str template => return ⟨template, target, requireAll.isTrue⟩
  | .bytes _ => throw .bytesTemplate
  | v => throw (.notTemplate v.fullKind)

/-- The text for a message. -/
def text (d : TemplateWriter) (message : Entries) : String :=
  Template.render
    (fun name => fieldText ((Entries.get? message (.str name)).getD .null)) d.template.toList

/-- Whether a message has every field of the template. -/
def hasAll (d : TemplateWriter) (message : Entries) : Bool :=
  (Template.names d.template.toList).all fun name => Entries.has message (.str name)

/-- Changes a message. -/
def decorate (d : TemplateWriter) (message : Entries) : Except Fault Entries := do
  if d.requireAll && !d.hasAll message then return message
  d.target.fixed
  return Entries.put message d.target (.str (d.text message))

end TemplateWriter

namespace TableLookup

/-- The decorator with some settings; the keys of its table are compared as texts. -/
def ofConfig (config : Value) : Except Fault TableLookup := do
  let source ← config.item "source_field"
  let table ← config.field "table" (.map [])
  let target ← config.field "target_field" .null
  let default ← config.field "default" .null
  let target := if target.isTrue then target else .str (source.plain ++ "_decorated")
  let entries ← table.items
  return ⟨source, target, entries.map fun (k, v) => (k.plain, v), default⟩

/-- What the table holds for a text; of two entries for it the later counts. -/
def find? (d : TableLookup) (text : String) : Option Value :=
  (d.table.reverse.find? fun (k, _) => k == text).map Prod.snd

/-- Changes a message. -/
def decorate (d : TableLookup) (message : Entries) : Except Fault Entries := do
  d.source.fixed
  match Entries.get? message d.source with
  | none => return message
  | some v =>
    match (d.find? (fieldText v)).getD d.default with
    | .null => return message
    | found =>
      d.target.fixed
      return Entries.put message d.target found

end TableLookup

end LogSearch
