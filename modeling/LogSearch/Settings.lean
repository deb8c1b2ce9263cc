import LogSearch.Backend.Remote
import LogSearch.IndexScope
import LogSearch.Settings.EnvFile
import LogSearch.Settings.Reading

/-!
# Settings

Every setting has a name, which stands for it in the environment and in a file of variables, in any
case, and a default.  The environment counts before the file; of a map, the entries of both count.

Renders `Settings`, with the sources of `BaseSettings`.
-/

namespace LogSearch

/-- The settings of a search program. -/
structure Settings where
  /-- Where the search backend is. -/
  host : String := "localhost"
  portNumber : Int := 9200
  scheme : String := "http"
  timeout : Binary64 := .ofInt 60
  /-- What the names of indices start with. -/
  indices : String := "graylog"
  /-- What the names of the indices of some streams start with. -/
  streamIndices : List (String × String) := []
  highlighting : Bool := false
  /-- Where the types of fields come from: a file, or else the search backend. -/
  typesSource : String := "elasticsearch"
  typesPath : String := "field_types.json"
  /-- How many messages are wanted when a search does not say. -/
  limit : Int := 150
  /-- The name of the least level that is logged. -/
  logLevel : String := "INFO"

namespace Settings

/-- Where variables come from. -/
inductive Source
  | environment
  | file
deriving Repr, DecidableEq

/-- The name of a source. -/
def Source.name : Source → String
  | environment => "EnvSettingsSource"
  | file => "DotEnvSettingsSource"

/-- Why settings cannot be had. -/
inductive Error
  /-- A setting that must be JSON is not. -/
  | unreadable (setting : String) (source : Source)
  /-- A setting that must be JSON has lists and maps that stand in one another too deep. -/
  | tooDeep (error : Json.Error)
  | invalid (problems : List Problem)
deriving Repr, DecidableEq

/-- The name of the kind of an error. -/
def Error.name : Error → String
  | unreadable _ _ => "SettingsError"
  | tooDeep _ => FaultKind.recursion.name
  | invalid _ => "ValidationError"

/-- An error in words; problems are listed in the order of their texts. -/
def Error.message : Error → String
  | unreadable setting source =>
    "error parsing value for field \"" ++ setting ++ "\" from source \"" ++ source.name ++ "\""
  | tooDeep error => error.message
  | invalid problems => "; ".intercalate ((problems.map Problem.message).mergeSort (· ≤ ·))

/-- The variables of one source. -/
abbrev Variables := List (String × Option String)

/-- The variable that stands for a setting, in any case; the last one counts. -/
def given? (given : Variables) (setting : String) : Option String :=
  (given.reverse.find? fun (name, _) =>
    String.ofList (name.toList.map Char.toLower) == setting).bind Prod.snd

/-- The variable that stands for a setting, in the environment or else in the file. -/
def text? (environment file : Variables) (setting : String) : Option String :=
  (given? environment setting).or (given? file setting)

/-- A setting that is JSON, as one source gives it.  The JSON of nothing is as good as none. -/
def json? (given : Variables) (source : Source) (setting : String) :
    Except Error (Option Value) :=
  match given? given setting with
  | none => .ok none
  | some text =>
    match Json.read text with
    | .error e => .error (if e.isDepth then .tooDeep e else .unreadable setting source)
    | .ok .null => .ok none
    | .ok v => .ok (some v)

/-- Two values of one setting, of which the first counts; the entries of two maps are put
together. -/
def combine : Option Value → Option Value → Option Value
  | some (.map first), some (.map second) =>
    some (.map (first.foldl (fun es (k, v) => Entries.put es k v) second))
  | some v, _ => some v
  | none, v => v

/-- The name of the setting that is a map. -/
def streamIndicesName : String := "stream_index_prefixes"

/-- The settings that variables give. -/
def ofVariables (environment file : Variables) : Except Error Settings := do
  let first ← json? environment .environment streamIndicesName
  let second ← json? file .file streamIndicesName
  let d : Settings := {}
  let setting {α : Type} (name : String) (read : String → Except Issue α) (default : α) :=
    Checked.setting name read default (text? environment file name)
  let all : Checked Settings := Settings.mk
    <$> setting "es_host" .ok d.host
    <*> setting "es_port" readInteger d.portNumber
    <*> setting "es_scheme" .ok d.scheme
    <*> setting "es_timeout" readNumber d.timeout
    <*> setting "index_prefix" .ok d.indices
    <*> Checked.map streamIndicesName (combine first second)
    <*> setting "allow_highlighting" readSwitch d.highlighting
    <*> setting "field_types_source" .ok d.typesSource
    <*> setting "field_types_path" .ok d.typesPath
    <*> setting "default_limit" readInteger d.limit
    <*> setting "log_level" .ok d.logLevel
  all.outcome.mapError .invalid

/-- The names of all settings. -/
def names : List String :=
  ["es_host", "es_port", "es_scheme", "es_timeout", "index_prefix", streamIndicesName,
    "allow_highlighting", "field_types_source", "field_types_path", "default_limit", "log_level"]

/-- The settings that the environment and the text of a file of variables give. -/
def ofEnvironment (environment : List (String × String)) (file : Option String) :
    Except Error Settings :=
  ofVariables (environment.map fun (name, text) => (name, some text))
    ((file.map (EnvFile.read environment)).getD [])

/-- The search backend that settings name. -/
def backend (s : Settings) : RemoteBackend :=
  { host := .str s.host, portNumber := .int s.portNumber, scheme := .str s.scheme, timeout := .float s.timeout }

/-- Where messages are kept, as settings say. -/
def scope (s : Settings) : IndexScope where
  default := .str s.indices
  ofStream := s.streamIndices.map fun (stream, name) => (.str stream, .str name)

end Settings

end LogSearch
