import LogSearch.FieldType.Mapping
import LogSearch.Host
import LogSearch.Registry
import LogSearch.Service
import LogSearch.Settings

/-!
# The parts of a search program

The parts that a search needs stand in a registry, each made as the settings say and each the only
one of its kind.  Registering them anew with other settings forgets all that was made with the old
ones.

Renders `configure_container` (`configure`).
-/

namespace LogSearch

/-- The parts of a search program. -/
inductive SearchPart
  | scope
  | backend
  | fieldTypes
  | decorators
  | builder
  | service
deriving Repr, DecidableEq

/-- Where the types of fields come from. -/
inductive TypeSource
  | table (table : TypeTable)
  /-- The mappings of the indices of a scope, asked for at an address. -/
  | mappings (baseUrl : String) (scope : Instance IndexScope) (timeout : Binary64)

/-- The types of fields as a collaborator. -/
def TypeSource.fieldTypes {σ : Type} (client : HttpClient σ) : TypeSource → FieldTypes σ
  | table t => t.fieldTypes
  | mappings baseUrl scope timeout =>
    (MappingLookup.ofUrl baseUrl scope.value (.float timeout)).fieldTypes client

/-- The parts that a search service is made of. -/
structure ServiceParts where
  builder : Instance QueryBuilder
  fieldTypes : Instance TypeSource
  backend : Instance RemoteBackend
  decorators : Instance DecoratorChain
  scope : Instance IndexScope

/-- The service that is made of some parts. -/
def ServiceParts.service {σ : Type} (client : HttpClient σ) (p : ServiceParts) :
    SearchService σ where
  builder := p.builder.value
  fieldTypes := p.fieldTypes.value.fieldTypes client
  backend := p.backend.value.searchBackend client
  decorators := p.decorators.value.decorators
  scope := p.scope.value

namespace SearchPart

/-- What each part is. -/
abbrev Kind : SearchPart → Type
  | scope => IndexScope
  | backend => RemoteBackend
  | fieldTypes => TypeSource
  | decorators => DecoratorChain
  | builder => QueryBuilder
  | service => ServiceParts

/-- The name of a part. -/
def name : SearchPart → String
  | scope => "index scope"
  | backend => "search backend"
  | fieldTypes => "field types"
  | decorators => "decorators"
  | builder => "query builder"
  | service => "search service"

/-- How each part is made, as the settings say. -/
def recipe {σ : Type} (host : Host σ) (settings : Settings) :
    (part : SearchPart) → Recipe σ Kind (Kind part)
  | scope => .make (pure settings.scope)
  | backend => .make (pure settings.backend)
  | fieldTypes =>
    if settings.typesSource = "file" then
      .make do
        let found ← host.fileAt settings.typesPath
        return .table (← TypeTable.ofFile settings.typesPath found)
    else
      .need scope fun scope =>
        .make (pure (.mappings settings.backend.baseUrl scope settings.timeout))
  | decorators => .make (pure .builtin)
  | builder => .make (pure { highlighting := settings.highlighting })
  | service =>
    .need builder fun builder =>
    .need fieldTypes fun fieldTypes =>
    .need backend fun backend =>
    .need decorators fun decorators =>
    .need scope fun scope =>
    .make (pure { builder, fieldTypes, backend, decorators, scope })

/-- All parts, in the order in which they are registered. -/
def all : List SearchPart := [scope, backend, fieldTypes, decorators, builder, service]

end SearchPart

/-- The registry of the parts of a search program. -/
abbrev SearchRegistry (σ : Type) := Registry σ SearchPart.Kind

namespace SearchRegistry

variable {σ : Type}

/-- A registry without parts. -/
def empty : SearchRegistry σ := { name := SearchPart.name }

/-- Registers every part as the settings say. -/
def configured (registry : SearchRegistry σ) (host : Host σ) (settings : Settings) :
    SearchRegistry σ :=
  SearchPart.all.foldl
    (fun r part => r.register part { recipe := part.recipe host settings, single := true }) registry

/-- Registers every part as the settings say, and logs it. -/
def configure (host : Host σ) (settings : Settings) : Assembling σ SearchPart.Kind Unit := do
  Assembling.change (configured · host settings)
  Assembling.ofFlow (Flow.log .info "Container configured")

/-- After a configuration every part is registered as its settings say. -/
theorem registration?_configured (registry : SearchRegistry σ) (host : Host σ)
    (settings : Settings) (part : SearchPart) :
    (registry.configured host settings).registration? part =
      some { recipe := part.recipe host settings, single := true } := by
  cases part <;> simp [configured, SearchPart.all, Registry.register]

/-- A configuration forgets every part that was made before. -/
theorem kept?_configured (registry : SearchRegistry σ) (host : Host σ) (settings : Settings)
    (part : SearchPart) : (registry.configured host settings).kept? part = none := by
  cases part <;> simp [configured, SearchPart.all, Registry.register]

end SearchRegistry

end LogSearch
