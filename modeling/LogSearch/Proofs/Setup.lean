import LogSearch.Proofs.IndexScope
import LogSearch.Proofs.Registry
import LogSearch.Setup

/-!
# The parts that settings make

Settings say how each part of a search program is made.  All parts are made of the settings alone but
for one, the types of fields, which may be read from a file.  A file that holds no table is all that can go
wrong.

Main statement: `SearchPart.gives_service`.
-/

namespace LogSearch

/-- Why there is no table in what is found where a file should be. -/
inductive FoundFile.LacksTable (path : String) : FoundFile → Fault → Prop
  | directory : LacksTable path .directory (.directory (Path.ofString path).text)
  | tooLong : LacksTable path .tooLong (.longName (Path.ofString path).text)
  | text {content : String} {fault : Fault} (unread : TypeTable.ofText content = .error fault) :
    LacksTable path (.text content) fault

theorem TypeTable.yields_ofFile {σ : Type} (path : String) (found : FoundFile) (w : σ) :
    (TypeTable.ofFile path found).Yields w (fun _ v => v = w)
      (fun e v => v = w ∧ ∃ fault, e = .fault fault ∧ found.LacksTable path fault) := by
  unfold TypeTable.ofFile
  cases found with
  | missing => exact .log_bind (.pure rfl)
  | directory => exact .ofFault nofun fun fault h => by cases h; exact ⟨rfl, _, rfl, .directory⟩
  | tooLong => exact .ofFault nofun fun fault h => by cases h; exact ⟨rfl, _, rfl, .tooLong⟩
  | text content =>
    refine Flow.Yields.bind (.ofFault (P := fun _ v => v = w) (fun _ _ => rfl) fun fault h => ?_)
      fun read v same => ?_
    · exact ⟨rfl, fault, rfl, .text h⟩
    · subst same
      exact .log_bind (.pure rfl)

namespace Settings

variable {σ : Type} (settings : Settings)

/-- How settings have the mappings of indices asked for. -/
def mappings : MappingLookup :=
  .ofUrl settings.backend.baseUrl settings.scope (.float settings.timeout)

/-- Where settings may have the types of fields from: a table in a file, or the mappings. -/
def AllowTypes (types : TypeSource) : Prop :=
  (∃ table, types = .table table) ∨
    ∃ stamp, types = .mappings settings.backend.baseUrl ⟨stamp, settings.scope⟩ settings.timeout

/-- The service that settings make, with some types of fields. -/
def service (types : FieldTypes σ) (client : HttpClient σ) : SearchService σ where
  builder := { highlighting := settings.highlighting }
  fieldTypes := types
  backend := settings.backend.searchBackend client
  decorators := DecoratorChain.builtin.decorators
  scope := settings.scope

/-- The settings name a file for the types of fields, and what is found there is no table. -/
def LackTypes (found : FoundFile) (e : Failure) : Prop :=
  ∃ fault, e = .fault fault ∧ settings.typesSource = "file" ∧
    found.LacksTable settings.typesPath fault

theorem hasTextNames_scope : settings.scope.HasTextNames := by
  refine ⟨⟨settings.indices, rfl⟩, fun entry member => ?_⟩
  obtain ⟨pair, -, rfl⟩ := List.mem_map.1 member
  exact ⟨pair.2, rfl⟩

end Settings

namespace SearchPart

/-- What each part is that settings make. -/
def IsMade (settings : Settings) : (part : SearchPart) → Kind part → Prop
  | scope, s => s = settings.scope
  | backend, b => b = settings.backend
  | fieldTypes, types => settings.AllowTypes types
  | decorators, chain => chain = .builtin
  | builder, b => b = { highlighting := settings.highlighting }
  | service, p => p.builder.value = { highlighting := settings.highlighting } ∧
      settings.AllowTypes p.fieldTypes.value ∧ p.backend.value = settings.backend ∧
      p.decorators.value = .builtin ∧ p.scope.value = settings.scope

variable {σ : Type} {host : Host σ} {settings : Settings} {w : σ} {found : FoundFile} {depth : Nat}

/-- The step `x` gives a part on a registry of parts that settings make, unless they name a file that
lacks a table. -/
def Gives (host : Host σ) (settings : Settings) (w : σ) (found : FoundFile) (part : SearchPart)
    (x : Assembling σ Kind (Instance (Kind part))) : Prop :=
  x.Yields w (Registry.Keeps · (recipe host settings) (IsMade settings))
    (fun made => IsMade settings part made.value) (settings.LackTypes found)

theorem gives_of_make {part : SearchPart} {v : Kind part}
    (isMake : recipe host settings part = .make (pure v)) (made : IsMade settings part v) :
    Gives host settings w found part (Registry.resolveWithin (depth + 1) part) := by
  refine Registry.yields_resolveWithin ?_
  rw [isMake]
  exact Assembling.yields_ofFlow (.pure ⟨rfl, made⟩)

theorem gives_fieldTypes (isFound : (host.fileAt settings.typesPath).Ends w (.ok found) w) :
    Gives host settings w found fieldTypes (Registry.resolveWithin (depth + 2) fieldTypes) := by
  refine Registry.yields_resolveWithin ?_
  by_cases source : settings.typesSource = "file"
  · have isRecipe : recipe host settings fieldTypes = .make (do
        let found ← host.fileAt settings.typesPath
        return .table (← TypeTable.ofFile settings.typesPath found)) := if_pos source
    rw [isRecipe]
    refine Assembling.yields_ofFlow (Flow.Yields.bind (isFound.yields_ok (P := fun a v => a = found ∧ v = w)
      ⟨rfl, rfl⟩) ?_)
    rintro _ _ ⟨rfl, rfl⟩
    refine Flow.Yields.bind ((TypeTable.yields_ofFile _ _ _).imp (fun _ _ same => same) ?_) ?_
    · rintro e v ⟨rfl, fault, rfl, lacks⟩
      exact ⟨rfl, fault, rfl, source, lacks⟩
    · rintro table v rfl
      exact .pure ⟨rfl, .inl ⟨table, rfl⟩⟩
  · have isRecipe : recipe host settings fieldTypes = .need scope fun scope =>
        .make (pure (.mappings settings.backend.baseUrl scope settings.timeout)) := if_neg source
    rw [isRecipe]
    refine Assembling.Yields.need (gives_of_make rfl rfl) fun made isScope => ?_
    refine Assembling.yields_ofFlow (.pure ⟨rfl, .inr ⟨made.stamp, ?_⟩⟩)
    rw [← show made.value = settings.scope from isScope]

/-- The parts of a search service are those that settings make. -/
theorem gives_service (isFound : (host.fileAt settings.typesPath).Ends w (.ok found) w) :
    Gives host settings w found service (Registry.resolveWithin (depth + 3) service) := by
  refine Registry.yields_resolveWithin ?_
  refine Assembling.Yields.need (gives_of_make rfl rfl) fun builder isBuilder => ?_
  refine Assembling.Yields.need (gives_fieldTypes isFound) fun types allowed => ?_
  refine Assembling.Yields.need (gives_of_make rfl rfl) fun backend isBackend => ?_
  refine Assembling.Yields.need (gives_of_make rfl rfl) fun decorators isChain => ?_
  refine Assembling.Yields.need (gives_of_make rfl rfl) fun scope isScope => ?_
  exact Assembling.yields_ofFlow (.pure ⟨rfl, isBuilder, allowed, isBackend, isChain, isScope⟩)

end SearchPart

theorem SearchRegistry.keeps_configured {σ : Type} (host : Host σ) (settings : Settings) :
    (SearchRegistry.empty.configured host settings).Keeps (SearchPart.recipe host settings)
      (SearchPart.IsMade settings) where
  registered := registration?_configured empty host settings
  kept part made isKept := by
    rw [kept?_configured] at isKept
    cases isKept

end LogSearch
