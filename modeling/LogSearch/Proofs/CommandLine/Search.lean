import LogSearch.CommandLine.Run
import LogSearch.Proofs.Backend.Outcome
import LogSearch.Proofs.CommandLine.Request
import LogSearch.Proofs.Search.Told
import LogSearch.Proofs.Setup

/-!
# How the command `search` ends

The command puts the parts of a search together, makes a search of its arguments and searches.

Main statement: `yields_search`.
-/

namespace LogSearch

open LogSearch.Flow (Ends Yields)

namespace CommandLine

variable {around : Surroundings} {settings : Settings}

theorem follows_mappings (m : MappingLookup) {streams : List String} {target : String}
    (isTarget : m.target (streams.map .str) = .ok target) :
    let lookup (call : FieldTypes.Call) := m.request target call.2
    (m.fieldTypes around.host.client).Follows (streams.map .str)
      (fun past call => MappingLookup.reading streams call.2
        (ofFaults (around.answers (past.map lookup) (lookup call))))
      (fun past => { sent := past.map lookup }) := by
  intro lookup past field
  dsimp only
  have sent := around.ends_send { sent := past.map lookup } (lookup (streams.map .str, .str field))
  rw [List.map_append]
  exact MappingLookup.ends_resolve isTarget sent

/-- A query whose types are looked up as the settings say is built, or it is told why it is not. -/
theorem yields_build {types : TypeSource} (allowed : settings.AllowTypes types) (t : SearchTerms)
    (highlighting : Bool) :
    (QueryBuilder.build { highlighting } t.spec (types.fieldTypes around.host.client)).Yields {}
      (fun query v => v.printed = [] ∧ ∃ body, query.record = .ok body)
      (fun e v => v.printed = [] ∧ e.ToldUnless fun _ => False) := by
  rcases allowed with ⟨table, rfl⟩ | ⟨stamp, rfl⟩
  · refine t.yields_build (I := fun v : Trace => v.printed = []) highlighting (table.follows _ {})
      (fun _ => rfl) ?_
    intro past streams field report cause failed
    cases found : table.resolve streams (.str field) <;> rw [found] at failed <;> cases failed
  · obtain ⟨patterns, isPatterns⟩ := IndexScope.exists_patterns settings.hasTextNames_scope t.spec.streams
    have isTarget : settings.mappings.target t.spec.streams = .ok (",".intercalate patterns) :=
      congrArg (Except.map _) isPatterns
    refine t.yields_build (I := fun v : Trace => v.printed = []) highlighting
      (follows_mappings settings.mappings isTarget) (fun _ => rfl) ?_
    intro past streams field report cause failed
    exact MappingLookup.hasText_of_reading failed

/-- The last request of a trace was answered with hits, and this is one of them. -/
inductive Surroundings.Found (around : Surroundings) (trace : Trace) (hit : Hit) : Prop
  | mk {past : List HttpRequest} {request : HttpRequest} {response : HttpResponse} {body : Value}
      {found : List Hit} {n : Int} (last : trace.sent = past ++ [request])
      (answered : around.answers past request = .ok response)
      (lists : RemoteBackend.Lists response body (found, n)) (member : hit ∈ found) :
    around.Found trace hit

/-- A hit was found that is unfit. -/
def Surroundings.FoundMisfit (around : Surroundings) (trace : Trace) (fault : Fault) : Prop :=
  ∃ hit, around.Found trace hit ∧ hit.Misfit fault

/-- The report of a failed execution is told. -/
theorem yields_execute {types : FieldTypes Trace} (http : around.IsHttp) (spec : SearchSpec)
    {query : BackendQuery} {body : Value} (isBody : query.record = .ok body) (patterns : List String)
    (w : Trace) :
    ((settings.service types around.host.client).execute spec query patterns).Yields w
      (fun result v => v.printed = w.printed ∧ Json.badKey? result.2 = none ∧
        ∀ hit ∈ result.1, hit.IsJson ∧ around.Found v hit)
      (fun e v => v.printed = w.printed ∧ e.ToldUnless fun _ => False) := by
  let request := settings.backend.request (RemoteBackend.address patterns) body
  let v : Trace := { w with sent := w.sent ++ [request] }
  have ran : (settings.backend.executeOn around.host.client query (.texts patterns)).Yields w
      (fun result u => u = v ∧ ∃ response body, around.answers w.sent request = .ok response ∧
        RemoteBackend.Lists response body result)
      (fun e u => u = v ∧ e.HasText) :=
    RemoteBackend.yields_executeOn isBody (around.ends_send w request) fun response =>
      http.status w.sent request response
  have executed : ((settings.service types around.host.client).backend.execute query patterns).Yields w
      (fun result u => u = v ∧ ∃ response body n, around.answers w.sent request = .ok response ∧
        RemoteBackend.Lists response body (result.1, n) ∧ result.2 = .int n)
      (fun e u => u = v ∧ e.HasText) := by
    refine Yields.bind ran ?_
    rintro ⟨found, n⟩ u ⟨same, response, body, answered, lists⟩
    exact .pure ⟨same, response, body, n, answered, lists, rfl⟩
  unfold SearchService.execute
  refine Yields.handleFault (executed.imp ?_ fun _ _ told => told) ?_ ?_
  · rintro ⟨found, total⟩ u ⟨rfl, response, body, n, answered, lists, rfl⟩
    refine ⟨rfl, rfl, fun hit member => ⟨?_, .mk rfl answered lists member⟩⟩
    exact RemoteBackend.isJson_of_hits lists.isHits (Json.badKey?_of_read lists.read) hit member
  · rintro report cause u ⟨rfl, hasText⟩
    exact ⟨rfl, hasText⟩
  · rintro fault u ⟨rfl, -⟩
    exact .log_bind (.fail ⟨rfl, Failure.hasText_failedExecution _ patterns _ rfl⟩)

/-- A search for some terms, under any name, ends with an answer that can be written, or it is told why
it does not, unless an unfit hit is found. -/
theorem yields_search {types : TypeSource} (allowed : settings.AllowTypes types) (http : around.IsHttp)
    (t : SearchTerms) (undecorated : t.decorators = []) {name : Value} (named : Json.badKey? name = none) :
    ((settings.service (types.fieldTypes around.host.client) around.host.client).search
        { t.spec with name } none).Yields {}
      (fun e v => v.printed = [] ∧ Json.badKey? e.record = none)
      (fun e v => v.printed = [] ∧ e.ToldUnless (around.FoundMisfit v)) := by
  unfold SearchService.search
  refine Yields.bind ((yields_build allowed t settings.highlighting).imp_error
    fun e v told => ⟨told.1, told.2.of_false⟩) ?_
  rintro query v ⟨silent, body, isBody⟩
  obtain ⟨patterns, isPatterns⟩ := IndexScope.exists_patterns settings.hasTextNames_scope t.spec.streams
  refine .ofFault_bind isPatterns ?_
  refine Yields.bind ((yields_execute http _ isBody patterns v).imp_error
    fun e u told => ⟨told.1.trans silent, told.2.of_false⟩) ?_
  rintro ⟨hits, total⟩ u ⟨same, isTotal, each⟩
  refine .ofFault_bind rfl (.log_bind ?_)
  have json : ∀ hit ∈ hits, hit.IsJson := fun hit member => (each hit member).1
  refine (Assembly.yields_assemble undecorated rfl named isTotal json _ u).imp ?_ ?_
  · rintro e _ ⟨rfl, written⟩
    exact ⟨same.trans silent, written⟩
  · rintro e _ ⟨rfl, told⟩
    refine ⟨same.trans silent, told.imp ?_⟩
    rintro fault ⟨hit, member, misfit⟩
    exact ⟨hit, (each hit member).2, misfit⟩

/-- The service is made as the settings say, unless they name a file that lacks a table. -/
theorem yields_configuredService (around : Surroundings) (settings : Settings) (w : Trace) :
    (configuredService around.host settings).Yields w
      (fun service v => v = w ∧ ∃ types, settings.AllowTypes types ∧
        service = settings.service (types.fieldTypes around.host.client) around.host.client)
      (fun e v => v = w ∧ settings.LackTypes (around.file settings.typesPath) e) := by
  have found : Ends (around.host.fileAt settings.typesPath) w (.ok (around.file settings.typesPath)) w :=
    .pure _ w
  have configures : Assembling.Ends (SearchRegistry.configure around.host settings) w SearchRegistry.empty
      (.ok ()) (SearchRegistry.empty.configured around.host settings) :=
    fun log => ⟨_, rfl⟩
  obtain ⟨r, -, ⟨made, ends, isBuilder, allowed, isBackend, isChain, isScope⟩ | ⟨e, ends, lacks⟩⟩ :=
    SearchPart.gives_service found _ (SearchRegistry.keeps_configured around.host settings)
  · refine (configures.bind ends).alone.bind_yields (.pure ⟨rfl, _, allowed, ?_⟩)
    unfold ServiceParts.service Settings.service
    rw [isBuilder, isBackend, isChain, isScope]
  · exact (configures.bind ends).alone.bind_error.yields_error ⟨rfl, lacks⟩

/-- What is wrong with a search and is not told. -/
inductive Surroundings.Misfit (around : Surroundings) (settings : Settings) (a : SearchArguments)
    (trace : Trace) : Fault → Prop
  | table {fault : Fault} (source : settings.typesSource = "file")
    (lacks : (around.file settings.typesPath).LacksTable settings.typesPath fault) :
    around.Misfit settings a trace fault
  | arguments {fault : Fault} (misfit : a.Misfit around.now fault) : around.Misfit settings a trace fault
  | hit {fault : Fault} {hit : Hit} (found : around.Found trace hit) (misfit : hit.Misfit fault) :
    around.Misfit settings a trace fault

/-- The command prints an answer, or says that there is none, or ends with a fault. -/
theorem yields_search_command (around : Surroundings) (http : around.IsHttp) (settings : Settings)
    {a : SearchArguments} (read : a.IsRead) :
    (CommandLine.search around.host settings a).Yields {}
      (fun code v => code = 0 ∧ (∃ e : Envelope, Json.badKey? e.record = none ∧
          v.printed = [Json.indented e.record]) ∨
        code = 1 ∧ v.printed = [])
      (fun e v => v.printed = [] ∧ ∃ fault, e = .fault fault ∧
        (fault.kind.isValue = true ∨ around.Misfit settings a v fault)) := by
  have named : Json.badKey? a.name = none := by
    have isRead := read.name
    generalize a.name = name at isRead
    rcases isRead with rfl | (_ | _ | _) <;> rfl
  unfold CommandLine.search
  refine Yields.bind ((yields_configuredService around settings {}).imp_error ?_) ?_
  · rintro e v ⟨rfl, fault, rfl, source, lacks⟩
    exact ⟨rfl, fault, rfl, .inr (.table source lacks)⟩
  rintro service v ⟨rfl, types, allowed, rfl⟩
  refine Yields.bind (P := fun (answer : Option Envelope) v => v.printed = [] ∧
    ∀ e ∈ answer, Json.badKey? e.record = none) ?_ ?_
  · refine Yields.handle (E := fun e v => v.printed = [] ∧ e.ToldUnless (around.Misfit settings a v)) ?_ ?_
    · refine Yields.bind ((SearchArguments.yields_spec around settings read {}).imp_error ?_) ?_
      · rintro e v ⟨rfl, told⟩
        exact ⟨rfl, told.imp fun _ => .arguments⟩
      rintro spec v ⟨rfl, t, undecorated, rfl⟩
      refine Yields.bind ((yields_search allowed http t undecorated named).imp_error ?_) ?_
      · rintro e v ⟨silent, told⟩
        exact ⟨silent, told.imp fun _ ⟨_, found, misfit⟩ => .hit found misfit⟩
      rintro envelope v ⟨silent, written⟩
      exact .pure ⟨silent, fun _ same => Option.some.inj same ▸ written⟩
    · rintro e v ⟨silent, told⟩
      cases e with
      | fault fault => exact .fail_bind ⟨silent, fault, rfl, told⟩
      | search report cause =>
        obtain ⟨text, isText⟩ := told
        refine .ofFault_bind isText (.log_bind (.pure ⟨silent, nofun⟩))
  · rintro (_ | envelope) v ⟨silent, written⟩
    · exact .pure (.inr ⟨rfl, silent⟩)
    · refine (around.ends_print v _).bind_yields (.pure (.inl ⟨rfl, envelope, written envelope rfl, ?_⟩))
      dsimp only
      rw [silent]
      rfl

end CommandLine

end LogSearch
