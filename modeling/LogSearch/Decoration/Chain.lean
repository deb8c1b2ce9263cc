import LogSearch.Decoration.Builtin
import LogSearch.Flow
import LogSearch.Message.Response
import LogSearch.Value.Sorted

/-!
# The chain of decorators

Decorators are made from their settings and run one after another, in the order that the settings
give and, among equals, in the given sequence.  Each is made when its turn comes, so the first
failure, in making or in running, is the one that is reported.

Renders `DecoratorChain`: `register`, `_create` (`make`) and `decorate`; `MessageDecorator.decorate`
(`Decorator.ofMessages`).
-/

namespace LogSearch

/-- What a decorator makes of a response: it keeps it as it is, or puts another in its place. -/
inductive Revision
  | kept
  | replaced (r : Response)

/-- The response after a revision. -/
def Revision.apply : Revision → Response → Response
  | .kept, r => r
  | .replaced r, _ => r

/-- The second of two revisions after the first. -/
def Revision.after (first second : Revision) : Revision :=
  match second with
  | .kept => first
  | .replaced r => .replaced r

/-- A decorator. -/
abbrev Decorator := Response → Except Failure Revision

/-- What makes a decorator from its settings. -/
abbrev DecoratorFactory := DecoratorConfig → Except Failure Decorator

namespace Decorator

/-- Changes one message. -/
def onSummary (f : Entries → Except Fault Entries) (s : Summary) : Except Fault Summary := do
  return { s with fields := ← f s.fields }

/-- The decorator that changes messages one by one; it keeps a response without messages. -/
def ofMessages (f : Entries → Except Fault Entries) : Decorator := fun r =>
  if r.messages.isEmpty then .ok .kept
  else do
    let messages ← ofFaults (r.messages.mapM (onSummary f))
    return .replaced { r with messages }

end Decorator

/-- A chain of decorators: what makes a decorator of each type. -/
structure DecoratorChain where
  factories : List (Value × DecoratorFactory)

namespace DecoratorChain

/-- The factory that makes a decorator of messages. -/
def factory {δ : Type} (make : Value → Except Fault δ) (run : δ → Entries → Except Fault Entries) :
    DecoratorFactory := fun config =>
  (ofFaults (make config.config)).map fun d => Decorator.ofMessages (run d)

/-- The chain of the built-in decorators. -/
def builtin : DecoratorChain where
  factories :=
    [(.str "syslog_severity_mapper", factory SeverityMapper.ofConfig SeverityMapper.decorate),
      (.str "format_string", factory TemplateWriter.ofConfig TemplateWriter.decorate),
      (.str "lookup_table", factory TableLookup.ofConfig TableLookup.decorate)]

/-- The chain that has another factory for a type. -/
def register (chain : DecoratorChain) (type : Value) (make : DecoratorFactory) : DecoratorChain :=
  ⟨(type, make) :: chain.factories.filter fun (t, _) => !t.alike type⟩

/-- What makes a decorator of a type. -/
def factory? (chain : DecoratorChain) (type : Value) : Option DecoratorFactory :=
  (chain.factories.find? fun (t, _) => t.alike type).map Prod.snd

/-- Whether a fault of this kind in making a decorator tells of its settings. -/
def isSettingsFault (kind : FaultKind) : Bool :=
  kind == .key || kind == .type || kind.isValue

/-- Makes the decorator with some settings.  A fault that tells of the settings is reported; any
other failure is left as it is. -/
def make (chain : DecoratorChain) (config : DecoratorConfig) : Except Failure Decorator := do
  ofFaults config.type.fixed
  match chain.factory? config.type with
  | none => throw (Report.failure (.failedDecoration config.type "unknown decorator type"))
  | some make =>
    match make config with
    | .ok d => return d
    | .error (.fault f) =>
      if isSettingsFault f.kind then
        throw (.search (.failedDecoration config.type ("invalid configuration: " ++ f.message))
          (some (.fault f)))
      else throw (.fault f)
    | .error failure => throw failure

variable {σ : Type}

/-- Makes and runs the decorator with some settings. -/
def step (chain : DecoratorChain) (done : Revision) (config : DecoratorConfig) (r : Response) :
    Flow σ Revision := do
  let d ← Flow.ofExcept (chain.make config)
  match d (done.apply r) with
  | .ok next => return done.after next
  | .error (.fault fault) =>
    Flow.log .error ("Decorator " ++ config.type.plain ++ " failed: " ++ fault.message)
    Flow.fail (.search (.failedDecoration config.type fault.message) (some (.fault fault)))
  | .error failure => Flow.fail failure

/-- Runs decorators one after another. -/
def run (chain : DecoratorChain) (r : Response) :
    Revision → List DecoratorConfig → Flow σ Revision
  | done, [] => return done
  | done, config :: rest => do
    let done ← chain.step done config r
    chain.run r done rest

/-- Runs decorators in the order that their settings give. -/
def decorate (chain : DecoratorChain) (r : Response) (configs : List DecoratorConfig) :
    Flow σ Revision := do
  let sorted ← Flow.ofFault (Sorted.sortBy DecoratorConfig.order configs)
  let done ← chain.run r .kept sorted
  unless configs.isEmpty do
    Flow.log .debug
      ("Applied " ++ String.ofList (Text.decimal configs.length) ++ " decorator(s)")
  return done

end DecoratorChain

end LogSearch
