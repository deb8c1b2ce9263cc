import LogSearch.Decoration.Chain
import LogSearch.Spec

/-!
# Assembling an answer

The hits of a search become messages, the messages a response, and the decorated response the
answer.  A search may be cancelled: that is looked for before each hit, before the decorators run
and after them, and whatever was done by then is thrown away.

Renders `ResultAssembler`: `assemble`, `_decorate` (`decorate`) and `_check_cancelled`
(`checkCancelled`); `CancellationSignal` (`Cancellation`).
-/

namespace LogSearch

/-- The collaborator that decorates responses. -/
structure ResponseDecorators (σ : Type) where
  decorate : Response → List DecoratorConfig → Flow σ Revision

/-- The chain as a collaborator. -/
def DecoratorChain.decorators {σ : Type} (chain : DecoratorChain) : ResponseDecorators σ where
  decorate := chain.decorate

/-- The collaborator that tells whether a search is cancelled. -/
structure Cancellation (σ : Type) where
  isSet : Flow σ Bool

namespace Assembly

variable {σ : Type}

/-- Ends the search if it is cancelled. -/
def checkCancelled (spec : SearchSpec) (signal : Option (Cancellation σ)) : Flow σ Unit := do
  match signal with
  | none => return ()
  | some signal =>
    if ← signal.isSet then
      Flow.log .info ("Message list " ++ spec.id.plain ++ " cancelled, discarding results")
      Flow.report (.cancelled spec.id)

/-- The message of one hit, as `read` makes it and as it is shown. -/
def readHit (spec : SearchSpec) (signal : Option (Cancellation σ))
    (read : Hit → Except Failure Message) (hit : Hit) : Flow σ Summary := do
  checkCancelled spec signal
  let message ← Flow.ofExcept (read hit)
  return message.summary

/-- The response that goes through the decorators. -/
def response (spec : SearchSpec) (messages : List Summary) (total : Value) (range : TimeRange) :
    Response where
  query := spec.queryString
  builtQuery := spec.queryString
  messages := messages
  total := total
  first := range.first
  last := range.last

/-- Decorates a response.  A fault becomes a report. -/
def decorate (spec : SearchSpec) (decorators : ResponseDecorators σ) (r : Response) :
    Flow σ Response := do
  let done ← Flow.handleFault (decorators.decorate r spec.decorators) fun fault => do
    Flow.log .error ("Decorating " ++ spec.id.plain ++ " failed: " ++ fault.message)
    Flow.fail (.search (.failedDecoration (.str "chain") fault.message) (some (.fault fault)))
  return done.apply r

/-- The answer to a search, made of what was found.  Hits are read by `Hit.read` unless the caller
has another reader. -/
def assemble (spec : SearchSpec) (hits : List Hit) (total : Value) (range : TimeRange)
    (decorators : ResponseDecorators σ) (signal : Option (Cancellation σ))
    (read : Hit → Except Failure Message := Hit.read) : Flow σ Envelope := do
  let messages ← hits.mapM (readHit spec signal read)
  checkCancelled spec signal
  let decorated ← decorate spec decorators (response spec messages total range)
  checkCancelled spec signal
  Flow.log .info ("Message list " ++ spec.id.plain ++ ": " ++
    String.ofList (Text.decimal decorated.messages.length) ++ " messages, " ++
    decorated.total.plain ++ " total")
  return { id := spec.id, name := spec.name, messages := decorated.messages, timeRange := range
           total := decorated.total }

end Assembly

end LogSearch
