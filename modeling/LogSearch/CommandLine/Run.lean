import LogSearch.CommandLine.Request
import LogSearch.Setup

/-!
# Running a command

The program checks its log level, reads its arguments, and runs the command that they name.  `ping`
asks the search backend until it answers well or the attempts are used up.  `search` puts the parts
together, searches, and prints the answer.  The exit code tells how it went: 0 well, 1 not, 2 that
the arguments or the data do not make sense.

Renders `wait_for_backend` (`waitForBackend`), `cmd_ping` and `cmd_search` (`Command.run`) and
`main` (`run`).
-/

namespace LogSearch.CommandLine

/-- The levels by name, with their ranks. -/
def levelRanks : List (String × Nat) :=
  [("CRITICAL", 50), ("FATAL", 50), ("ERROR", 40), ("WARN", 30), ("WARNING", 30), ("INFO", 20),
    ("DEBUG", 10), ("NOTSET", 0)]

/-- The rank that a log line must have to be shown. -/
def threshold (level : String) : Except Fault Nat :=
  match levelRanks.find? fun (name, _) => name == level with
  | some (_, rank) => .ok rank
  | none => .error (.unknownLevel level)

/-- How many seconds a probe may take. -/
def probeTimeout : Nat := 5

/-- How many seconds pass between two probes. -/
def probePause : Nat := 2

/-- The version that a backend tells in its answer to a probe. -/
def version (r : HttpResponse) : Except Fault String := do
  let body ← r.content
  let number ← (← body.field "version" (.map [])).field "number" (.str "unknown")
  return number.plain

variable {σ : Type}

/-- Asks the backend whether it is there. -/
def probe (host : Host σ) (settings : Settings) (progress : String) : Flow σ Bool := do
  let request : HttpRequest :=
    { method := .probe, url := settings.backend.baseUrl, timeout := .int probeTimeout }
  let asked : Flow σ Bool := do
    let response ← host.client.send request
    if response.hasStatus 200 then
      let version ← Flow.ofFault (version response)
      Flow.log .info ("Backend is ready (version " ++ version ++ ")")
      return true
    Flow.log .info ("Backend answered " ++ response.status.plain)
    return false
  Flow.handleFault asked fun fault => do
    unless fault.kind.isProbe do Flow.fail (.fault fault)
    Flow.log .info ("Waiting for backend... (" ++ progress ++ ")")
    return false

/-- Asks the backend until it is there, `left` times at most, and waits after each time that it is
not. -/
def probeUntilReady (host : Host σ) (settings : Settings) (attempts : Int) : Nat → Flow σ Bool
  | 0 => return false
  | left + 1 => do
    let attempt := attempts - left
    let progress := String.ofList (Text.integer attempt ++ '/' :: Text.integer attempts)
    if ← probe host settings progress then return true
    host.sleep probePause
    probeUntilReady host settings attempts left

/-- Waits until the search backend is there, and tells whether it is. -/
def waitForBackend (host : Host σ) (settings : Settings) (attempts : Int) : Flow σ Bool := do
  Flow.log .info ("Checking search backend: " ++ settings.backend.baseUrl)
  if ← probeUntilReady host settings attempts attempts.toNat then return true
  Flow.log .error "Search backend not available"
  return false

/-- The search service that settings give. -/
def configuredService (host : Host σ) (settings : Settings) : Flow σ (SearchService σ) := do
  let parts : Assembling σ SearchPart.Kind (Instance ServiceParts) := do
    SearchRegistry.configure host settings
    Registry.resolve SearchPart.service
  return (← parts.alone SearchRegistry.empty).value.service host.client

/-- Searches, and prints what is found.  A report of the search ends it with code 1. -/
def search (host : Host σ) (settings : Settings) (arguments : SearchArguments) : Flow σ Int := do
  let service ← configuredService host settings
  let found : Flow σ (Option Envelope) := do
    return some (← service.search (← arguments.spec host settings) none)
  let envelope? ← Flow.handle found fun failure => do
    unless failure.isReport do Flow.fail failure
    Flow.log .error ("Search failed: " ++ (← Flow.ofFault failure.text))
    return none
  match envelope? with
  | none => return 1
  | some envelope =>
    host.print (Json.indented envelope.record)
    return 0

/-- Runs a command. -/
def Command.run (host : Host σ) (settings : Settings) : Command → Flow σ Int
  | ping attempts => do
    match attempts.int? with
    | some attempts => return if ← waitForBackend host settings attempts then 0 else 1
    | none => Flow.ofFault (.error (.notCount attempts.fullKind))
  | search arguments => CommandLine.search host settings arguments

/-- Whether a failure is one of the data, which the program tells and ends with. -/
def isTold : Failure → Bool
  | .fault f => f.kind.isValue
  | .search _ _ => true

/-- How the program ends. -/
inductive Ending
  | exit (code : Int)
  /-- The arguments are no command. -/
  | stopped (stop : Stop)

/-- Runs the program. -/
def run (host : Host σ) (settings : Settings) (words : List String) : Flow σ Ending := do
  let _ ← Flow.ofFault (threshold settings.logLevel)
  match Command.read words with
  | .error stop => return .stopped stop
  | .ok command =>
    let code ← Flow.handle (command.run host settings) fun failure => do
      unless isTold failure do Flow.fail failure
      Flow.log .error (← Flow.ofFault failure.text)
      return 2
    return .exit code

end LogSearch.CommandLine
