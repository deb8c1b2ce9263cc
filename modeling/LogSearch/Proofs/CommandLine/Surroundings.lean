import LogSearch.Host
import LogSearch.Proofs.Flow.Outcome

/-!
# What surrounds a run

A run of the program finds a network, a file, a clock and a source of new names around it, and all that
it does to them is written down: the requests that it sends, the pauses that it makes and the lines that
it prints.  The network is any that answers each request as it likes, given the requests before it.
-/

namespace LogSearch.CommandLine

open LogSearch.Flow (Ends)

/-- What a run has done to its surroundings. -/
structure Trace where
  sent : List HttpRequest := []
  /-- For how many seconds the run waited, each time. -/
  pauses : List Nat := []
  printed : List String := []

/-- What a run finds around it. -/
structure Surroundings where
  /-- The answer to a request, given the requests before it. -/
  answers : List HttpRequest → HttpRequest → Except Fault HttpResponse
  file : String → FoundFile
  now : DateTime
  newId : String

namespace Surroundings

/-- The surroundings as a host that writes down what is done to them. -/
def host (around : Surroundings) : Host Trace where
  client.send request := Flow.ask fun trace =>
    (ofFaults (around.answers trace.sent request), { trace with sent := trace.sent ++ [request] })
  fileAt path := pure (around.file path)
  sleep seconds := Flow.ask fun trace => (.ok (), { trace with pauses := trace.pauses ++ [seconds] })
  now := pure around.now
  newId := pure around.newId
  print line := Flow.ask fun trace => (.ok (), { trace with printed := trace.printed ++ [line] })

/-- The network speaks HTTP: the status of a response is a number, and a probe that fails has failed on
its way. -/
structure IsHttp (around : Surroundings) : Prop where
  status : ∀ sent request response, around.answers sent request = .ok response →
    ∃ n, response.status = .int n
  probe : ∀ sent request fault, request.method = .probe →
    around.answers sent request = .error fault → fault.kind.isProbe = true

/-- Surroundings in which nobody answers a request. -/
def offline (now : DateTime) (newId : String) : Surroundings where
  answers _ request :=
    .error (.external (if request.method = .probe then .probeConnect else .transportConnection)
      (.str "refused"))
  file _ := .missing
  now := now
  newId := newId

theorem isHttp_offline (now : DateTime) (newId : String) : (offline now newId).IsHttp where
  status sent request response answered := by cases answered
  probe sent request fault isProbe failed := by
    obtain rfl := Except.error.inj failed
    rw [isProbe]
    rfl

variable (around : Surroundings) (trace : Trace)

theorem ends_send (request : HttpRequest) :
    Ends (around.host.client.send request) trace (ofFaults (around.answers trace.sent request))
      { trace with sent := trace.sent ++ [request] } :=
  fun log => ⟨log, rfl⟩

theorem ends_sleep (seconds : Nat) :
    Ends (around.host.sleep seconds) trace (.ok ())
      { trace with pauses := trace.pauses ++ [seconds] } :=
  fun log => ⟨log, rfl⟩

theorem ends_print (line : String) :
    Ends (around.host.print line) trace (.ok ())
      { trace with printed := trace.printed ++ [line] } :=
  fun log => ⟨log, rfl⟩

end Surroundings

end LogSearch.CommandLine
