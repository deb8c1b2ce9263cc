import LogSearch.CommandLine.Run
import LogSearch.Proofs.Flow
import LogSearch.Proofs.Value.Access
import Mathlib

/-!
# Waiting for a backend

The program asks the backend whether it is there, and after each time that it is not it pauses and asks
again, until its attempts are used up.  A backend is there when it answers with the status 200.  The
program then looks into the answer for a version, only to log it; but an answer that is no JSON, or that
has something else in the place of the version, ends the waiting with a fault and not with success.

All that the waiting does is written down as it happens.  One step lemma says what a probe does, and by
induction on the attempts the first probes that fail are passed over, each with its pause.

Main statement: `waitForBackend_outcome`.
-/

namespace LogSearch.CommandLine

open LogSearch.Flow (Ends)

/-- How a probe ends: it is lost on its way, or it is answered with a status and a body. -/
inductive Reply
  | lost (fault : Fault) (onItsWay : fault.kind.isProbe = true)
  | answered (status : Int) (body url : String) (reason : Value)

/-- What happens while a backend is waited for. -/
inductive Event
  | asked (request : HttpRequest)
  | paused (seconds : Nat)

namespace Reply

/-- The reply as the outcome of a request. -/
def outcome : Reply → Except Fault HttpResponse
  | lost fault _ => .error fault
  | answered status body url reason => .ok { status := .int status, body, url, reason }

/-- The body of the answer of a backend that is there. -/
def ready? : Reply → Option String
  | lost _ _ => none
  | answered status body _ _ => if status = 200 then some body else none

end Reply

namespace Event

/-- Whether a request is sent. -/
def isAsked : Event → Bool
  | asked _ => true
  | paused _ => false

/-- How many requests were sent. -/
def requests (events : List Event) : Nat := events.countP isAsked

/-- A request that is sent again and again, each time with a pause after it. -/
def rounds (request : HttpRequest) (count : Nat) : List Event :=
  (List.replicate count [asked request, paused probePause]).flatten

@[simp] theorem rounds_zero (request : HttpRequest) : rounds request 0 = [] := rfl

@[simp] theorem requests_nil : requests [] = 0 := rfl

theorem rounds_add (request : HttpRequest) (count more : Nat) :
    rounds request (count + more) = rounds request count ++ rounds request more := by
  rw [rounds, ← List.replicate_append_replicate, List.flatten_append, rounds, rounds]

theorem rounds_succ (request : HttpRequest) (count : Nat) :
    rounds request (count + 1) = asked request :: paused probePause :: rounds request count := by
  simp [rounds, List.replicate_succ]

theorem requests_append (events later : List Event) :
    requests (events ++ later) = requests events + requests later :=
  List.countP_append

theorem requests_rounds (request : HttpRequest) (count : Nat) :
    requests (rounds request count) = count := by
  induction count with
  | zero => rfl
  | succ count ih =>
    rw [rounds_succ]
    change requests ([asked request, paused probePause] ++ rounds request count) = count + 1
    rw [requests_append, ih, Nat.add_comm]
    rfl

end Event

/-- A host on which requests are replied to in turn, and which writes down what happens. -/
def watched (host : Host (List Event)) (replies : Nat → Reply) : Host (List Event) where
  client.send request := Flow.ask fun events =>
    (ofFaults (replies (Event.requests events)).outcome, events ++ [.asked request])
  fileAt := host.fileAt
  sleep seconds := Flow.ask fun events => (.ok (), events ++ [.paused seconds])
  now := host.now
  newId := host.newId
  print := host.print

/-- A host on which nothing happens and nobody answers. -/
def idle : Host (List Event) where
  client.send _ := Flow.ofFault (.error (.external .probeConnect (.str "refused")))
  fileAt _ := pure .missing
  sleep _ := pure ()
  now := pure default
  newId := pure "s"
  print _ := pure ()

/-- The request that asks whether a backend is there. -/
def probeRequest (settings : Settings) : HttpRequest where
  method := .probe
  url := settings.scheme ++ "://" ++ settings.host ++ ":" ++
    String.ofList (Text.integer settings.portNumber)
  timeout := .int 5

/-- The body of an answer has a place for a version: it is a map, and so is what is under that name, if
anything is. -/
def HasVersion (body : String) : Prop :=
  ∃ entries, Json.readBody body = .ok (.map entries) ∧
    ∀ v ∈ Entries.get? entries (.str "version"), v.IsMap

/-- What is wrong with a body that has no place for a version. -/
inductive Misses (body : String) : Fault → Prop
  | encoding {e : Text.Encoding.Error} (unread : Json.readBody body = .error (.encoding e)) :
    Misses body (.encoding e)
  | json {e : Json.Error} (unread : Json.readBody body = .error (.json e)) : Misses body (.json e)
  | body {v : Value} (read : Json.readBody body = .ok v) (other : ¬ v.IsMap) :
    Misses body (.noAttribute v.fullKind "get")
  | version {entries : Entries} {v : Value} (read : Json.readBody body = .ok (.map entries))
    (found : Entries.get? entries (.str "version") = some v) (other : ¬ v.IsMap) :
    Misses body (.noAttribute v.fullKind "get")

section Version

variable {response : HttpResponse}

theorem content_of_readBody {v : Value} (read : Json.readBody response.body = .ok v) :
    response.content = .ok v := by
  rw [HttpResponse.content, read]
  rfl

/-- In a map the version is looked up under two names. -/
theorem version_of_map {entries : Entries} (read : Json.readBody response.body = .ok (.map entries)) :
    version response = (do
      let number ← ((Entries.get? entries (.str "version")).getD (.map [])).field "number" (.str "unknown")
      return number.plain) := by
  unfold version
  rw [content_of_readBody read]
  rfl

/-- A version is found where there is a place for it. -/
theorem exists_version (response : HttpResponse) (has : HasVersion response.body) :
    ∃ text, version response = .ok text := by
  obtain ⟨entries, read, isMap⟩ := has
  obtain ⟨under, isUnder⟩ : ((Entries.get? entries (.str "version")).getD (.map [])).IsMap := by
    cases found : Entries.get? entries (.str "version") with
    | none => exact ⟨[], rfl⟩
    | some v => exact isMap v found
  rw [version_of_map read, isUnder, Value.field_map]
  exact ⟨_, rfl⟩

theorem exists_misses (response : HttpResponse) (missing : ¬ HasVersion response.body) :
    ∃ fault, version response = .error fault ∧ Misses response.body fault := by
  cases read : Json.readBody response.body with
  | error e =>
    cases e with
    | encoding e =>
      refine ⟨_, ?_, .encoding read⟩
      rw [version, HttpResponse.content, read]
      rfl
    | json e =>
      refine ⟨_, ?_, .json read⟩
      rw [version, HttpResponse.content, read]
      rfl
  | ok body =>
    by_cases isMap : body.IsMap
    · obtain ⟨entries, rfl⟩ := isMap
      obtain ⟨v, found, other⟩ : ∃ v, Entries.get? entries (.str "version") = some v ∧ ¬ v.IsMap := by
        by_contra! all
        exact missing ⟨entries, read, fun v member => all v member⟩
      refine ⟨_, ?_, .version read found other⟩
      rw [version_of_map read, found, Option.getD_some, Value.field_of_other other]
      rfl
    · refine ⟨_, ?_, .body read isMap⟩
      simp only [version, content_of_readBody read, Value.field_of_other isMap, bind, Except.bind]

theorem isProbe_of_misses {body : String} {fault : Fault} (h : Misses body fault) :
    fault.kind.isProbe = false := by
  cases h with
  | json =>
    unfold Fault.kind
    dsimp only
    split <;> rfl
  | _ => rfl

end Version

section Probe

variable {host : Host (List Event)} {settings : Settings} {replies : Nat → Reply} {progress : String}
  {events : List Event} {reply : Reply}

theorem ends_send (host : Host (List Event)) (turn : replies (Event.requests events) = reply)
    (request : HttpRequest) :
    Ends ((watched host replies).client.send request) events (ofFaults reply.outcome)
      (events ++ [.asked request]) := by
  subst turn
  exact fun log => ⟨log, rfl⟩

theorem ends_sleep (seconds : Nat) :
    Ends ((watched host replies).sleep seconds) events (.ok ()) (events ++ [.paused seconds]) :=
  fun log => ⟨log, rfl⟩

theorem hasStatus_answered (status : Int) (body url : String) (reason : Value) :
    HttpResponse.hasStatus { status := .int status, body, url, reason } 200 = decide (status = 200) := by
  rfl

/-- A probe that does not find the backend sends one request. -/
theorem ends_probe_of_not_ready (turn : replies (Event.requests events) = reply)
    (unready : reply.ready? = none) :
    Ends (probe (watched host replies) settings progress) events (.ok false)
      (events ++ [.asked (probeRequest settings)]) := by
  have sent := ends_send host turn (probeRequest settings)
  unfold probe
  cases reply with
  | lost fault onItsWay =>
    refine (sent.bind_error).handleFault_fault ?_
    rw [if_pos onItsWay]
    exact (Ends.log _ _ _).bind (.pure _ _)
  | answered status body url reason =>
    refine Ends.handleFault_of_ne (sent.bind ?_) nofun
    have other : status ≠ 200 := by
      rintro rfl
      cases unready
    rw [if_neg]
    · exact (Ends.log _ _ _).bind (.pure _ _)
    · rw [hasStatus_answered]
      simpa using other

/-- A probe that finds the backend reads the version, and if it cannot, the fault is not handled. -/
theorem ends_probe_of_ready {body : String} (turn : replies (Event.requests events) = reply)
    (ready : reply.ready? = some body) :
    (HasVersion body → Ends (probe (watched host replies) settings progress) events (.ok true)
      (events ++ [.asked (probeRequest settings)])) ∧
    (¬ HasVersion body → ∃ fault, Misses body fault ∧
      Ends (probe (watched host replies) settings progress) events (.error (.fault fault))
        (events ++ [.asked (probeRequest settings)])) := by
  have sent := ends_send host turn (probeRequest settings)
  cases reply with
  | lost fault onItsWay => cases ready
  | answered status body' url reason =>
    obtain ⟨rfl, rfl⟩ : status = 200 ∧ body' = body := by simpa [Reply.ready?] using ready
    have fine := hasStatus_answered 200 body' url reason
    constructor
    · intro has
      obtain ⟨text, isVersion⟩ := exists_version ⟨.int 200, body', reason, url⟩ has
      unfold probe
      refine Ends.handleFault_of_ne (sent.bind ?_) nofun
      rw [if_pos (by rw [fine]; rfl)]
      refine (Ends.ofFault (congrArg ofFaults isVersion) _).bind ?_
      exact (Ends.log _ _ _).bind (.pure _ _)
    · intro missing
      obtain ⟨fault, failed, misses⟩ := exists_misses ⟨.int 200, body', reason, url⟩ missing
      refine ⟨fault, misses, ?_⟩
      have unhandled : ¬ fault.kind.isProbe = true := by
        rw [isProbe_of_misses misses]
        decide
      unfold probe
      refine (sent.bind (r := .error (.fault fault)) (u := events ++ [.asked (probeRequest settings)])
        ?_).handleFault_fault ?_
      · rw [if_pos (by rw [fine]; rfl)]
        exact (Ends.ofFault (congrArg ofFaults failed) _).bind_error
      · rw [if_neg unhandled]
        exact (Ends.fail _ _).bind_error

end Probe

section Waiting

variable {host : Host (List Event)} {settings : Settings} {replies : Nat → Reply}

/-- A round that does not find the backend takes one attempt, and leaves the others as they are. -/
theorem ends_probeUntilReady_succ {attempts : Int} {left : Nat} {events v : List Event}
    {r : Except Failure Bool} (unready : (replies (Event.requests events)).ready? = none)
    (others : Ends (probeUntilReady (watched host replies) settings attempts left)
      (events ++ Event.rounds (probeRequest settings) 1) r v) :
    Ends (probeUntilReady (watched host replies) settings attempts (left + 1)) events r v := by
  rw [probeUntilReady]
  refine (ends_probe_of_not_ready rfl unready).bind ?_
  rw [if_neg (by decide)]
  refine (ends_sleep probePause).bind ?_
  rw [List.append_assoc]
  exact others

/-- The rounds that do not find the backend are passed over. -/
theorem ends_probeUntilReady_skip {attempts : Int} {left count : Nat} {events v : List Event}
    {r : Except Failure Bool}
    (unready : ∀ i < count, (replies (Event.requests events + i)).ready? = none)
    (others : Ends (probeUntilReady (watched host replies) settings attempts left)
      (events ++ Event.rounds (probeRequest settings) count) r v) :
    Ends (probeUntilReady (watched host replies) settings attempts (left + count)) events r v := by
  induction count generalizing events with
  | zero => rwa [Event.rounds_zero, List.append_nil] at others
  | succ count ih =>
    refine ends_probeUntilReady_succ (unready 0 (Nat.succ_pos count)) (ih ?_ ?_)
    · intro i hi
      rw [Event.requests_append, Event.requests_rounds, Nat.add_assoc, Nat.add_comm 1]
      exact unready (i + 1) (Nat.succ_lt_succ hi)
    · rwa [List.append_assoc, ← Event.rounds_add, Nat.add_comm 1]

/-- The waiting returns what the asking does, and it begins with the rounds that do not find the
backend. -/
theorem ends_waitForBackend {attempts : Int} {left count : Nat} {r : Except Failure Bool}
    {v : List Event} (enough : attempts.toNat = left + count)
    (unready : ∀ i < count, (replies i).ready? = none)
    (others : Ends (probeUntilReady (watched host replies) settings attempts left)
      (Event.rounds (probeRequest settings) count) r v) :
    Ends (waitForBackend (watched host replies) settings attempts) [] r v := by
  have asking : Ends (probeUntilReady (watched host replies) settings attempts attempts.toNat) [] r v := by
    rw [enough]
    refine ends_probeUntilReady_skip (fun i hi => ?_) others
    rw [Event.requests_nil, Nat.zero_add]
    exact unready i hi
  unfold waitForBackend
  refine (Ends.log _ _ _).bind ?_
  match r with
  | .ok true => exact asking.bind (.pure _ _)
  | .ok false => exact asking.bind ((Ends.log _ _ _).bind (.pure _ _))
  | .error e => exact asking.bind_error

/-- A backend that is found is asked for the last time when it is. -/
theorem ends_waitForBackend_of_ready {attempts : Int} {k : Nat} {body : String}
    (inTime : k < attempts.toNat) (unready : ∀ i < k, (replies i).ready? = none)
    (ready : (replies k).ready? = some body) :
    (HasVersion body →
      Ends (waitForBackend (watched host replies) settings attempts) [] (.ok true)
        (Event.rounds (probeRequest settings) k ++ [.asked (probeRequest settings)])) ∧
    (¬ HasVersion body → ∃ fault, Misses body fault ∧
      Ends (waitForBackend (watched host replies) settings attempts) [] (.error (.fault fault))
        (Event.rounds (probeRequest settings) k ++ [.asked (probeRequest settings)])) := by
  have enough : attempts.toNat = (attempts.toNat - k - 1) + 1 + k := by omega
  have turn : replies (Event.requests (Event.rounds (probeRequest settings) k)) = replies k := by
    rw [Event.requests_rounds]
  constructor
  · intro has
    refine ends_waitForBackend enough unready ?_
    rw [probeUntilReady]
    refine ((ends_probe_of_ready turn ready).1 has).bind ?_
    rw [if_pos rfl]
    exact .pure _ _
  · intro missing
    obtain ⟨fault, misses, failed⟩ := (ends_probe_of_ready turn ready).2 missing
    refine ⟨fault, misses, ends_waitForBackend enough unready ?_⟩
    rw [probeUntilReady]
    exact failed.bind_error

/-- A backend that is found in no attempt is asked once in each, with a pause after each, and then it is
not there.  One that is found is asked for the last time when it is, without a pause after that; then it
is there, if its answer has a place for a version, and otherwise the answer is a fault. -/
theorem waitForBackend_outcome (host : Host (List Event)) (settings : Settings)
    (replies : Nat → Reply) (attempts : Int) :
    ((∀ i < attempts.toNat, (replies i).ready? = none) →
      Ends (waitForBackend (watched host replies) settings attempts) [] (.ok false)
        (Event.rounds (probeRequest settings) attempts.toNat)) ∧
    ∀ k < attempts.toNat, (∀ i < k, (replies i).ready? = none) →
      ∀ body, (replies k).ready? = some body →
        (HasVersion body →
          Ends (waitForBackend (watched host replies) settings attempts) [] (.ok true)
            (Event.rounds (probeRequest settings) k ++ [.asked (probeRequest settings)])) ∧
        (¬ HasVersion body → ∃ fault, Misses body fault ∧
          Ends (waitForBackend (watched host replies) settings attempts) [] (.error (.fault fault))
            (Event.rounds (probeRequest settings) k ++ [.asked (probeRequest settings)])) := by
  constructor
  · intro unready
    exact ends_waitForBackend (Nat.zero_add _).symm unready (.pure _ _)
  · intro k inTime unready body ready
    exact ends_waitForBackend_of_ready inTime unready ready

/-- A backend that is lost, then busy, and then there: it is asked three times, with two pauses. -/
theorem waitForBackend_outcome_third :
    let settings : Settings := {}
    let lost := Reply.lost (.external .probeConnect (.str "refused")) rfl
    let busy := Reply.answered 503 "busy" "http://localhost:9200" (.str "Service Unavailable")
    let body := "\x7b\"version\": \x7b\"number\": \"8\"\x7d\x7d"
    let there := Reply.answered 200 body "http://localhost:9200" (.str "OK")
    let replies (turn : Nat) : Reply := if turn = 0 then lost else if turn = 1 then busy else there
    2 < (4 : Int).toNat ∧ (∀ i < 2, (replies i).ready? = none) ∧ (replies 2).ready? = some body ∧
      HasVersion body ∧
      Ends (waitForBackend (watched idle replies) settings 4) [] (.ok true)
        [.asked (probeRequest settings), .paused 2, .asked (probeRequest settings), .paused 2,
          .asked (probeRequest settings)] := by
  intro settings lost busy body there replies
  have enough : 2 < (4 : Int).toNat := by decide
  have unready : ∀ i < 2, (replies i).ready? = none := by
    intro i hi
    match i with
    | 0 => rfl
    | 1 => rfl
  have has : HasVersion body := by
    have read : Json.readBody body =
        .ok (.map [(.str "version", .map [(.str "number", .str "8")])]) := by cbv
    refine ⟨_, read, fun v member => ?_⟩
    obtain rfl : Value.map [(.str "number", .str "8")] = v := Option.some.inj member
    exact ⟨_, rfl⟩
  exact ⟨enough, unready, rfl, has,
    ((waitForBackend_outcome idle settings replies 4).2 2 enough unready body rfl).1 has⟩

/-- A backend that is there and says so in a word, which is no JSON: the waiting has no outcome but a
fault. -/
theorem waitForBackend_word :
    let settings : Settings := {}
    let replies (_ : Nat) : Reply := .answered 200 "ok" "http://localhost:9200" (.str "OK")
    ∃ fault, Ends (waitForBackend (watched idle replies) settings 1) [] (.error (.fault fault))
      [.asked (probeRequest settings)] := by
  intro settings replies
  have missing : ¬ HasVersion "ok" := by
    rintro ⟨entries, read, -⟩
    have unread : (Json.readBody "ok").toOption.isSome = false := by cbv
    rw [read] at unread
    cases unread
  have inTime : 0 < (1 : Int).toNat := by decide
  have atOnce : ∀ i < 0, (replies i).ready? = none := fun i hi => absurd hi (Nat.not_lt_zero i)
  obtain ⟨fault, -, failed⟩ := (ends_waitForBackend_of_ready inTime atOnce rfl).2 missing
  exact ⟨fault, failed⟩

end Waiting

end LogSearch.CommandLine
