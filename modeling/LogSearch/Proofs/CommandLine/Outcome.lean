import LogSearch.Proofs.CommandLine.Search

/-!
# How a run ends

A run of the program with a command ends with one of three codes, and what it prints is one answer when a
search ends well and nothing otherwise.  A fault that no handler is there for ends it too, and then nothing
is printed.  For each command there is a list of what makes such a fault.

Main statement: `run_outcome`.
-/

namespace LogSearch.CommandLine

open LogSearch.Flow (Ends Yields)

variable {around : Surroundings} {settings : Settings}

/-- The last request of a trace was answered as by a backend that is there, whose version cannot be
read. -/
inductive Surroundings.HidesVersion (around : Surroundings) (trace : Trace) (fault : Fault) : Prop
  | mk {past : List HttpRequest} {request : HttpRequest} {response : HttpResponse}
    (last : trace.sent = past ++ [request]) (answered : around.answers past request = .ok response)
    (fine : response.hasStatus 200 = true) (unread : version response = .error fault)

/-- What is wrong with a command and is not told. -/
inductive Surroundings.LetsThrough (around : Surroundings) (settings : Settings) :
    Command → Trace → Fault → Prop
  | attempts {trace : Trace} : LetsThrough around settings (.ping (.list [])) trace (.notCount "list")
  | version {n : Int} {trace : Trace} {fault : Fault} (hides : around.HidesVersion trace fault) :
    LetsThrough around settings (.ping (.int n)) trace fault
  | search {a : SearchArguments} {trace : Trace} {fault : Fault}
    (misfit : around.Misfit settings a trace fault) :
    LetsThrough around settings (.search a) trace fault

/-- What a command that ends with a code has printed: a search that ends well one answer, and nothing
otherwise. -/
def Command.Shows (code : Int) (printed : List String) : Command → Prop
  | ping _ => (code = 0 ∨ code = 1 ∨ code = 2) ∧ printed = []
  | search _ =>
    code = 0 ∧ (∃ e : Envelope, Json.badKey? e.record = none ∧ printed = [Json.indented e.record]) ∨
      (code = 1 ∨ code = 2) ∧ printed = []

section Ping

/-- A probe finds the backend or does not, or the version cannot be read. -/
theorem yields_probe (http : around.IsHttp) (settings : Settings) (progress : String) {w : Trace}
    (silent : w.printed = []) :
    (probe around.host settings progress).Yields w (fun _ v => v.printed = [])
      (fun e v => v.printed = [] ∧ ∃ fault, e = .fault fault ∧ around.HidesVersion v fault) := by
  let request : HttpRequest :=
    { method := .probe, url := settings.backend.baseUrl, timeout := .int probeTimeout }
  let asked : Trace := { w with sent := w.sent ++ [request] }
  have sent : Ends (around.host.client.send request) w (ofFaults (around.answers w.sent request)) asked :=
    around.ends_send w request
  unfold probe
  refine Yields.handleFault (E := fun e v => v.printed = [] ∧ ∃ fault, e = .fault fault ∧
    (fault.kind.isProbe = true ∨ around.HidesVersion v fault)) ?_ ?_ ?_
  · cases answered : around.answers w.sent request with
    | error fault =>
      rw [answered] at sent
      exact sent.bind_error.yields_error
        ⟨silent, fault, rfl, .inl (http.probe w.sent request fault rfl answered)⟩
    | ok response =>
      rw [answered] at sent
      refine sent.bind_yields ?_
      by_cases fine : response.hasStatus 200 = true
      · rw [if_pos fine]
        cases read : version response with
        | error fault =>
          refine .ofFault_bind_error rfl ?_
          exact ⟨silent, fault, rfl, .inr (.mk rfl answered fine read)⟩
        | ok number =>
          refine .ofFault_bind rfl ?_
          exact .log_bind (.pure silent)
      · rw [if_neg fine]
        exact .log_bind (.pure silent)
  · rintro report cause v ⟨-, fault, same, -⟩
    cases same
  · rintro fault v ⟨silent, _, same, why⟩
    cases same
    by_cases isProbe : fault.kind.isProbe = true
    · rw [if_pos isProbe]
      exact .log_bind (.pure silent)
    · rw [if_neg isProbe]
      exact .fail_bind ⟨silent, fault, rfl, why.resolve_left isProbe⟩

/-- However many attempts are left, asking for the backend prints nothing. -/
theorem yields_probeUntilReady (http : around.IsHttp) (settings : Settings) (attempts : Int) (left : Nat)
    {w : Trace} (silent : w.printed = []) :
    (probeUntilReady around.host settings attempts left).Yields w (fun _ v => v.printed = [])
      (fun e v => v.printed = [] ∧ ∃ fault, e = .fault fault ∧ around.HidesVersion v fault) := by
  -- Each attempt starts in the trace that those before it leave.
  induction left generalizing w with
  | zero => exact .pure silent
  | succ left ih =>
    rw [probeUntilReady]
    refine Yields.bind (yields_probe http settings _ silent) ?_
    rintro (_ | _) v silent
    · exact (around.ends_sleep v probePause).bind_yields (ih silent)
    · exact .pure silent

theorem yields_ping (http : around.IsHttp) (settings : Settings) {attempts : Value}
    (read : ArgumentKind.integer.Reads attempts) :
    ((Command.ping attempts).run around.host settings).Yields {}
      (fun code v => (Command.ping attempts).Shows code v.printed)
      (fun e v => v.printed = [] ∧ ∃ fault, e = .fault fault ∧
        around.LetsThrough settings (.ping attempts) v fault) := by
  cases read with
  | nothing => exact .ofFault nofun fun fault h => by cases h; exact ⟨rfl, _, rfl, .attempts⟩
  | integer n =>
    have waits : (waitForBackend around.host settings n).Yields {} (fun _ v => v.printed = [])
        (fun e v => v.printed = [] ∧ ∃ fault, e = .fault fault ∧ around.HidesVersion v fault) := by
      refine .log_bind (Yields.bind (yields_probeUntilReady http settings n n.toNat rfl) ?_)
      rintro (_ | _) v silent
      · exact .log_bind (.pure silent)
      · exact .pure silent
    refine Yields.bind (waits.imp_error ?_) ?_
    · rintro e v ⟨silent, fault, rfl, hides⟩
      exact ⟨silent, fault, rfl, .version hides⟩
    · rintro (_ | _) v silent
      · exact .pure ⟨.inr (.inl rfl), silent⟩
      · exact .pure ⟨.inl rfl, silent⟩

end Ping

/-- A command shows what its code says, or ends with a fault of its own. -/
theorem yields_run (http : around.IsHttp) (settings : Settings) {command : Command}
    (read : command.IsRead) :
    (command.run around.host settings).Yields {} (fun code v => command.Shows code v.printed)
      (fun e v => v.printed = [] ∧ ∃ fault, e = .fault fault ∧
        (fault.kind.isValue = true ∨ around.LetsThrough settings command v fault)) := by
  cases command with
  | ping attempts =>
    refine (yields_ping http settings read).imp_error ?_
    rintro e v ⟨silent, fault, rfl, through⟩
    exact ⟨silent, fault, rfl, .inr through⟩
  | search a =>
    refine (yields_search_command around http settings read).imp ?_ ?_
    · rintro code v (well | ⟨rfl, silent⟩)
      · exact .inl well
      · exact .inr ⟨.inl rfl, silent⟩
    · rintro e v ⟨silent, fault, rfl, why⟩
      exact ⟨silent, fault, rfl, why.imp_right .search⟩

/-- A search whose time range leaves the calendar ends the run with the fault, before anything is sent. -/
theorem ends_run_of_outside {rank : Nat} (known : threshold settings.logLevel = .ok rank)
    (source : settings.typesSource ≠ "file") {words : List String} {a : SearchArguments}
    (accepted : Command.read words = .ok (.search a))
    (outside : a.range around.now = .error .outsideCalendar) :
    Ends (run around.host settings words) {} (.error (.fault .outsideCalendar)) {} := by
  have failed : (CommandLine.search around.host settings a).Yields {} (fun _ _ => False)
      (fun e v => v = {} ∧ e = .fault .outsideCalendar) := by
    unfold CommandLine.search
    refine Yields.bind ((yields_configuredService around settings {}).imp_error ?_) ?_
    · rintro e v ⟨-, fault, -, isFile, -⟩
      exact absurd isFile source
    rintro service v ⟨rfl, -⟩
    have unmade := SearchArguments.yields_spec_of_range_error around settings outside {}
    refine Yields.bind (P := fun _ _ => False) ?_ fun _ _ => False.elim
    refine Yields.handle (E := fun e v => v = {} ∧ e = .fault .outsideCalendar)
      (Yields.bind unmade fun _ _ => False.elim) ?_
    rintro e v ⟨rfl, rfl⟩
    exact .fail_bind ⟨rfl, rfl⟩
  rcases failed with ⟨_, _, -, never⟩ | ⟨_, _, ends, rfl, rfl⟩
  · exact never.elim
  unfold run
  refine (Ends.ofFault (congrArg ofFaults known) _).bind ?_
  rw [accepted]
  refine (Ends.handle_error ends ?_).bind_error
  rw [if_neg (by decide)]
  exact (Ends.fail _ _).bind_error

/-- A run with a command ends with a code of which the command shows what it should, or with a fault that
is let through and before which nothing is printed. -/
theorem run_outcome (around : Surroundings) (http : around.IsHttp) (settings : Settings) {rank : Nat}
    (known : threshold settings.logLevel = .ok rank) {words : List String} {command : Command}
    (accepted : Command.read words = .ok command) :
    ∃ trace,
      (∃ code, Ends (run around.host settings words) {} (.ok (.exit code)) trace ∧
        command.Shows code trace.printed) ∨
      ∃ fault, Ends (run around.host settings words) {} (.error (.fault fault)) trace ∧
        trace.printed = [] ∧ fault.kind.isValue = false ∧
        around.LetsThrough settings command trace fault := by
  have ran : (run around.host settings words).Yields {}
      (fun ending v => ∃ code, ending = .exit code ∧ command.Shows code v.printed)
      (fun e v => v.printed = [] ∧ ∃ fault, e = .fault fault ∧ fault.kind.isValue = false ∧
        around.LetsThrough settings command v fault) := by
    unfold run
    refine .ofFault_bind known ?_
    rw [accepted]
    refine Yields.bind (P := fun code v => command.Shows code v.printed)
      ((yields_run http settings (Command.isRead_of_read accepted)).handle ?_) ?_
    · rintro e v ⟨silent, fault, rfl, why⟩
      by_cases told : isTold (.fault fault) = true
      · rw [if_pos told]
        refine .ofFault_bind rfl (.log_bind (.pure ?_))
        rw [silent]
        cases command with
        | ping attempts => exact ⟨.inr (.inr rfl), rfl⟩
        | search a => exact .inr ⟨.inr rfl, rfl⟩
      · rw [if_neg told]
        exact .fail_bind
          ⟨silent, fault, rfl, Bool.eq_false_iff.2 told, why.resolve_left told⟩
    · intro code v shows
      exact .pure ⟨code, rfl, shows⟩
  rcases ran with ⟨_, trace, ends, code, rfl, shows⟩ | ⟨_, trace, ends, silent, fault, rfl, untold, through⟩
  · exact ⟨trace, .inl ⟨code, ends, shows⟩⟩
  · exact ⟨trace, .inr ⟨fault, ends, silent, untold, through⟩⟩

/-- A search where nobody answers ends with a code. -/
theorem run_outcome_offline :
    let around := Surroundings.offline ⟨0, some .utc, by decide⟩ "s"
    let words := ["search", "--to", "2024-03-01T12:00:00Z", "--sort=level:DESC", "--stream", "b"]
    let a : SearchArguments :=
      { last := some "2024-03-01T12:00:00Z", sorts := [.str "level:DESC"], streams := [.str "b"] }
    around.IsHttp ∧ threshold ({} : Settings).logLevel = .ok 20 ∧
      Command.read words = .ok (.search a) ∧
      ∃ trace code, Ends (run around.host {} words) {} (.ok (.exit code)) trace ∧
        (Command.search a).Shows code trace.printed := by
  intro around words a
  have http := Surroundings.isHttp_offline ⟨0, some .utc, by decide⟩ "s"
  have given : Command.searchGrammar.read words.tail = .ok { options :=
      [("--to", .str "2024-03-01T12:00:00Z"), ("--sort", .str "level:DESC"), ("--stream", .str "b")] } := by
    have tokens : Command.searchGrammar.tokens words.tail = .ok
        [⟨"--to", .option "--to" (Command.textOption "--to") none⟩, ⟨"2024-03-01T12:00:00Z", .operand⟩,
          ⟨"--sort=level:DESC", .option "--sort" (Command.textOption "--sort") (some "level:DESC".toList)⟩,
          ⟨"--stream", .option "--stream" (Command.textOption "--stream") none⟩, ⟨"b", .operand⟩] := rfl
    simp [Grammar.read, tokens, Grammar.take, Grammar.argument, Command.textOption, Form.read, Form.key,
      Given.withOption, bind, Except.bind, pure, Except.pure]
  have isNamed : Command.named? "search" = some (Command.searchGrammar, Command.ofSearch) := rfl
  have accepted : Command.read words = .ok (.search a) := Command.read_of_named ⟨_, rfl⟩ isNamed given rfl
  have inside : (a.range around.now).toOption.isSome = true := by cbv
  refine ⟨http, rfl, accepted, ?_⟩
  obtain ⟨trace, ⟨code, ends, shows⟩ | ⟨fault, -, -, -, through⟩⟩ :=
    run_outcome around http {} rfl accepted
  · exact ⟨trace, code, ends, shows⟩
  · cases through with
    | search misfit =>
      cases misfit with
      | table source => exact absurd source (by decide)
      | arguments misfit =>
        cases misfit with
        | range outside =>
          rw [outside] at inside
          cases inside
        | sort empty => cases List.mem_singleton.1 empty
        | stream empty => cases List.mem_singleton.1 empty
        | limit empty => cases empty
        | offset empty => cases empty
      | hit found => cases found with | mk _ answered => cases answered

/-- A search up to the first instant of the calendar: its range would start five minutes earlier. -/
theorem run_first_instant :
    let around := Surroundings.offline ⟨0, some .utc, by decide⟩ "s"
    let words := ["search", "--to", "0001-01-01T00:00:00"]
    around.IsHttp ∧ threshold ({} : Settings).logLevel = .ok 20 ∧
      (∃ command, Command.read words = .ok command) ∧
      Ends (run around.host {} words) {} (.error (.fault .outsideCalendar)) {} := by
  intro around words
  let a : SearchArguments := { last := some "0001-01-01T00:00:00" }
  have given : Command.searchGrammar.read words.tail =
      .ok { options := [("--to", .str "0001-01-01T00:00:00")] } := by
    have tokens : Command.searchGrammar.tokens words.tail = .ok
        [⟨"--to", .option "--to" (Command.textOption "--to") none⟩, ⟨"0001-01-01T00:00:00", .operand⟩] := rfl
    simp [Grammar.read, tokens, Grammar.take, Grammar.argument, Command.textOption, Form.read, Form.key,
      Given.withOption, bind, Except.bind, pure, Except.pure]
  have isNamed : Command.named? "search" = some (Command.searchGrammar, Command.ofSearch) := rfl
  have accepted : Command.read words = .ok (.search a) := Command.read_of_named ⟨_, rfl⟩ isNamed given rfl
  have outside : a.range around.now = .error .outsideCalendar := by cbv
  refine ⟨Surroundings.isHttp_offline _ _, rfl, ⟨_, accepted⟩, ?_⟩
  exact ends_run_of_outside rfl (by decide) accepted outside

end LogSearch.CommandLine
