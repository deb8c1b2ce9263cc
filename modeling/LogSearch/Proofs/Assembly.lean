import LogSearch.Assembly
import LogSearch.Proofs.Flow

/-!
# How an assembly ends

An assembly may be stopped in many places: it looks for cancellation before each hit, before the
decorators run and after them, any hit may be unreadable, and the decorators may fail.  What comes
first counts.  To say what comes first, the collaborators keep an `Account` of how often they were
asked and of what they decorated.

One step lemma says how a check, the reading of a hit and the decoration end and what they add to the
account; by induction along the hits follows how the reading of all of them ends.

Main statement: `assemble_outcome`, which gives the result and the account for every list of hits,
every reader of hits, every outcome of the decorators and every sequence of answers about
cancellation.
-/

namespace LogSearch.Assembly

open LogSearch.Flow (Ends IsQuiet)

/-- What happens to the collaborators of an assembly: how often they are asked whether the search is
cancelled, and what they decorate, with which settings. -/
structure Account where
  checks : Nat := 0
  decorated : List (Response × List DecoratorConfig) := []

/-- The signal that answers check number `i`, counted from zero, by `set i`. -/
def scripted (set : Nat → Bool) : Cancellation Account where
  isSet := Flow.ask fun a => (.ok (set a.checks), { a with checks := a.checks + 1 })

/-- The decorators with a given outcome for each response. -/
def recorded (outcome : Response → List DecoratorConfig → Except Failure Revision) :
    ResponseDecorators Account where
  decorate r configs := Flow.ask fun a =>
    (outcome r configs, { a with decorated := a.decorated ++ [(r, configs)] })

/-- There is a hit at position `i`, and the check before it finds the search cancelled or the hit
cannot be read. -/
def StopsAt (set : Nat → Bool) (read : Hit → Except Failure Message) (hits : List Hit) (i : Nat) :
    Prop :=
  ∃ hit, hits[i]? = some hit ∧ (set i = true ∨ ∃ failure, read hit = .error failure)

/-- Each hit is read as the message in the same place. -/
def ReadAs (read : Hit → Except Failure Message) (hits : List Hit) (messages : List Message) : Prop :=
  List.Forall₂ (fun hit message => read hit = .ok message) hits messages

section Steps

variable {spec : SearchSpec} {set : Nat → Bool} {read : Hit → Except Failure Message}
  {outcome : Response → List DecoratorConfig → Except Failure Revision} {n : Nat}
  {d : List (Response × List DecoratorConfig)}

theorem ends_scripted {b : Bool} (h : set n = b) :
    Ends (scripted set).isSet ⟨n, d⟩ (.ok b) ⟨n + 1, d⟩ := by
  subst h
  exact fun log => ⟨log, rfl⟩

theorem ends_recorded {r : Response} {configs : List DecoratorConfig}
    {result : Except Failure Revision} (h : outcome r configs = result) :
    Ends ((recorded outcome).decorate r configs) ⟨n, d⟩ result ⟨n, d ++ [(r, configs)]⟩ := by
  subst h
  exact fun log => ⟨log, rfl⟩

theorem ends_checkCancelled_clear (h : set n = false) :
    Ends (checkCancelled spec (some (scripted set))) ⟨n, d⟩ (.ok ()) ⟨n + 1, d⟩ :=
  (ends_scripted h).bind (.pure () _)

theorem ends_checkCancelled_set (h : set n = true) :
    Ends (checkCancelled spec (some (scripted set))) ⟨n, d⟩
      (.error (Report.cancelled spec.id).failure) ⟨n + 1, d⟩ :=
  (ends_scripted h).bind ((Ends.log _ _ _).bind (.fail _ _))

theorem ends_readHit {hit : Hit} {message : Message} (clear : set n = false)
    (h : read hit = .ok message) :
    Ends (readHit spec (some (scripted set)) read hit) ⟨n, d⟩ (.ok message.summary) ⟨n + 1, d⟩ :=
  (ends_checkCancelled_clear clear).bind ((Ends.ofExcept h _).bind (.pure _ _))

theorem ends_readHit_of_cancelled {hit : Hit} (cancelled : set n = true) :
    Ends (readHit spec (some (scripted set)) read hit) ⟨n, d⟩
      (.error (Report.cancelled spec.id).failure) ⟨n + 1, d⟩ :=
  (ends_checkCancelled_set cancelled).bind_error

theorem ends_readHit_of_unreadable {hit : Hit} {failure : Failure} (clear : set n = false)
    (h : read hit = .error failure) :
    Ends (readHit spec (some (scripted set)) read hit) ⟨n, d⟩ (.error failure) ⟨n + 1, d⟩ :=
  (ends_checkCancelled_clear clear).bind (Ends.ofExcept h _).bind_error

/-- Without a stop all hits are read, each after one check. -/
theorem ends_readHits {hits : List Hit} {messages : List Message}
    (reads : ReadAs read hits messages) (clear : ∀ i < hits.length, set (n + i) = false) :
    Ends (hits.mapM (readHit spec (some (scripted set)) read)) ⟨n, d⟩
      (.ok (messages.map Message.summary)) ⟨n + hits.length, d⟩ := by
  induction reads generalizing n with
  | nil => exact .pure _ _
  | @cons hit message hits messages h _ ih =>
    rw [List.mapM_cons]
    -- The check before this hit is number `n`, and the later ones start from `n + 1`.
    have here : set n = false := clear 0 (Nat.zero_lt_succ _)
    have later : ∀ i < hits.length, set (n + 1 + i) = false := by
      intro i hi
      rw [Nat.add_right_comm]
      exact clear (i + 1) (Nat.succ_lt_succ hi)
    have rest : Ends (hits.mapM (readHit spec (some (scripted set)) read)) ⟨n + 1, d⟩
        (.ok (messages.map Message.summary)) ⟨n + (hits.length + 1), d⟩ := by
      have count : n + (hits.length + 1) = n + 1 + hits.length := by omega
      rw [count]
      exact ih later
    refine (ends_readHit here h).bind ?_
    exact rest.bind (.pure _ _)

theorem ends_readHits_all {hits : List Hit} {messages : List Message}
    (reads : ReadAs read hits messages) (clear : ∀ i < hits.length, set i = false) :
    Ends (hits.mapM (readHit spec (some (scripted set)) read)) ⟨0, d⟩
      (.ok (messages.map Message.summary)) ⟨hits.length, d⟩ := by
  have all : Ends (hits.mapM (readHit spec (some (scripted set)) read)) ⟨0, d⟩
      (.ok (messages.map Message.summary)) ⟨0 + hits.length, d⟩ :=
    ends_readHits reads (by simpa using clear)
  rwa [Nat.zero_add] at all

/-- The hits behind one that stops the assembly are not looked at. -/
theorem ends_readHits_stopped {before after : List Hit} {hit : Hit} {messages : List Message}
    {failure : Failure} (reads : ReadAs read before messages)
    (clear : ∀ i < before.length, set i = false)
    (stop : Ends (readHit spec (some (scripted set)) read hit) ⟨before.length, d⟩ (.error failure)
      ⟨before.length + 1, d⟩) :
    Ends ((before ++ hit :: after).mapM (readHit spec (some (scripted set)) read)) ⟨0, d⟩
      (.error failure) ⟨before.length + 1, d⟩ := by
  rw [List.mapM_append, List.mapM_cons]
  -- The first failure ends both the reading of the rest and what follows it.
  refine (ends_readHits_all reads clear).bind ?_
  exact stop.bind_error.bind_error

/-- Decorators that succeed are asked once. -/
theorem ends_decorate {r : Response} {done : Revision} (h : outcome r spec.decorators = .ok done) :
    Ends (decorate spec (recorded outcome) r) ⟨n, []⟩ (.ok (done.apply r))
      ⟨n, [(r, spec.decorators)]⟩ :=
  ((ends_recorded h).handleFault_of_ne nofun).bind (.pure _ _)

/-- A report of the decorators is passed on as it is, and a fault becomes the cause of one. -/
theorem ends_decorate_failed {σ : Type} {decorators : ResponseDecorators σ} {r : Response}
    {failure : Failure} {w v : σ}
    (asked : Ends (decorators.decorate r spec.decorators) w (.error failure) v) :
    Ends (decorate spec decorators r) w
      (.error (failure.reported fun fault => .failedDecoration (.str "chain") fault.message)) v := by
  refine Ends.bind_error (asked.handleFault_reported fun fault => ?_)
  exact (Ends.log _ _ _).bind (.fail _ _)

theorem ends_decorate_report {r : Response} {report : Report} {cause : Option Failure}
    (h : outcome r spec.decorators = .error (.search report cause)) :
    Ends (decorate spec (recorded outcome) r) ⟨n, []⟩ (.error (.search report cause))
      ⟨n, [(r, spec.decorators)]⟩ :=
  ends_decorate_failed (ends_recorded h)

theorem ends_decorate_fault {r : Response} {fault : Fault}
    (h : outcome r spec.decorators = .error (.fault fault)) :
    Ends (decorate spec (recorded outcome) r) ⟨n, []⟩
      (.error (.search (.failedDecoration (.str "chain") fault.message) (some (.fault fault))))
      ⟨n, [(r, spec.decorators)]⟩ :=
  ends_decorate_failed (ends_recorded h)

end Steps

section Positions

variable {set : Nat → Bool} {read : Hit → Except Failure Message} {hits : List Hit}

theorem clear_of_not_stopsAt {i : Nat} (h : ¬ StopsAt set read hits i) (hi : i < hits.length) :
    set i = false := by
  cases hs : set i with
  | false => rfl
  | true => exact absurd ⟨hits[i], List.getElem?_eq_getElem hi, .inl hs⟩ h

/-- Hits of which none stops the assembly can be read. -/
theorem exists_readAs {hits : List Hit} (h : ∀ hit ∈ hits, ∃ message, read hit = .ok message) :
    ∃ messages, ReadAs read hits messages := by
  induction hits with
  | nil => exact ⟨[], .nil⟩
  | cons hit hits ih =>
    obtain ⟨message, hm⟩ := h hit List.mem_cons_self
    obtain ⟨messages, hms⟩ := ih fun x hx => h x (List.mem_cons_of_mem _ hx)
    exact ⟨message :: messages, .cons hm hms⟩

theorem exists_message_of_not_stopsAt {i : Nat} {hit : Hit} (h : ¬ StopsAt set read hits i)
    (hi : hits[i]? = some hit) : ∃ message, read hit = .ok message := by
  cases hr : read hit with
  | ok message => exact ⟨message, rfl⟩
  | error failure => exact absurd ⟨hit, hi, .inr ⟨failure, hr⟩⟩ h

/-- The hits in front of which nothing stops the assembly are all read. -/
theorem exists_readAs_of_not_stopsAt {front : List Hit} (isFront : front <+: hits)
    (h : ∀ i < front.length, ¬ StopsAt set read hits i) :
    ∃ messages, ReadAs read front messages := by
  obtain ⟨after, rfl⟩ := isFront
  apply exists_readAs
  intro hit member
  obtain ⟨i, hi, rfl⟩ := List.getElem_of_mem member
  apply exists_message_of_not_stopsAt (h i hi)
  rw [List.getElem?_append_left hi, List.getElem?_eq_getElem hi]

end Positions

/-- The answer that a decorated response gives. -/
def envelope (spec : SearchSpec) (range : TimeRange) (decorated : Response) : Envelope where
  id := spec.id
  name := spec.name
  messages := decorated.messages
  timeRange := range
  total := decorated.total

section Unsignalled

variable {σ : Type} {spec : SearchSpec} {hits : List Hit} {total : Value} {range : TimeRange}
  {read : Hit → Except Failure Message} {messages : List Message} {w v : σ}

/-- Without a signal the hits are read without looking for cancellation. -/
theorem ends_readHits_unsignalled (reads : ReadAs read hits messages) :
    Ends (hits.mapM (readHit spec none read)) w (.ok (messages.map Message.summary)) w := by
  induction reads with
  | nil => exact .pure _ _
  | cons h _ ih =>
    rw [List.mapM_cons]
    refine Ends.bind ((Ends.pure () _).bind ((Ends.ofExcept h _).bind (.pure _ _))) ?_
    exact ih.bind (.pure _ _)

/-- Without a signal only the decorators are asked. -/
theorem ends_assemble_unsignalled {decorators : ResponseDecorators σ} {done : Revision}
    (reads : ReadAs read hits messages)
    (decorated : Ends (decorators.decorate
      (response spec (messages.map Message.summary) total range) spec.decorators) w (.ok done) v) :
    Ends (assemble spec hits total range decorators none read) w
      (.ok (envelope spec range
        (done.apply (response spec (messages.map Message.summary) total range)))) v := by
  refine (ends_readHits_unsignalled reads).bind ?_
  refine (Ends.pure () _).bind ?_
  refine Ends.bind ((decorated.handleFault_of_ne nofun).bind (.pure _ _)) ?_
  refine (Ends.pure () _).bind ?_
  exact (Ends.log _ _ _).bind (.pure _ _)

theorem ends_assemble_unsignalled_failed {decorators : ResponseDecorators σ} {failure : Failure}
    (reads : ReadAs read hits messages)
    (failed : Ends (decorators.decorate
      (response spec (messages.map Message.summary) total range) spec.decorators) w
      (.error failure) v) :
    Ends (assemble spec hits total range decorators none read) w
      (.error (failure.reported fun fault => .failedDecoration (.str "chain") fault.message)) v := by
  refine (ends_readHits_unsignalled reads).bind ?_
  refine (Ends.pure () _).bind ?_
  exact (ends_decorate_failed failed).bind_error

end Unsignalled

section Quiet

variable {σ : Type} {spec : SearchSpec} {decorators : ResponseDecorators σ}
  {signal : Option (Cancellation σ)}

theorem isQuiet_checkCancelled (silent : ∀ s ∈ signal, IsQuiet s.isSet) :
    IsQuiet (checkCancelled spec signal) := by
  cases signal with
  | none => exact .pure ()
  | some s =>
    refine (silent s rfl).bind fun cancelled => ?_
    split
    · exact (IsQuiet.log _ _).bind fun _ => .fail _
    · exact .pure ()

/-- An assembly changes nothing but what its decorators and its signal change. -/
theorem isQuiet_assemble (hits : List Hit) (total : Value) (range : TimeRange)
    (read : Hit → Except Failure Message)
    (decorating : ∀ r, IsQuiet (decorators.decorate r spec.decorators))
    (silent : ∀ s ∈ signal, IsQuiet s.isSet) :
    IsQuiet (assemble spec hits total range decorators signal read) := by
  have check : IsQuiet (checkCancelled spec signal) := isQuiet_checkCancelled silent
  have reading (hit) : IsQuiet (readHit spec signal read hit) :=
    check.bind fun _ => (IsQuiet.ofExcept _).bind fun _ => .pure _
  have decorated (r) : IsQuiet (decorate spec decorators r) := by
    refine ((decorating r).handleFault fun fault => ?_).bind fun done => .pure _
    exact (IsQuiet.log _ _).bind fun _ => .fail _
  refine (IsQuiet.mapM reading).bind fun messages => check.bind fun _ => ?_
  refine (decorated _).bind fun response => check.bind fun _ => ?_
  exact (IsQuiet.log _ _).bind fun _ => .pure _

end Quiet

section Outcome

variable (spec : SearchSpec) (hits : List Hit) (total : Value) (range : TimeRange)
  (read : Hit → Except Failure Message)
  (outcome : Response → List DecoratorConfig → Except Failure Revision) (set : Nat → Bool)

/-- The assembly whose collaborators keep an account. -/
abbrev accounted : Flow Account Envelope :=
  assemble spec hits total range (recorded outcome) (some (scripted set)) read

/-- What is called with the messages of all hits, and what for. -/
abbrev decorationOf (messages : List Message) : Response × List DecoratorConfig :=
  (response spec (messages.map Message.summary) total range, spec.decorators)

variable {spec hits total range read outcome set}

/-- The first hit that stops the assembly gives its result. -/
theorem ends_accounted_of_stop {j : Nat} {hit : Hit} {failure : Failure} (hj : hits[j]? = some hit)
    (before : ∀ i < j, ¬ StopsAt set read hits i)
    (stop : Ends (readHit spec (some (scripted set)) read hit) ⟨j, []⟩ (.error failure) ⟨j + 1, []⟩) :
    Ends (accounted spec hits total range read outcome set) {} (.error failure) ⟨j + 1, []⟩ := by
  obtain ⟨front, after, rfl, rfl⟩ : ∃ front after, hits = front ++ hit :: after ∧ front.length = j := by
    obtain ⟨bound, rfl⟩ := List.getElem?_eq_some_iff.1 hj
    refine ⟨hits.take j, hits.drop (j + 1), ?_, List.length_take_of_le (Nat.le_of_lt bound)⟩
    rw [List.getElem_cons_drop, List.take_append_drop]
  obtain ⟨messages, reads⟩ := exists_readAs_of_not_stopsAt (List.prefix_append _ _) before
  have clear : ∀ i < front.length, set i = false := by
    intro i hi
    apply clear_of_not_stopsAt (before i hi)
    rw [List.length_append]
    omega
  exact (ends_readHits_stopped reads clear stop).bind_error

/-- Hits that do not stop the assembly leave the check before the decorators run. -/
theorem ends_accounted_of_cancelled {messages : List Message} (reads : ReadAs read hits messages)
    (clear : ∀ i < hits.length, set i = false) (cancelled : set hits.length = true) :
    Ends (accounted spec hits total range read outcome set) {}
      (.error (Report.cancelled spec.id).failure) ⟨hits.length + 1, []⟩ := by
  refine (ends_readHits_all reads clear).bind ?_
  exact (ends_checkCancelled_set cancelled).bind_error

/-- A failure of the decoration ends the assembly without another check. -/
theorem ends_accounted_of_failure {messages : List Message} {failure : Failure}
    (reads : ReadAs read hits messages) (clear : ∀ i ≤ hits.length, set i = false)
    (fails : Ends (decorate spec (recorded outcome) (decorationOf spec total range messages).1)
      ⟨hits.length + 1, []⟩ (.error failure)
      ⟨hits.length + 1, [decorationOf spec total range messages]⟩) :
    Ends (accounted spec hits total range read outcome set) {} (.error failure)
      ⟨hits.length + 1, [decorationOf spec total range messages]⟩ := by
  refine (ends_readHits_all reads fun i hi => clear i (Nat.le_of_lt hi)).bind ?_
  refine (ends_checkCancelled_clear (clear _ (Nat.le_refl _))).bind ?_
  exact fails.bind_error

/-- After the decoration the last check decides. -/
theorem ends_accounted_of_decorated {messages : List Message} {done : Revision}
    (reads : ReadAs read hits messages) (clear : ∀ i ≤ hits.length, set i = false)
    (decorated : outcome (decorationOf spec total range messages).1 spec.decorators = .ok done) :
    Ends (accounted spec hits total range read outcome set) {}
      (if set (hits.length + 1) then .error (Report.cancelled spec.id).failure
        else .ok (envelope spec range (done.apply (decorationOf spec total range messages).1)))
      ⟨hits.length + 2, [decorationOf spec total range messages]⟩ := by
  refine (ends_readHits_all reads fun i hi => clear i (Nat.le_of_lt hi)).bind ?_
  refine (ends_checkCancelled_clear (clear _ (Nat.le_refl _))).bind ?_
  refine (ends_decorate decorated).bind ?_
  cases last : set (hits.length + 1) with
  | true => exact (ends_checkCancelled_set last).bind_error
  | false =>
    refine (ends_checkCancelled_clear last).bind ?_
    exact (Ends.log _ _ _).bind (.pure _ _)

end Outcome

/-- The result of an assembly, how often it looks for cancellation and what it decorates.  The first
position at which the check finds the search cancelled or the hit cannot be read decides, and the
check before the reading.  Without such a position come the check before the decoration, the
decoration of all messages, and the check after it. -/
theorem assemble_outcome (spec : SearchSpec) (hits : List Hit) (total : Value) (range : TimeRange)
    (read : Hit → Except Failure Message)
    (outcome : Response → List DecoratorConfig → Except Failure Revision) (set : Nat → Bool) :
    let run := assemble spec hits total range (recorded outcome) (some (scripted set)) read
    let cancelled : Except Failure Envelope := .error (.search (.cancelled spec.id) none)
    (∀ j hit, hits[j]? = some hit → (∀ i < j, ¬ StopsAt set read hits i) →
      (set j = true → Ends run {} cancelled ⟨j + 1, []⟩) ∧
      ∀ failure, set j = false → read hit = .error failure →
        Ends run {} (.error failure) ⟨j + 1, []⟩) ∧
    ((∀ j, ¬ StopsAt set read hits j) → ∃ messages, ReadAs read hits messages ∧
      (set hits.length = true → Ends run {} cancelled ⟨hits.length + 1, []⟩) ∧
      (set hits.length = false →
        let r : Response := {
          query := spec.queryString, builtQuery := spec.queryString
          messages := messages.map Message.summary, total := total
          first := range.first, last := range.last, usedIndices := [], fields := [], time := 0 }
        match outcome r spec.decorators with
        | .error (.search report cause) =>
          Ends run {} (.error (.search report cause)) ⟨hits.length + 1, [(r, spec.decorators)]⟩
        | .error (.fault fault) =>
          Ends run {}
            (.error (.search (.failedDecoration (.str "chain") fault.message) (some (.fault fault))))
            ⟨hits.length + 1, [(r, spec.decorators)]⟩
        | .ok done =>
          Ends run {}
            (if set (hits.length + 1) then cancelled else .ok (envelope spec range (done.apply r)))
            ⟨hits.length + 2, [(r, spec.decorators)]⟩)) := by
  intro run cancelled
  constructor
  · intro j hit hj before
    refine ⟨fun h => ?_, fun failure h hr => ?_⟩
    · exact ends_accounted_of_stop hj before (ends_readHit_of_cancelled h)
    · exact ends_accounted_of_stop hj before (ends_readHit_of_unreadable h hr)
  · intro none
    have clear : ∀ i < hits.length, set i = false := fun i => clear_of_not_stopsAt (none i)
    obtain ⟨messages, reads⟩ := exists_readAs_of_not_stopsAt (List.prefix_refl hits) fun i _ => none i
    refine ⟨messages, reads, ends_accounted_of_cancelled reads clear, fun go => ?_⟩
    have clear : ∀ i ≤ hits.length, set i = false := by
      intro i hi
      rcases Nat.lt_or_eq_of_le hi with hi | rfl
      · exact clear i hi
      · exact go
    dsimp only
    split
    · rename_i report cause h
      exact ends_accounted_of_failure reads clear (ends_decorate_report h)
    · rename_i fault h
      exact ends_accounted_of_failure reads clear (ends_decorate_fault h)
    · rename_i done h
      exact ends_accounted_of_decorated reads clear h

/-- Two hits of which the second has no identifier, read one after the other; and the first of them
alone, with a decoration that fails. -/
theorem assemble_outcome_two_hits :
    let start : DateTime := ⟨0, some .utc, by decide⟩
    let range : TimeRange := ⟨start, start, rfl, rfl, Int.le_refl _⟩
    let spec : SearchSpec := ⟨.str "s", range, .str "*", .int 0, .int 0, [], [], [], [], .null⟩
    let first : Hit := ⟨.str "a", .str "i", .map [(.str "n", .int 1)], .null⟩
    let second : Hit := ⟨.null, .str "i", .map [], .null⟩
    let summary : Summary := ⟨.map [], [(.str "n", .int 1), (.str "_id", .str "a")], .str "i"⟩
    let r : Response := ⟨.str "*", .str "*", [summary], .int 2, start, start, [], [], 0⟩
    let run (hits : List Hit) := assemble spec hits (.int 2) range
      (recorded fun _ _ => .error (.fault .circular)) (some (scripted fun _ => false)) Hit.read
    Ends (run [first, second]) {}
        (.error (.search (.unparsedHit .null (.str "i") "missing message id") none)) ⟨2, []⟩ ∧
      Ends (run [first]) {}
        (.error (.search (.failedDecoration (.str "chain") "maximum recursion depth exceeded")
          (some (.fault .circular)))) ⟨2, [(r, [])]⟩ := by
  intro start range spec first second summary r run
  have none : ∀ i, ¬ StopsAt (fun _ => false) Hit.read [first] i := by
    rintro (_ | i) ⟨hit, hi, stops⟩
    · obtain rfl := Option.some.inj hi
      rcases stops with stops | ⟨failure, stops⟩ <;> cases stops
    · cases hi
  constructor
  · refine ((assemble_outcome spec [first, second] (.int 2) range Hit.read
      (fun _ _ => .error (.fault .circular)) fun _ => false).1 1 second rfl ?_).2 _ rfl rfl
    intro i hi stops
    obtain rfl : i = 0 := by omega
    obtain ⟨hit, hi, stops⟩ := stops
    exact none 0 ⟨hit, hi, stops⟩
  · obtain ⟨messages, reads, -, go⟩ := (assemble_outcome spec [first] (.int 2) range Hit.read
      (fun _ _ => .error (.fault .circular)) fun _ => false).2 none
    obtain ⟨message, rest, h, hrest, rfl⟩ := List.forall₂_cons_left_iff.1 reads
    obtain rfl := List.forall₂_nil_left_iff.1 hrest
    obtain rfl : ⟨"a", "i", [(.str "n", .int 1)], []⟩ = message := Except.ok.inj h
    exact go rfl

end LogSearch.Assembly
