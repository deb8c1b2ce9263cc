import LogSearch.Proofs.FieldType.Mapping
import LogSearch.Proofs.Flow.Outcome
import LogSearch.Proofs.Message.Written
import LogSearch.Proofs.Query.Lookup
import LogSearch.Proofs.Search

/-!
# What a search tells

Each part of a search fails with what has a text, and what it gives can be written.  Building the query
reports a type that is not found, and assembling the answer reports a hit that is no message, unless that
hit is unfit.

Main statements: `SearchTerms.yields_build` and `Assembly.yields_assemble`.
-/

namespace LogSearch

open LogSearch.Flow (Ends Yields)

theorem TypeTable.follows {σ : Type} (t : TypeTable) (streams : List Value) (w : σ) :
    t.fieldTypes.Follows streams (fun _ call => ofFaults (t.resolve call.1 call.2)) (fun _ => w) :=
  fun _ _ => .ofFault rfl w

namespace MappingLookup

/-- The failure of a lookup that is a report has a text. -/
theorem hasText_of_reading {streams : List String} {field : String} {answer : Except Fault HttpResponse}
    {report : Report} {cause : Option Failure}
    (h : reading streams (.str field) (ofFaults answer) = .error (.search report cause)) :
    (Failure.search report cause).HasText := by
  have known : ∀ fault, requestFailure streams (.str field) (.fault fault) = .search report cause →
      (Failure.search report cause).HasText := by
    intro fault same
    unfold requestFailure at same
    dsimp only at same
    by_cases lookup : isLookupFault fault.kind = true
    · rw [if_pos lookup] at same
      rw [← same]
      exact Failure.hasText_unresolvedType field _ _
    · rw [if_neg lookup] at same
      cases same
  unfold reading at h
  cases answer with
  | error fault => exact known fault (Except.error.inj h)
  | ok response =>
    cases found : mappingsIn response with
    | error fault =>
      have lost : (ofFaults (.ok response) >>= fun r => ofFaults (mappingsIn r)) = .error (.fault fault) :=
        congrArg ofFaults found
      rw [lost] at h
      exact known fault (Except.error.inj h)
    | ok body =>
      have given : (ofFaults (.ok response) >>= fun r => ofFaults (mappingsIn r)) = .ok body :=
        congrArg ofFaults found
      rw [given] at h
      cases body with
      | none => cases h
      | some body =>
        change ofFaults (typeIn (.str field) body) = _ at h
        cases isType : typeIn (.str field) body <;> rw [isType] at h <;> cases h

end MappingLookup

/-- A query for some terms is built and has a body, or what keeps it from being built is told. -/
theorem SearchTerms.yields_build {σ : Type} {types : FieldTypes σ} {answers : FieldTypes.Answers}
    {state : List FieldTypes.Call → σ} {I : σ → Prop} (t : SearchTerms) (highlighting : Bool)
    (follows : types.Follows t.spec.streams answers state) (keeps : ∀ past, I (state past))
    (fair : ∀ past streams field report cause,
      answers past (streams, .str field) = .error (.search report cause) →
        (Failure.search report cause).HasText) :
    (QueryBuilder.build { highlighting } t.spec types).Yields (state [])
      (fun query v => I v ∧ ∃ body, query.record = .ok body)
      (fun e v => I v ∧ e.ToldUnless fun _ => False) := by
  rcases t.ends_build_of_follows highlighting follows with
    ⟨-, query, body, ends, isBody⟩ | ⟨earlier, call, later, failure, split, -, failed, ends⟩
  · exact ends.yields_ok ⟨keeps _, body, isBody⟩
  · refine ends.yields_error ⟨keeps _, ?_⟩
    obtain ⟨c, -, rfl⟩ : ∃ c ∈ t.order.filter (·.field ≠ QueryBuilder.sequenceField),
        (t.spec.streams, Value.str c.field) = call := by
      have member : call ∈ QueryBuilder.calls t.spec.streams t.order := by
        rw [split]
        exact List.mem_append_right _ List.mem_cons_self
      exact List.mem_map.1 member
    cases failure with
    | fault f => exact Failure.hasText_unresolvedType c.field _ _
    | search report cause => exact fair _ _ _ _ _ failed

/-- Hits that are told in JSON make an answer that can be written, unless one of them is unfit. -/
theorem Assembly.yields_assemble {σ : Type} {spec : SearchSpec} {hits : List Hit} {total : Value}
    (undecorated : spec.decorators = []) (id : Json.badKey? spec.id = none)
    (name : Json.badKey? spec.name = none) (isTotal : Json.badKey? total = none)
    (json : ∀ hit ∈ hits, hit.IsJson) (range : TimeRange) (w : σ) :
    (assemble spec hits total range DecoratorChain.builtin.decorators none).Yields w
      (fun e v => v = w ∧ Json.badKey? e.record = none)
      (fun e v => v = w ∧ e.ToldUnless fun fault => ∃ hit ∈ hits, hit.Misfit fault) := by
  cases read : hits.mapM Hit.read with
  | ok messages =>
    have reads : ReadAs Hit.read hits messages := mapM_eq_ok_iff.1 read
    have decorated : Ends (DecoratorChain.builtin.decorators.decorate
        (response spec (messages.map Message.summary) total range) spec.decorators) w (.ok .kept) w := by
      rw [undecorated]
      exact DecoratorChain.builtin.ends_decorate_nil _ w
    refine (ends_assemble_unsignalled reads decorated).yields_ok ⟨rfl, ?_⟩
    refine Envelope.badKey?_record id (fun summary member => ?_) isTotal name
    obtain ⟨m, hm, rfl⟩ := List.mem_map.1 member
    obtain ⟨hit, member, isRead⟩ := exists_mem_of_forall₂ reads hm
    exact Hit.badKey?_of_read (json hit member) isRead
  | error e =>
    obtain ⟨before, hit, after, rfl, earlier, failed⟩ := mapM_eq_error_iff.1 read
    have each (h : Hit) : Ends (readHit spec none Hit.read h : Flow σ Summary) w
        (h.read.map Message.summary) w := by
      refine (Ends.pure () w).bind ?_
      cases isRead : h.read with
      | error e => exact (Ends.ofExcept rfl w).bind_error
      | ok m => exact (Ends.ofExcept rfl w).bind (.pure _ w)
    have stopped : (before ++ hit :: after).mapM (fun h => h.read.map Message.summary) = .error e := by
      refine mapM_eq_error_iff.2 ⟨before, hit, after, rfl, fun h hh => ?_, ?_⟩
      · obtain ⟨m, isRead⟩ := earlier h hh
        exact ⟨m.summary, congrArg (Except.map _) isRead⟩
      · exact congrArg (Except.map _) failed
    have ends : Ends ((before ++ hit :: after).mapM (readHit spec none Hit.read)) w (.error e) w :=
      stopped ▸ Ends.mapM_of_unchanged fun h _ => each h
    refine ends.bind_error.yields_error ⟨rfl, ?_⟩
    have member : hit ∈ before ++ hit :: after := List.mem_append_right _ List.mem_cons_self
    rcases hit.read_cases_of_isJson (json hit member) with ⟨m, isRead⟩ | ⟨other, same, told⟩
    · rw [failed] at isRead
      cases isRead
    · rw [failed] at same
      obtain rfl := Except.error.inj same
      exact told.imp fun fault misfit => ⟨hit, member, misfit⟩

end LogSearch
