import LogSearch.Proofs.Message.Reading
import LogSearch.Proofs.Query.Build
import LogSearch.Proofs.Search

/-!
# Which highlights a message has

A message has the highlights of its own hit, all of them and no others.  The fields that a search asks
for go to the backend with the query, together with a request to highlight every field; nothing that
comes back is held against them.  So the highlights of an answer keep to those fields just where the
backend keeps to them.

Main statements: `Assembly.assemble_highlights`, and `Assembly.assemble_unwanted_highlight` for a
highlight in a field that was not asked for.
-/

namespace LogSearch

open LogSearch.Flow (Ends)

/-- The entries of a map; anything else has none. -/
def Value.entries : Value → Entries
  | .map entries => entries
  | _ => []

/-- The fields of a hit that are highlighted. -/
def Hit.highlighted (h : Hit) : List Value := h.highlights.entries.keys

/-- The fields of a message that are highlighted. -/
def Summary.highlighted (s : Summary) : List Value := s.highlights.entries.keys

/-- A list of highlighted values in a field, and the texts by which it is shown. -/
def ShowsFragments (given shown : Value × Value) : Prop :=
  shown.1 = given.1 ∧ ∃ vs, Hit.fragmentsOf? given.2 = some vs ∧ shown.2 = .texts (vs.map Value.plain)

/-- A summary shows the highlights of a hit, in order. -/
def Summary.ShowsHighlightsOf (s : Summary) (h : Hit) : Prop :=
  ∃ shown, s.highlights = .map shown ∧ List.Forall₂ ShowsFragments h.highlights.entries shown

theorem Summary.ShowsHighlightsOf.highlighted {s : Summary} {h : Hit} (shows : s.ShowsHighlightsOf h) :
    s.highlighted = h.highlighted := by
  obtain ⟨shown, isShown, each⟩ := shows
  unfold Summary.highlighted Hit.highlighted
  rw [isShown]
  change Entries.keys shown = _
  clear isShown
  generalize h.highlights.entries = given at each
  induction each with
  | nil => rfl
  | cons same _ ih => exact congrArg₂ List.cons same.1 ih

namespace Hit

variable {h : Hit} {m : Message}

/-- What is read of a highlight are the texts of the list that is given. -/
theorem exists_of_fragments {given : Value × Value} {read : Value × List String}
    (hf : h.fragments given = .ok read) :
    read.1 = given.1 ∧ ∃ vs, fragmentsOf? given.2 = some vs ∧ read.2 = vs.map Value.plain := by
  obtain ⟨key, v⟩ := given
  cases list : fragmentsOf? v with
  | none =>
    rw [fragments_of_other list] at hf
    split at hf <;> cases hf
  | some vs =>
    rw [fragments_of_list list] at hf
    split at hf
    · obtain rfl := Except.ok.inj hf
      exact ⟨rfl, vs, rfl, rfl⟩
    · cases hf

theorem showsFragments_of_fragments {given : Value × Value} {read : Value × List String}
    (hf : h.fragments given = .ok read) : ShowsFragments given (read.1, .texts read.2) := by
  obtain ⟨key, vs, isList, texts⟩ := exists_of_fragments hf
  exact ⟨key, vs, isList, congrArg Value.texts texts⟩

theorem entries_of_not_isTrue {v : Value} (h : ¬ v.isTrue = true) : v.entries = [] := by
  cases v with
  | map entries =>
    cases entries with
    | nil => rfl
    | cons entry rest => exact absurd rfl h
  | _ => rfl

/-- The highlights that are read are those of the hit, in order. -/
theorem fragments_of_readHighlights {texts : List (Value × List String)}
    (hr : h.readHighlights = .ok texts) :
    List.Forall₂ (fun given read => h.fragments given = .ok read) h.highlights.entries texts := by
  unfold readHighlights at hr
  split at hr
  · obtain ⟨entries, given, each⟩ := exists_of_bind_eq_ok hr
    cases shape : h.highlights with
    | map found =>
      rw [shape] at given
      obtain rfl := Except.ok.inj given
      exact mapM_eq_ok_iff.1 each
    | _ =>
      rw [shape] at given
      cases given
  · rename_i none
    rw [entries_of_not_isTrue none]
    exact mapM_eq_ok_iff.1 hr

/-- A hit that is read has a source, of which the fields of the message are made, and a name, which is
that of the message. -/
theorem exists_of_read (hm : h.read = .ok m) :
    ∃ source, h.source = .map source ∧ h.fields source = .ok m.fields ∧
      h.readHighlights = .ok m.highlights ∧
      nonempty? h.id = some m.id ∧ nonempty? h.index = some m.index := by
  by_cases named : h.IsNamed
  · by_cases isMap : ∃ source, h.source = .map source
    · obtain ⟨⟨id, hid⟩, index, hindex⟩ := named
      obtain ⟨source, hs⟩ := isMap
      rw [read_of_map hid hindex hs] at hm
      obtain ⟨fields, isFields, hm⟩ := exists_of_bind_eq_ok hm
      obtain ⟨texts, highlights, made⟩ := exists_of_bind_eq_ok hm
      obtain rfl := Except.ok.inj made
      exact ⟨source, hs, isFields, highlights, hid, hindex⟩
    · obtain ⟨reason, failed⟩ := read_of_other named fun source hs => isMap ⟨source, hs⟩
      rw [failed] at hm
      cases hm
  · obtain ⟨reason, failed⟩ := read_of_not_named named
    rw [failed] at hm
    cases hm

/-- The summary of a hit's message shows the hit's highlights. -/
theorem showsHighlights_of_read (hm : h.read = .ok m) : m.summary.ShowsHighlightsOf h := by
  obtain ⟨source, -, -, highlights, -⟩ := exists_of_read hm
  have each := fragments_of_readHighlights highlights
  refine ⟨_, rfl, ?_⟩
  rw [List.forall₂_map_right_iff]
  exact each.imp fun given read hf => showsFragments_of_fragments hf

end Hit

namespace QueryBuilder

variable {σ : Type} {b : QueryBuilder} {spec : SearchSpec} {types : FieldTypes σ}
  {query : BackendQuery} {s t : Session σ}

theorem highlight?_eq_ok {text : Value} {highlight : Option Highlight} (highlighting : b.highlighting = true)
    (h : b.highlight? text = .ok highlight) :
    ∃ made, highlight = some made ∧ made.fields = .tuple [.str "*"] := by
  unfold highlight? at h
  rw [if_pos highlighting] at h
  obtain ⟨made, wanted, rfl⟩ := exists_of_map_eq_ok h
  obtain ⟨found, -, wanted⟩ := exists_of_bind_eq_ok wanted
  obtain rfl := Except.ok.inj wanted
  exact ⟨_, rfl, rfl⟩

/-- A query that is built asks for the fields of the search alone, and for highlights in every field. -/
theorem wildcard_of_exec_build (projected : spec.fields ≠ []) (highlighting : b.highlighting = true)
    (built : Flow.exec (b.build spec types) s = (.ok query, t)) :
    query.sourceIncludes = some (.tuple spec.fields) ∧
      ∃ highlight, query.highlight = some highlight ∧ highlight.fields = .tuple [.str "*"] := by
  obtain ⟨base, sorts, highlight, rfl, -, made, -⟩ := exists_parts_of_exec_build built
  obtain ⟨wanted, rfl, every⟩ := highlight?_eq_ok highlighting made
  refine ⟨?_, wanted, rfl, every⟩
  have some : spec.fields.isEmpty = false := List.isEmpty_eq_false_iff.2 projected
  simp only [combined, some, Bool.false_eq_true, if_false]

end QueryBuilder

namespace Assembly

variable {σ : Type} {spec : SearchSpec} {hits : List Hit} {total : Value} {range : TimeRange}
  {decorators : ResponseDecorators σ} {signal : Option (Cancellation σ)} {s t : Session σ}

/-- Hits that are all read give the summaries of their messages, in order. -/
theorem exec_readHits_eq_ok {summaries : List Summary}
    (h : Flow.exec (hits.mapM (readHit spec signal Hit.read)) s = (.ok summaries, t)) :
    ∃ messages, ReadAs Hit.read hits messages ∧ summaries = messages.map Message.summary := by
  induction hits generalizing s t summaries with
  | nil =>
    obtain rfl := Except.ok.inj (Prod.mk.inj h).1
    exact ⟨[], .nil, rfl⟩
  | cons hit rest ih =>
    rw [List.mapM_cons] at h
    obtain ⟨first, _, here, h⟩ := Flow.exists_of_exec_bind h
    obtain ⟨others, _, later, h⟩ := Flow.exists_of_exec_bind h
    obtain rfl := Except.ok.inj (Prod.mk.inj h).1
    unfold readHit at here
    obtain ⟨_, _, -, here⟩ := Flow.exists_of_exec_bind here
    obtain ⟨m, _, read, here⟩ := Flow.exists_of_exec_bind here
    obtain rfl := Except.ok.inj (Prod.mk.inj here).1
    obtain ⟨messages, reads, rfl⟩ := ih later
    exact ⟨m :: messages, .cons (Prod.mk.inj read).1 reads, rfl⟩

/-- An assembly that succeeds has read all hits, and its decorators have succeeded with their messages. -/
theorem exists_of_exec_assemble {answer : Envelope}
    (h : Flow.exec (assemble spec hits total range decorators signal) s = (.ok answer, t)) :
    ∃ messages done u v, ReadAs Hit.read hits messages ∧
      Flow.exec (decorators.decorate (response spec (messages.map Message.summary) total range)
        spec.decorators) u = (.ok done, v) ∧
      answer = envelope spec range
        (done.apply (response spec (messages.map Message.summary) total range)) := by
  unfold assemble at h
  obtain ⟨summaries, _, reading, h⟩ := Flow.exists_of_exec_bind h
  obtain ⟨_, _, -, h⟩ := Flow.exists_of_exec_bind h
  obtain ⟨decorated, _, decorates, h⟩ := Flow.exists_of_exec_bind h
  obtain ⟨_, _, -, h⟩ := Flow.exists_of_exec_bind h
  obtain ⟨_, _, -, h⟩ := Flow.exists_of_exec_bind h
  obtain rfl := Except.ok.inj (Prod.mk.inj h).1
  obtain ⟨messages, reads, rfl⟩ := exec_readHits_eq_ok reading
  unfold decorate at decorates
  obtain ⟨done, _, asked, decorates⟩ := Flow.exists_of_exec_bind decorates
  obtain rfl := Except.ok.inj (Prod.mk.inj decorates).1
  rw [Flow.exec_handleFault] at asked
  split at asked
  · rename_i revision u ended
    obtain ⟨same, -⟩ := Prod.mk.inj asked
    obtain rfl := Except.ok.inj same
    exact ⟨messages, revision, _, u, reads, ended, rfl⟩
  · -- A fault of the decorators is reported.
    obtain ⟨_, _, -, asked⟩ := Flow.exists_of_exec_bind asked
    cases asked
  · cases asked

/-- Decorators that change nothing leave the messages of the hits. -/
theorem exec_assemble_eq_ok {answer : Envelope}
    (unchanging : ∀ r done s t,
      Flow.exec (decorators.decorate r spec.decorators) s = (.ok done, t) → done.apply r = r)
    (h : Flow.exec (assemble spec hits total range decorators signal) s = (.ok answer, t)) :
    List.Forall₂ (fun hit summary => ∃ m, Hit.read hit = .ok m ∧ m.summary = summary) hits
      answer.messages := by
  obtain ⟨messages, done, _, _, reads, ended, rfl⟩ := exists_of_exec_assemble h
  rw [unchanging _ _ _ _ ended]
  change List.Forall₂ _ hits (messages.map Message.summary)
  rw [List.forall₂_map_right_iff]
  exact reads.imp fun hit m read => ⟨m, read, rfl⟩

/-- In an answer that a search for some fields only gets, each message shows the highlights of its own
hit, and so it has highlights for those fields only just where the hit does, although the query asks for
those fields alone and to highlight every field.  Hits that are messages give an answer.  The decorators
change nothing here. -/
theorem assemble_highlights (spec : SearchSpec) (hits : List Hit) (total : Value) (range : TimeRange)
    (decorators : ResponseDecorators σ) (projected : spec.fields ≠ [])
    (unchanging : ∀ r done s t,
      Flow.exec (decorators.decorate r spec.decorators) s = (.ok done, t) → done.apply r = r) :
    (∀ signal s answer t,
      Flow.exec (assemble spec hits total range decorators signal) s = (.ok answer, t) →
      List.Forall₂ (fun hit summary => summary.ShowsHighlightsOf hit ∧
        ((∀ field ∈ summary.highlighted, field ∈ spec.fields) ↔
          ∀ field ∈ hit.highlighted, field ∈ spec.fields)) hits answer.messages) ∧
    (∀ w, (∀ hit ∈ hits, ∃ m, Hit.read hit = .ok m) →
      (∀ r, ∃ done v, Ends (decorators.decorate r spec.decorators) w (.ok done) v) →
      ∃ answer v, Ends (assemble spec hits total range decorators none) w (.ok answer) v) ∧
    ∀ (b : QueryBuilder) (types : FieldTypes σ) query s t, b.highlighting = true →
      Flow.exec (b.build spec types) s = (.ok query, t) →
      query.sourceIncludes = some (.tuple spec.fields) ∧
        ∃ highlight, query.highlight = some highlight ∧ highlight.fields = .tuple [.str "*"] := by
  refine ⟨fun signal s answer t h => ?_, fun w readable decorates => ?_,
    fun b types query s t highlighting built => ?_⟩
  · refine (exec_assemble_eq_ok unchanging h).imp ?_
    rintro hit _ ⟨m, read, rfl⟩
    have shows := Hit.showsHighlights_of_read read
    refine ⟨shows, ?_⟩
    rw [shows.highlighted]
  · obtain ⟨messages, reads⟩ := exists_readAs readable
    obtain ⟨done, v, decorated⟩ := decorates (response spec (messages.map Message.summary) total range)
    exact ⟨_, v, ends_assemble_unsignalled reads decorated⟩
  · exact QueryBuilder.wildcard_of_exec_build projected highlighting built

/-- A highlight in a field of which nothing was asked is shown all the same. -/
theorem assemble_unwanted_highlight :
    let start : DateTime := ⟨0, some .utc, by decide⟩
    let range : TimeRange := ⟨start, start, rfl, rfl, Int.le_refl _⟩
    let spec : SearchSpec :=
      ⟨.str "s", range, .str "*", .int 0, .int 0, [.str "message"], [], [], [], .null⟩
    let hit : Hit := ⟨.str "a", .str "g", .map [(.str "message", .str "x")],
      .map [(.str "message", .list [.str "x"]), (.str "source", .list [.str "h"])]⟩
    let chain : ResponseDecorators Unit := DecoratorChain.builtin.decorators
    (∃ m, Hit.read hit = .ok m) ∧
      (∀ r, Ends (chain.decorate r spec.decorators) () (.ok .kept) ()) ∧
      ∃ answer, Ends (assemble spec [hit] (.int 1) range chain none) () (.ok answer) () ∧
        ∃ summary ∈ answer.messages, ∃ field ∈ summary.highlighted, field ∉ spec.fields := by
  intro start range spec hit chain
  have keeps (r) : Ends (chain.decorate r spec.decorators) () (.ok .kept) () :=
    DecoratorChain.builtin.ends_decorate_nil r ()
  let m : Message := ⟨"a", "g", [(.str "message", .str "x")],
    [(.str "message", ["x"]), (.str "source", ["h"])]⟩
  have read : Hit.read hit = .ok m := rfl
  refine ⟨⟨m, read⟩, keeps, _, ends_assemble_unsignalled (.cons read .nil) (keeps _), ?_⟩
  refine ⟨m.summary, List.mem_singleton.2 rfl, .str "source", ?_, ?_⟩
  · exact List.mem_cons_of_mem _ List.mem_cons_self
  · intro member
    exact absurd (Value.str.inj (List.mem_singleton.1 member)) (by decide)

/-- A hit that is highlighted in the one field that is asked for. -/
theorem assemble_highlights_one :
    let start : DateTime := ⟨0, some .utc, by decide⟩
    let range : TimeRange := ⟨start, start, rfl, rfl, Int.le_refl _⟩
    let spec : SearchSpec :=
      ⟨.str "s", range, .str "*", .int 0, .int 0, [.str "message"], [], [], [], .null⟩
    let hit : Hit := ⟨.str "a", .str "g", .map [(.str "message", .str "x")],
      .map [(.str "message", .list [.str "x"])]⟩
    let chain : ResponseDecorators Unit := DecoratorChain.builtin.decorators
    let types : FieldTypes Unit := ⟨fun _ _ => pure .null⟩
    (∃ answer, Ends (assemble spec [hit] (.int 1) range chain none) () (.ok answer) () ∧
      ∃ summary, answer.messages = [summary] ∧ summary.ShowsHighlightsOf hit ∧
        ∀ field ∈ summary.highlighted, field ∈ spec.fields) ∧
    ∃ query log, Flow.exec (QueryBuilder.build { highlighting := true } spec types) ⟨(), []⟩ =
        (.ok query, ⟨(), log⟩) ∧
      query.sourceIncludes = some (.tuple spec.fields) ∧
      ∃ highlight, query.highlight = some highlight ∧ highlight.fields = .tuple [.str "*"] := by
  intro start range spec hit chain types
  have keeps (r) : Ends (chain.decorate r spec.decorators) () (.ok .kept) () :=
    DecoratorChain.builtin.ends_decorate_nil r ()
  have unchanging (r done) (s t : Session Unit)
      (h : Flow.exec (chain.decorate r spec.decorators) s = (.ok done, t)) : done.apply r = r := by
    obtain ⟨log, kept⟩ := keeps r s.log
    obtain rfl := Except.ok.inj (Prod.mk.inj (h.symm.trans kept)).1
    rfl
  have readable : ∀ h ∈ [hit], ∃ m, Hit.read h = .ok m := by
    intro h member
    obtain rfl := List.mem_singleton.1 member
    exact ⟨_, rfl⟩
  obtain ⟨shows, answers, asks⟩ :=
    assemble_highlights spec [hit] (.int 1) range chain (List.cons_ne_nil _ _) unchanging
  constructor
  · obtain ⟨answer, _, ended⟩ := answers () readable fun r => ⟨.kept, (), keeps r⟩
    obtain ⟨log, ran⟩ := ended []
    obtain ⟨summary, rest, ⟨shown, keepsTo⟩, none, same⟩ :=
      List.forall₂_cons_left_iff.1 (shows none _ _ _ ran)
    obtain rfl := List.forall₂_nil_left_iff.1 none
    exact ⟨answer, ended, summary, same, shown, keepsTo.2 fun field member => member⟩
  · obtain ⟨query, log, built⟩ : ∃ query log,
        Flow.exec (QueryBuilder.build { highlighting := true } spec types) ⟨(), []⟩ =
          (.ok query, ⟨(), log⟩) := ⟨_, _, rfl⟩
    exact ⟨query, log, built, asks { highlighting := true } types _ _ _ rfl built⟩

end Assembly

end LogSearch
