import LogSearch.Proofs.Flow.Outcome
import LogSearch.Registry

/-!
# What a registry gives

In a registry where every interface has the only part that a recipe makes, an interface gives the part
that is kept, or makes one and keeps it.  So when the recipes make parts of some kind, all parts that are
given are of that kind, in whatever order they are asked for.

Main statement: `Registry.yields_resolveWithin`.
-/

namespace LogSearch

variable {σ ι : Type} {part : ι → Type} {α β : Type}

/-- Every interface has the only part that a recipe makes, and the parts that are kept already are as `P`
says. -/
structure Registry.Keeps (r : Registry σ part) (recipes : (i : ι) → Recipe σ part (part i))
    (P : (i : ι) → part i → Prop) : Prop where
  registered : ∀ i, r.registration? i = some { recipe := recipes i, single := true }
  kept : ∀ i made, r.kept? i = some made → P i made.value

/-- Started on the registry `r` when the collaborators are in state `w`, the step `x` ends with `result`
and the registry `r'`, and changes no collaborator, whatever was logged before. -/
def Assembling.Ends (x : Assembling σ part α) (w : σ) (r : Registry σ part) (result : Except Failure α)
    (r' : Registry σ part) : Prop :=
  ∀ log, ∃ log', exec x r ⟨w, log⟩ = (result, r', ⟨w, log'⟩)

/-- Started on a registry of which `I` holds, the step `x` changes no collaborator and leaves such a
registry, and `P` holds of its result or `E` of its failure. -/
def Assembling.Yields (x : Assembling σ part α) (w : σ) (I : Registry σ part → Prop) (P : α → Prop)
    (E : Failure → Prop) : Prop :=
  ∀ r, I r → ∃ r', I r' ∧
    ((∃ a, x.Ends w r (.ok a) r' ∧ P a) ∨ ∃ e, x.Ends w r (.error e) r' ∧ E e)

namespace Assembling

variable {w : σ} {I : Registry σ part → Prop} {P : α → Prop} {Q : β → Prop} {E : Failure → Prop}
  {x : Assembling σ part α} {f : α → Assembling σ part β} {r r' : Registry σ part}

theorem Ends.bind {a : α} {result : Except Failure β} {r'' : Registry σ part} (first : x.Ends w r (.ok a) r')
    (next : (f a).Ends w r' result r'') : Ends (x >>= f) w r result r'' := by
  intro log
  obtain ⟨log', ran⟩ := first log
  obtain ⟨log'', others⟩ := next log'
  exact ⟨log'', by rw [exec_bind, ran]; exact others⟩

theorem Ends.bind_error {e : Failure} (first : x.Ends w r (.error e) r') :
    Ends (x >>= f) w r (.error e) r' := by
  intro log
  obtain ⟨log', ran⟩ := first log
  exact ⟨log', by rw [exec_bind, ran]⟩

/-- A step on a registry that nobody else knows. -/
theorem Ends.alone {result : Except Failure α} (h : x.Ends w r result r') :
    Flow.Ends (x.alone r) w result w := by
  intro log
  obtain ⟨log', ran⟩ := h log
  exact ⟨log', by rw [exec_alone, ran]⟩

theorem Yields.bind (first : x.Yields w I P E) (next : ∀ a, P a → (f a).Yields w I Q E) :
    Yields (x >>= f) w I Q E := by
  intro r holds
  obtain ⟨r', holds, ⟨a, ends, outcome⟩ | ⟨e, ends, outcome⟩⟩ := first r holds
  · obtain ⟨r'', holds, ⟨b, others, outcome⟩ | ⟨e, others, outcome⟩⟩ := next a outcome r' holds
    · exact ⟨r'', holds, .inl ⟨b, ends.bind others, outcome⟩⟩
    · exact ⟨r'', holds, .inr ⟨e, ends.bind others, outcome⟩⟩
  · exact ⟨r', holds, .inr ⟨e, ends.bind_error, outcome⟩⟩

theorem ends_ofFlow {step : Flow σ α} {result : Except Failure α} (h : Flow.Ends step w result w)
    (r : Registry σ part) : Ends (.ofFlow step) w r result r := by
  intro log
  obtain ⟨log', ran⟩ := h log
  exact ⟨log', by rw [exec_ofFlow, ran]⟩

/-- A step that has nothing to do with the registry leaves it as it is. -/
theorem yields_ofFlow {step : Flow σ α}
    (h : Flow.Yields step w (fun a v => v = w ∧ P a) (fun e v => v = w ∧ E e)) :
    Yields (.ofFlow step) w I P E := by
  intro r holds
  rcases h with ⟨a, _, ends, rfl, outcome⟩ | ⟨e, _, ends, rfl, outcome⟩
  · exact ⟨r, holds, .inl ⟨a, ends_ofFlow ends r, outcome⟩⟩
  · exact ⟨r, holds, .inr ⟨e, ends_ofFlow ends r, outcome⟩⟩

/-- A recipe that needs a part is followed by having the part and following the rest. -/
theorem Yields.need {i : ι} {resolve : (i : ι) → Assembling σ part (Instance (part i))}
    {next : Instance (part i) → Recipe σ part α} {R : Instance (part i) → Prop}
    (first : (resolve i).Yields w I R E)
    (others : ∀ given, R given → ((next given).follow resolve).Yields w I P E) :
    ((Recipe.need i next).follow resolve).Yields w I P E := by
  rw [Recipe.follow_need]
  exact first.bind others

end Assembling

namespace Registry

variable [DecidableEq ι] {w : σ} {recipes : (i : ι) → Recipe σ part (part i)}
  {P : (i : ι) → part i → Prop} {E : Failure → Prop} {i : ι} {r : Registry σ part}

theorem Keeps.keep {made : Instance (part i)} (h : r.Keeps recipes P) (fits : P i made.value) (count : Nat) :
    (keep { r with made := count } i made).Keeps recipes P where
  registered := h.registered
  kept j other isKept := by
    by_cases same : i = j
    · subst same
      rw [kept?_keep] at isKept
      obtain rfl := Option.some.inj isKept
      exact fits
    · have : r.kept? j = some other := by
        simpa [Registry.keep, same] using isKept
      exact h.kept j other this

/-- The only part of its interface is made at the first request, and kept. -/
theorem exec_resolveWithin_of_new (depth : Nat) {registration : Registration σ part (part i)}
    (h : r.registration? i = some registration) (single : registration.single = true)
    (new : r.kept? i = none) (s : Session σ) :
    (resolveWithin (depth + 1) i).exec r s =
      match (registration.recipe.follow (resolveWithin depth)).exec r s with
      | (.ok v, r, s) => (.ok ⟨r.made, v⟩, keep { r with made := r.made + 1 } i ⟨r.made, v⟩, s)
      | (.error e, r, s) => (.error e, r, s) := by
  simp only [resolveWithin, Assembling.exec_bind, Assembling.exec_registry, h, single, if_true, new,
    Assembling.exec_stamped]
  generalize (registration.recipe.follow (resolveWithin depth)).exec r s = outcome
  obtain ⟨e | v, r, s⟩ := outcome <;> rfl

/-- A part that is not the only one of its interface is made at each request. -/
theorem exec_resolveWithin_of_many (depth : Nat) {registration : Registration σ part (part i)}
    (h : r.registration? i = some registration) (many : registration.single = false) (s : Session σ) :
    (resolveWithin (depth + 1) i).exec r s =
      (Assembling.stamped (registration.recipe.follow (resolveWithin depth))).exec r s := by
  simp [resolveWithin, h, many]

/-- An interface gives the part that is kept, or the one that its recipe makes. -/
theorem yields_resolveWithin {depth : Nat}
    (makes : Assembling.Yields ((recipes i).follow (resolveWithin depth)) w (Keeps · recipes P) (P i) E) :
    Assembling.Yields (resolveWithin (depth + 1) i) w (Keeps · recipes P) (fun made => P i made.value) E := by
  intro r holds
  cases isKept : r.kept? i with
  | some made =>
    have ran := exec_resolveWithin_of_kept depth (holds.registered i) rfl isKept
    exact ⟨r, holds, .inl ⟨made, fun log => ⟨log, ran _⟩, holds.kept i made isKept⟩⟩
  | none =>
    have ran := exec_resolveWithin_of_new depth (holds.registered i) rfl isKept
    obtain ⟨r', holds', ⟨v, ends, fits⟩ | ⟨e, ends, outcome⟩⟩ := makes r holds
    · let made : Instance (part i) := ⟨r'.made, v⟩
      have fitsMade : P i made.value := fits
      refine ⟨_, holds'.keep fitsMade (r'.made + 1), .inl ⟨made, fun log => ?_, fits⟩⟩
      obtain ⟨log', succeeded⟩ := ends log
      exact ⟨log', by rw [ran, succeeded]⟩
    · refine ⟨r', holds', .inr ⟨e, fun log => ?_, outcome⟩⟩
      obtain ⟨log', failed⟩ := ends log
      exact ⟨log', by rw [ran, failed]⟩

end Registry

end LogSearch
