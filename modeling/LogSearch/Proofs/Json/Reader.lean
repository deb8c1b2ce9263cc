import LogSearch.Json.Reader
import LogSearch.Proofs.Flow
import LogSearch.Value.Literal

/-!
# What JSON texts hold

The reader makes a value of the values that it reads first.  What holds of names, numbers and texts,
and of lists and maps of values that it holds of, therefore holds of all that is read, and
`read_induction` says so; the induction is on the fuel, for a value, its items and its entries at
once.

Main statement: every value that is read can be written, since the reader takes no integer that is too
long.
-/

namespace LogSearch

/-- The number of some digits has no more digits than these. -/
theorem Text.ofDigits_lt {ds : List Nat} (h : ∀ d ∈ ds, d < 10) :
    Text.ofDigits ds < Nat.pow 10 ds.length := by
  have fold : ∀ n, ds.foldl (fun n d => 10 * n + d) n < (n + 1) * Nat.pow 10 ds.length := by
    induction ds with
    | nil => intro n; simp
    | cons d ds ih =>
      intro n
      have digit : d < 10 := h d List.mem_cons_self
      have later := ih (fun e he => h e (List.mem_cons_of_mem d he)) (10 * n + d)
      have step : (10 * n + d + 1) * Nat.pow 10 ds.length ≤ (10 * (n + 1)) * Nat.pow 10 ds.length :=
        Nat.mul_le_mul_right _ (by omega)
      rw [List.foldl_cons]
      calc ds.foldl (fun n d => 10 * n + d) (10 * n + d)
          < (10 * n + d + 1) * Nat.pow 10 ds.length := later
        _ ≤ (10 * (n + 1)) * Nat.pow 10 ds.length := step
        _ = (n + 1) * (Nat.pow 10 ds.length * 10) := by
          rw [Nat.mul_comm 10, Nat.mul_assoc, Nat.mul_comm 10]
  simpa [Text.ofDigits] using fold 0

/-- What is found in a map that is made of pairs is one of them. -/
theorem Entries.mem_put {entries : Entries} {key v : Value} {e : Value × Value}
    (h : e ∈ put entries key v) : e ∈ entries ∨ e.2 = v ∧ (e.1 = key ∨ ∃ f ∈ entries, e.1 = f.1) := by
  induction entries with
  | nil =>
    obtain rfl := List.mem_singleton.1 h
    exact .inr ⟨rfl, .inl rfl⟩
  | cons head rest ih =>
    obtain ⟨k, w⟩ := head
    unfold put at h
    split at h
    · rcases List.mem_cons.1 h with rfl | h
      · exact .inr ⟨rfl, .inr ⟨_, List.mem_cons_self, rfl⟩⟩
      · exact .inl (List.mem_cons_of_mem _ h)
    · rcases List.mem_cons.1 h with rfl | h
      · exact .inl List.mem_cons_self
      · rcases ih h with old | ⟨hv, hk | ⟨f, hf, hk⟩⟩
        · exact .inl (List.mem_cons_of_mem _ old)
        · exact .inr ⟨hv, .inl hk⟩
        · exact .inr ⟨hv, .inr ⟨f, List.mem_cons_of_mem _ hf, hk⟩⟩

/-- Each key and each value of a map that is made of pairs is one of theirs. -/
theorem Entries.forall_mem_ofPairs {pairs : List (Value × Value)} {K P : Value → Prop}
    (h : ∀ e ∈ pairs, K e.1 ∧ P e.2) : ∀ e ∈ ofPairs pairs, K e.1 ∧ P e.2 := by
  have fold : ∀ entries : Entries, (∀ e ∈ entries, K e.1 ∧ P e.2) →
      ∀ e ∈ pairs.foldl (fun entries e => put entries e.1 e.2) entries, K e.1 ∧ P e.2 := by
    induction pairs with
    | nil => exact fun entries old => old
    | cons pair rest ih =>
      intro entries old
      obtain ⟨key, value⟩ := h pair List.mem_cons_self
      refine ih (fun e he => h e (List.mem_cons_of_mem _ he)) _ fun e he => ?_
      rcases mem_put he with he | ⟨hv, hk | ⟨f, hf, hk⟩⟩
      · exact old e he
      · exact ⟨hk ▸ key, hv ▸ value⟩
      · exact ⟨hk ▸ (old f hf).1, hv ▸ value⟩
  exact fold [] fun e he => (List.not_mem_nil he).elim

namespace Json

section Induction

variable {P : Value → Prop}
  (ofString : ∀ s, P (.str s))
  (ofScalar : ∀ cs v rest, scalar cs = .ok (v, rest) → P v)
  (ofList : ∀ vs, (∀ v ∈ vs, P v) → P (.list vs))
  (ofMap : ∀ pairs, (∀ e ∈ pairs, (∃ s, e.1 = .str s) ∧ P e.2) → P (.map (Entries.ofPairs pairs)))
  {fuel : Nat}
  (ofValue : ∀ depth cs v rest, value depth fuel cs = .ok (v, rest) → P v)
  (ofItems : ∀ depth cs vs rest, items depth fuel cs = .ok (vs, rest) → ∀ v ∈ vs, P v)
  (ofEntries : ∀ depth cs es rest, entries depth fuel cs = .ok (es, rest) →
    ∀ e ∈ es, (∃ s, e.1 = .str s) ∧ P e.2)

include ofString ofScalar ofList ofMap ofItems ofEntries in
theorem of_value_succ {depth : Nat} {cs rest : List Char} {v : Value}
    (h : value depth (fuel + 1) cs = .ok (v, rest)) : P v := by
  cases cs with
  | nil => cases h
  | cons c r =>
    unfold value at h
    split at h
    · obtain ⟨⟨s, left⟩, -, eq⟩ := exists_of_map_eq_ok h
      obtain ⟨rfl, -⟩ := Prod.mk.inj eq
      exact ofString s
    · split at h
      · split at h
        · cases h
        · split at h
          · obtain ⟨rfl, -⟩ := Prod.mk.inj (Except.ok.inj h)
            exact ofList [] fun v hv => (List.not_mem_nil hv).elim
          · obtain ⟨⟨vs, left⟩, read, eq⟩ := exists_of_map_eq_ok h
            obtain ⟨rfl, -⟩ := Prod.mk.inj eq
            exact ofList vs (ofItems _ _ _ _ read)
      · split at h
        · split at h
          · cases h
          · split at h
            · obtain ⟨rfl, -⟩ := Prod.mk.inj (Except.ok.inj h)
              exact ofMap [] fun e he => (List.not_mem_nil he).elim
            · obtain ⟨⟨es, left⟩, read, eq⟩ := exists_of_map_eq_ok h
              obtain ⟨rfl, -⟩ := Prod.mk.inj eq
              exact ofMap es (ofEntries _ _ _ _ read)
        · exact ofScalar _ _ _ h

include ofValue ofItems in
theorem of_items_succ {depth : Nat} {cs rest : List Char} {vs : List Value}
    (h : items depth (fuel + 1) cs = .ok (vs, rest)) : ∀ v ∈ vs, P v := by
  unfold items at h
  obtain ⟨⟨first, left⟩, read, h⟩ := exists_of_bind_eq_ok h
  have here : P first := ofValue _ _ _ _ read
  dsimp only at h
  split at h
  · obtain ⟨rfl, -⟩ := Prod.mk.inj (Except.ok.inj h)
    intro v hv
    rw [List.mem_singleton.1 hv]
    exact here
  · obtain ⟨⟨later, left⟩, read, h⟩ := exists_of_bind_eq_ok h
    obtain ⟨rfl, -⟩ := Prod.mk.inj (Except.ok.inj h)
    exact List.forall_mem_cons.2 ⟨here, ofItems _ _ _ _ read⟩
  · cases h

include ofValue ofEntries in
theorem of_entries_succ {depth : Nat} {cs rest : List Char} {es : List (Value × Value)}
    (h : entries depth (fuel + 1) cs = .ok (es, rest)) :
    ∀ e ∈ es, (∃ s, e.1 = .str s) ∧ P e.2 := by
  unfold entries at h
  split at h
  · obtain ⟨⟨name, left⟩, -, h⟩ := exists_of_bind_eq_ok h
    dsimp only at h
    split at h
    · obtain ⟨⟨first, left⟩, read, h⟩ := exists_of_bind_eq_ok h
      have here : P first := ofValue _ _ _ _ read
      dsimp only at h
      split at h
      · obtain ⟨rfl, -⟩ := Prod.mk.inj (Except.ok.inj h)
        intro e he
        rw [List.mem_singleton.1 he]
        exact ⟨⟨name, rfl⟩, here⟩
      · obtain ⟨⟨later, left⟩, read, h⟩ := exists_of_bind_eq_ok h
        obtain ⟨rfl, -⟩ := Prod.mk.inj (Except.ok.inj h)
        exact List.forall_mem_cons.2 ⟨⟨⟨name, rfl⟩, here⟩, ofEntries _ _ _ _ read⟩
      · cases h
    · cases h
  · cases h

include ofString ofScalar ofList ofMap

/-- A property of what values are made of is one of each value, each item and each entry that is
read. -/
theorem value_induction (fuel : Nat) :
    (∀ depth cs v rest, value depth fuel cs = .ok (v, rest) → P v) ∧
    (∀ depth cs vs rest, items depth fuel cs = .ok (vs, rest) → ∀ v ∈ vs, P v) ∧
    (∀ depth cs es rest, entries depth fuel cs = .ok (es, rest) →
      ∀ e ∈ es, (∃ s, e.1 = .str s) ∧ P e.2) := by
  -- Each of the three readers calls the others with less fuel only.
  induction fuel with
  | zero => exact ⟨nofun, nofun, nofun⟩
  | succ fuel ih =>
    obtain ⟨ofValue, ofItems, ofEntries⟩ := ih
    refine ⟨?_, ?_, ?_⟩
    · exact fun _ _ _ _ h => of_value_succ ofString ofScalar ofList ofMap ofItems ofEntries h
    · exact fun _ _ _ _ h => of_items_succ ofValue ofItems h
    · exact fun _ _ _ _ h => of_entries_succ ofValue ofEntries h

/-- A property of what values are made of is one of all that a text holds. -/
theorem read_induction {text : String} {v : Value} (h : read text = .ok v) : P v := by
  have chars : readChars text.toList = .ok v := by
    unfold read at h
    split at h
    · rename_i w hw
      rw [hw, Except.ok.inj h]
    · cases h
  have whole : readValue text.toList = .ok v := by
    unfold readChars at chars
    split at chars
    · cases chars
    · exact chars
  unfold readValue readWithin at whole
  obtain ⟨⟨w, rest⟩, hw, h⟩ := exists_of_bind_eq_ok whole
  dsimp only at h
  split at h
  · obtain rfl := Except.ok.inj h
    exact (value_induction ofString ofScalar ofList ofMap _).1 _ _ _ _ hw
  · cases h

end Induction

/-- A number that is not too long is less than the power with the greatest number of digits. -/
theorem ofDigits_natAbs_lt {whole : List Char} {limit : Nat}
    (digits : ∀ c ∈ whole, Text.isAsciiDigit c = true) (short : whole.length ≤ limit)
    (negative : Bool) :
    let n : Int := Text.ofDigits (whole.map fun c => c.toNat - 48)
    (if negative then -n else n).natAbs < Nat.pow 10 limit := by
  intro n
  have small : ∀ d ∈ whole.map fun c => c.toNat - 48, d < 10 := by
    intro d hd
    obtain ⟨c, hc, rfl⟩ := List.mem_map.1 hd
    have bounds := digits c hc
    simp only [Text.isAsciiDigit, Bool.and_eq_true, decide_eq_true_eq] at bounds
    omega
  have bound := Text.ofDigits_lt small
  rw [List.length_map] at bound
  have size : n.natAbs = Text.ofDigits (whole.map fun c => c.toNat - 48) := rfl
  have power : Nat.pow 10 whole.length ≤ Nat.pow 10 limit :=
    Nat.pow_le_pow_right (by decide) short
  cases negative with
  | true =>
    rw [if_pos rfl, Int.natAbs_neg, size]
    exact Nat.lt_of_lt_of_le bound power
  | false =>
    rw [if_neg Bool.false_ne_true, size]
    exact Nat.lt_of_lt_of_le bound power

theorem isAsciiDigit_of_mem_wholeSplit (cs : List Char) :
    ∀ c ∈ (wholeSplit cs).1, Text.isAsciiDigit c = true := by
  intro c hc
  unfold wholeSplit at hc
  split at hc
  · rw [List.mem_singleton.1 hc]
    rfl
  · exact List.all_eq_true.1 List.all_takeWhile c hc

theorem isWritable_of_numberRest {negative : Bool} {left : Nat} {whole cs rest : List Char}
    {v : Value} (digits : ∀ c ∈ whole, Text.isAsciiDigit c = true)
    (h : numberRest negative left whole cs = .ok (v, rest)) : v.isWritable = true := by
  unfold numberRest at h
  dsimp only at h
  split at h
  · cases h
  · split at h
    · split at h
      · cases h
      · rename_i short
        obtain ⟨rfl, -⟩ := Prod.mk.inj (Except.ok.inj h)
        rw [Value.isWritable]
        exact decide_eq_true (ofDigits_natAbs_lt digits (Nat.le_of_not_lt short) negative)
    · split at h
      · cases h
      · obtain ⟨rfl, -⟩ := Prod.mk.inj (Except.ok.inj h)
        rfl

theorem isWritable_of_scalar {cs rest : List Char} {v : Value} (h : scalar cs = .ok (v, rest)) :
    v.isWritable = true := by
  unfold scalar at h
  split at h
  · rename_i name w found
    obtain ⟨rfl, -⟩ := Prod.mk.inj (Except.ok.inj h)
    have all : ∀ e ∈ names, e.2.isWritable = true := by decide
    exact all _ (List.mem_of_find?_eq_some found)
  · exact isWritable_of_numberRest (isAsciiDigit_of_mem_wholeSplit _) h

/-- What a text holds can be written. -/
theorem isWritable_of_read {text : String} {v : Value} (h : read text = .ok v) :
    v.isWritable = true := by
  refine read_induction (P := fun v => v.isWritable = true) (fun s => rfl)
    (fun _ _ _ => isWritable_of_scalar) (fun vs hvs => ?_) (fun pairs hpairs => ?_) h
  · rw [Value.isWritable]
    exact (Value.areWritable_iff vs).2 hvs
  · rw [Value.isWritable]
    refine (Value.entriesWritable_iff _).2 ?_
    refine Entries.forall_mem_ofPairs (K := fun k => k.isWritable = true)
      (P := fun v => v.isWritable = true) fun e he => ?_
    obtain ⟨⟨s, hs⟩, hv⟩ := hpairs e he
    exact ⟨by rw [hs]; rfl, hv⟩

end Json

end LogSearch
