import LogSearch.Json.Reader
import LogSearch.Proofs.Flow

/-!
# The fuel of the JSON reader

What is read is at least one character, so a value needs no more than two units of fuel for each
character of the text, one for the value and one for the list or the map that it may stand in.  With
that much fuel the reader never runs out: more of it changes nothing.

Main statements: `Json.readWithin_eq` and `Json.stringTail_eq_of_le`, that the outcome of a text, and of
a string in it, is the one with any fuel that is enough; and `Json.readChars_replicate_bracket`, that
brackets which are never closed end the reading by their depth.
-/

namespace LogSearch.Json

variable {start depth left : Nat} {cs rest : List Char}

/-! ## What is read is at least one character -/

theorem length_skip_le (cs : List Char) : (skip cs).length ≤ cs.length :=
  (List.dropWhile_sublist _).length_le

theorem length_digitsSplit (cs : List Char) :
    (digitsSplit cs).1.length + (digitsSplit cs).2.length = cs.length := by
  rw [← List.length_append, digitsSplit, List.takeWhile_append_dropWhile]

theorem length_wholeSplit (cs : List Char) :
    (wholeSplit cs).1.length + (wholeSplit cs).2.length = cs.length := by
  unfold wholeSplit
  split
  · exact Nat.add_comm _ _
  · exact length_digitsSplit _

theorem length_fractionSplit_le (cs : List Char) : (fractionSplit cs).2.length ≤ cs.length := by
  unfold fractionSplit
  split
  · rename_i r
    dsimp only
    split
    · exact Nat.le_refl _
    · have digits := length_digitsSplit r
      dsimp only [List.length_cons]
      omega
  · exact Nat.le_refl _

theorem length_exponentSplit_le (cs : List Char) : (exponentSplit cs).2.length ≤ cs.length := by
  cases cs with
  | nil => exact Nat.le_refl _
  | cons e r =>
    have marked : ∀ sign body : List Char, body.length ≤ r.length →
        (if (digitsSplit body).1.isEmpty then ([], e :: r)
          else (e :: sign ++ (digitsSplit body).1, (digitsSplit body).2)).2.length ≤
            (e :: r).length := by
      intro sign body shorter
      have digits := length_digitsSplit body
      split
      · exact Nat.le_refl _
      · dsimp only [List.length_cons]
        omega
    unfold exponentSplit
    dsimp only
    split
    · split
      · exact marked ['-'] _ (Nat.le_succ _)
      · exact marked ['+'] _ (Nat.le_succ _)
      · exact marked [] _ (Nat.le_refl _)
    · exact Nat.le_refl _

theorem length_rest_of_numberRest {negative : Bool} {whole after : List Char} {v : Value}
    (h : numberRest negative left whole after = .ok (v, rest)) :
    whole ≠ [] ∧ rest.length ≤ after.length := by
  unfold numberRest at h
  split at h
  · cases h
  · rename_i some
    refine ⟨fun none => some (List.isEmpty_iff.2 none), ?_⟩
    have shorter : (exponentSplit (fractionSplit after).2).2.length ≤ after.length :=
      Nat.le_trans (length_exponentSplit_le _) (length_fractionSplit_le _)
    dsimp only at h
    split at h
    · split at h
      · cases h
      · obtain ⟨-, rfl⟩ := Prod.mk.inj (Except.ok.inj h)
        exact shorter
    · split at h
      · cases h
      · obtain ⟨-, rfl⟩ := Prod.mk.inj (Except.ok.inj h)
        exact shorter

theorem length_rest_of_number {v : Value} (h : number cs = .ok (v, rest)) :
    rest.length < cs.length := by
  have signed : ∀ body : List Char, body.length ≤ cs.length → ∀ negative,
      numberRest negative cs.length (wholeSplit body).1 (wholeSplit body).2 = .ok (v, rest) →
        rest.length < cs.length := by
    intro body shorter negative h
    obtain ⟨some, le⟩ := length_rest_of_numberRest h
    have whole := length_wholeSplit body
    have pos := List.length_pos_iff.2 some
    omega
  unfold number at h
  split at h
  · rename_i negative body isSigned
    split at isSigned
    · obtain ⟨-, rfl⟩ := Prod.mk.inj isSigned
      exact signed _ (by rw [List.length_cons]; omega) _ h
    · obtain ⟨-, rfl⟩ := Prod.mk.inj isSigned
      exact signed _ (Nat.le_refl _) _ h

theorem length_rest_of_scalar {v : Value} (h : scalar cs = .ok (v, rest)) :
    rest.length < cs.length := by
  unfold scalar at h
  split at h
  · rename_i name w found
    obtain ⟨-, rfl⟩ := Prod.mk.inj (Except.ok.inj h)
    have pos : ∀ e ∈ names, 0 < e.1.length := by decide
    have some := pos _ (List.mem_of_find?_eq_some found)
    have isPrefix := List.find?_some found
    have shorter := (List.isPrefixOf_iff_prefix.1 isPrefix).length_le
    rw [List.length_drop]
    dsimp only at some shorter
    omega
  · exact length_rest_of_number h

theorem length_rest_of_stringTail {fuel : Nat} {ds : List Char}
    (h : stringTail start fuel cs = .ok (ds, rest)) : rest.length < cs.length := by
  induction fuel generalizing cs ds with
  | zero => cases h
  | succ fuel ih =>
    -- Whatever character is read first, what follows it is no longer than what follows the mark.
    have later : ∀ {d : Char} {r : List Char},
        (stringTail start fuel r >>= fun tail => Except.ok (d :: tail.1, tail.2)) = .ok (ds, rest) →
          rest.length < r.length := by
      intro d r h
      obtain ⟨⟨es, left⟩, read, h⟩ := exists_of_bind_eq_ok h
      obtain ⟨-, rfl⟩ := Prod.mk.inj (Except.ok.inj h)
      exact ih read
    cases cs with
    | nil => cases h
    | cons c r =>
      unfold stringTail at h
      split at h
      · obtain ⟨-, rfl⟩ := Prod.mk.inj (Except.ok.inj h)
        exact Nat.lt_succ_self _
      · split at h
        · split at h
          · cases h
          · split at h
            · cases h
            · split at h
              · cases h
              · dsimp only at h
                split at h
                · have shorter := later h
                  simp only [List.length_drop, List.length_cons] at shorter ⊢
                  omega
                · obtain ⟨⟨d, after⟩, paired, h⟩ := exists_of_bind_eq_ok h
                  obtain ⟨second, -, eq⟩ := exists_of_map_eq_ok paired
                  obtain ⟨-, rfl⟩ := Prod.mk.inj eq
                  have shorter := later h
                  simp only [List.length_drop, List.length_cons] at shorter ⊢
                  omega
          · split at h
            · cases h
            · have shorter := later h
              simp only [List.length_cons]
              omega
        · split at h
          · cases h
          · have shorter := later h
            simp only [List.length_cons]
            omega

theorem length_rest_of_stringRest {s : String} (h : stringRest cs = .ok (s, rest)) :
    rest.length < cs.length := by
  obtain ⟨⟨ds, left⟩, read, eq⟩ := exists_of_map_eq_ok h
  obtain ⟨-, rfl⟩ := Prod.mk.inj eq
  exact length_rest_of_stringTail read

section Shorter

variable {fuel : Nat}
  (ofValue : ∀ {depth cs rest v}, value depth fuel cs = .ok (v, rest) → rest.length < cs.length)
  (ofItems : ∀ {depth cs rest vs}, items depth fuel cs = .ok (vs, rest) → rest.length < cs.length)
  (ofEntries : ∀ {depth cs rest es}, entries depth fuel cs = .ok (es, rest) →
    rest.length < cs.length)

include ofItems ofEntries in
theorem length_rest_of_value_succ {v : Value} (h : value depth (fuel + 1) cs = .ok (v, rest)) :
    rest.length < cs.length := by
  cases cs with
  | nil => cases h
  | cons c r =>
    have skipped := length_skip_le r
    have closed : ∀ {bracket : Char}, skip r = bracket :: rest → rest.length < (c :: r).length := by
      intro bracket closed
      rw [closed] at skipped
      simp only [List.length_cons] at skipped ⊢
      omega
    unfold value at h
    split at h
    · obtain ⟨⟨s, left⟩, read, eq⟩ := exists_of_map_eq_ok h
      obtain ⟨-, rfl⟩ := Prod.mk.inj eq
      exact Nat.lt_succ_of_lt (length_rest_of_stringRest read)
    · split at h
      · split at h
        · cases h
        · split at h
          · rename_i isClosed
            obtain ⟨-, rfl⟩ := Prod.mk.inj (Except.ok.inj h)
            exact closed isClosed
          · obtain ⟨⟨vs, left⟩, read, eq⟩ := exists_of_map_eq_ok h
            obtain ⟨-, rfl⟩ := Prod.mk.inj eq
            exact Nat.lt_succ_of_lt (Nat.lt_of_lt_of_le (ofItems read) skipped)
      · split at h
        · split at h
          · cases h
          · split at h
            · rename_i isClosed
              obtain ⟨-, rfl⟩ := Prod.mk.inj (Except.ok.inj h)
              exact closed isClosed
            · obtain ⟨⟨es, left⟩, read, eq⟩ := exists_of_map_eq_ok h
              obtain ⟨-, rfl⟩ := Prod.mk.inj eq
              exact Nat.lt_succ_of_lt (Nat.lt_of_lt_of_le (ofEntries read) skipped)
        · exact length_rest_of_scalar h

include ofValue ofItems in
theorem length_rest_of_items_succ {vs : List Value}
    (h : items depth (fuel + 1) cs = .ok (vs, rest)) : rest.length < cs.length := by
  unfold items at h
  obtain ⟨⟨first, left⟩, read, h⟩ := exists_of_bind_eq_ok h
  have shorter := ofValue read
  have skipped := length_skip_le left
  dsimp only at h
  split at h
  · rename_i closed
    obtain ⟨-, rfl⟩ := Prod.mk.inj (Except.ok.inj h)
    rw [closed, List.length_cons] at skipped
    omega
  · rename_i after comma
    obtain ⟨⟨later, last⟩, read, h⟩ := exists_of_bind_eq_ok h
    obtain ⟨-, rfl⟩ := Prod.mk.inj (Except.ok.inj h)
    rw [comma, List.length_cons] at skipped
    have others : last.length < (skip after).length := ofItems read
    have skipped := length_skip_le after
    dsimp only
    omega
  · cases h

include ofValue ofEntries in
theorem length_rest_of_entries_succ {es : List (Value × Value)}
    (h : entries depth (fuel + 1) cs = .ok (es, rest)) : rest.length < cs.length := by
  unfold entries at h
  split at h
  · rename_i r
    obtain ⟨⟨name, afterName⟩, read, h⟩ := exists_of_bind_eq_ok h
    have named := length_rest_of_stringRest read
    have skipped := length_skip_le afterName
    dsimp only at h
    split at h
    · rename_i body colon
      rw [colon, List.length_cons] at skipped
      obtain ⟨⟨first, left⟩, read, h⟩ := exists_of_bind_eq_ok h
      have shorter : left.length < body.length :=
        Nat.lt_of_lt_of_le (ofValue read) (length_skip_le body)
      have skipped := length_skip_le left
      rw [List.length_cons]
      dsimp only at h
      split at h
      · rename_i closed
        obtain ⟨-, rfl⟩ := Prod.mk.inj (Except.ok.inj h)
        rw [closed, List.length_cons] at skipped
        omega
      · rename_i after comma
        obtain ⟨⟨later, last⟩, read, h⟩ := exists_of_bind_eq_ok h
        obtain ⟨-, rfl⟩ := Prod.mk.inj (Except.ok.inj h)
        rw [comma, List.length_cons] at skipped
        have others : last.length < (skip after).length := ofEntries read
        have skipped := length_skip_le after
        dsimp only
        omega
      · cases h
    · cases h
  · cases h

end Shorter

/-- A value, some items and some entries that are read are at least one character. -/
theorem length_rest_lt (fuel : Nat) :
    (∀ {depth cs rest v}, value depth fuel cs = .ok (v, rest) → rest.length < cs.length) ∧
    (∀ {depth cs rest vs}, items depth fuel cs = .ok (vs, rest) → rest.length < cs.length) ∧
    (∀ {depth cs rest es}, entries depth fuel cs = .ok (es, rest) → rest.length < cs.length) := by
  induction fuel with
  | zero => exact ⟨nofun, nofun, nofun⟩
  | succ fuel ih =>
    obtain ⟨ofValue, ofItems, ofEntries⟩ := ih
    exact ⟨length_rest_of_value_succ ofItems ofEntries, length_rest_of_items_succ ofValue ofItems,
      length_rest_of_entries_succ ofValue ofEntries⟩

/-! ## More fuel changes nothing -/

/-- With one unit of fuel for each character, and one, the rest of a string is read the same with one
more. -/
theorem stringTail_succ_eq {fuel : Nat} (enough : cs.length < fuel) :
    stringTail start (fuel + 1) cs = stringTail start fuel cs := by
  induction fuel generalizing cs with
  | zero => exact absurd enough (Nat.not_lt_zero _)
  | succ fuel ih =>
    cases cs with
    | nil => rfl
    | cons c r =>
      have later : ∀ {after : List Char}, after.length ≤ r.length →
          stringTail start (fuel + 1) after = stringTail start fuel after :=
        fun shorter => ih (Nat.lt_of_le_of_lt shorter (Nat.lt_of_succ_lt_succ enough))
      conv => lhs; unfold stringTail
      conv => rhs; unfold stringTail
      split
      · rfl
      · split
        · split
          · rfl
          · rename_i after
            split
            · rfl
            · split
              · rfl
              · dsimp only
                split
                · simp only [bind, Except.bind]
                  rw [later (Nat.le_trans (List.drop_sublist 4 after).length_le (Nat.le_succ _))]
                · rename_i paired _
                  cases paired with
                  | error failed => rfl
                  | ok d =>
                    simp only [bind, Except.bind, Except.map]
                    rw [later (Nat.le_trans (List.drop_sublist 10 after).length_le (Nat.le_succ _))]
          · rename_i after
            split
            · rfl
            · rw [later (Nat.le_succ _)]
        · split
          · rfl
          · rw [later (Nat.le_refl _)]

/-- The rest of a string is read the same with any fuel that is enough. -/
theorem stringTail_eq_of_le {fuel more : Nat} (enough : cs.length < fuel) (le : fuel ≤ more) :
    stringTail start more cs = stringTail start fuel cs := by
  induction le with
  | refl => rfl
  | step le ih => rw [stringTail_succ_eq (Nat.lt_of_lt_of_le enough le), ih]

section Enough

variable {fuel : Nat}
  (ofValue : ∀ {depth cs}, 2 * cs.length < fuel →
    value depth (fuel + 1) cs = value depth fuel cs)
  (ofItems : ∀ {depth cs}, 2 * cs.length + 1 < fuel →
    items depth (fuel + 1) cs = items depth fuel cs)
  (ofEntries : ∀ {depth cs}, 2 * cs.length + 1 < fuel →
    entries depth (fuel + 1) cs = entries depth fuel cs)

include ofItems ofEntries in
theorem value_succ_of_enough (enough : 2 * cs.length < fuel + 1) :
    value depth (fuel + 1 + 1) cs = value depth (fuel + 1) cs := by
  cases cs with
  | nil => rfl
  | cons c r =>
    rw [List.length_cons] at enough
    have skipped := length_skip_le r
    rw [value, value]
    generalize skip r = body at skipped
    have sameItems : items (depth - 1) (fuel + 1) body = items (depth - 1) fuel body :=
      ofItems (by omega)
    have sameEntries : entries (depth - 1) (fuel + 1) body = entries (depth - 1) fuel body :=
      ofEntries (by omega)
    split
    · rfl
    · split
      · split
        · rfl
        · split
          · rfl
          · rw [sameItems]
      · split
        · split
          · rfl
          · split
            · rfl
            · rw [sameEntries]
        · rfl

include ofValue ofItems in
theorem items_succ_of_enough (enough : 2 * cs.length + 1 < fuel + 1) :
    items depth (fuel + 1 + 1) cs = items depth (fuel + 1) cs := by
  rw [items, items, ofValue (by omega)]
  cases read : value depth fuel cs with
  | error failed => rfl
  | ok first =>
    obtain ⟨v, left⟩ := first
    have shorter : left.length < cs.length := (length_rest_lt fuel).1 read
    have skipped := length_skip_le left
    dsimp only [bind, Except.bind]
    split
    · rfl
    · rename_i after comma
      rw [comma, List.length_cons] at skipped
      have skipped' := length_skip_le after
      rw [ofItems (by omega)]
    · rfl

include ofValue ofEntries in
theorem entries_succ_of_enough (enough : 2 * cs.length + 1 < fuel + 1) :
    entries depth (fuel + 1 + 1) cs = entries depth (fuel + 1) cs := by
  unfold entries
  split
  · rename_i r
    rw [List.length_cons] at enough
    cases named : stringRest r with
    | error failed => rfl
    | ok first =>
      obtain ⟨name, afterName⟩ := first
      have shorter := length_rest_of_stringRest named
      have skipped := length_skip_le afterName
      dsimp only [bind, Except.bind]
      split
      · rename_i body colon
        rw [colon, List.length_cons] at skipped
        have skippedBody := length_skip_le body
        rw [ofValue (by omega)]
        cases read : value depth fuel (skip body) with
        | error failed => rfl
        | ok first =>
          obtain ⟨v, left⟩ := first
          have shorter : left.length < (skip body).length := (length_rest_lt fuel).1 read
          have skippedLeft := length_skip_le left
          dsimp only
          split
          · rfl
          · rename_i after comma
            rw [comma, List.length_cons] at skippedLeft
            have skippedAfter := length_skip_le after
            rw [ofEntries (by omega)]
          · rfl
      · rfl
  · rfl

end Enough

/-- With two units of fuel for each character, a value, some items and some entries are read the same
with one more. -/
theorem value_succ_eq (fuel : Nat) :
    (∀ {depth cs}, 2 * cs.length < fuel → value depth (fuel + 1) cs = value depth fuel cs) ∧
    (∀ {depth cs}, 2 * cs.length + 1 < fuel → items depth (fuel + 1) cs = items depth fuel cs) ∧
    (∀ {depth cs}, 2 * cs.length + 1 < fuel →
      entries depth (fuel + 1) cs = entries depth fuel cs) := by
  induction fuel with
  | zero => exact ⟨fun h => by omega, fun h => by omega, fun h => by omega⟩
  | succ fuel ih =>
    obtain ⟨ofValue, ofItems, ofEntries⟩ := ih
    exact ⟨value_succ_of_enough ofItems ofEntries, items_succ_of_enough ofValue ofItems,
      entries_succ_of_enough ofValue ofEntries⟩

/-- What a value is read as no longer depends on the fuel, once there is enough of it. -/
theorem value_eq_of_le {fuel more : Nat} (enough : 2 * cs.length < fuel) (le : fuel ≤ more) :
    value depth more cs = value depth fuel cs := by
  induction le with
  | refl => rfl
  | step le ih => rw [(value_succ_eq _).1 (Nat.lt_of_lt_of_le enough le), ih]

/-- The outcome of a text is the one with any greater fuel: the fuel never decides it. -/
theorem readWithin_eq {fuel : Nat} (enough : 2 * cs.length < fuel) :
    readWithin fuel cs = readValue cs := by
  have skipped := length_skip_le cs
  have same : value depthLimit fuel (skip cs) = value depthLimit (2 * cs.length + 1) (skip cs) :=
    value_eq_of_le (by omega) enough
  unfold readValue readWithin
  rw [same]

theorem skip_replicate_bracket (n : Nat) :
    skip (List.replicate n '[') = List.replicate n '[' := by
  cases n with
  | zero => rfl
  | succ n => rfl

/-- Of more opening brackets than the depth, the first one that is too deep ends the reading. -/
theorem value_replicate_bracket {fuel : Nat} (more : Nat) (enough : 2 * depth < fuel) :
    value depth fuel (List.replicate (depth + 1 + more) '[') =
      .error ⟨.tooDeep false, more + 1⟩ := by
  induction depth generalizing fuel with
  | zero =>
    obtain ⟨fuel, rfl⟩ := Nat.exists_eq_succ_of_ne_zero (Nat.ne_of_gt enough)
    rw [Nat.zero_add, Nat.add_comm 1 more, List.replicate_succ, value, if_neg (by decide),
      if_pos rfl, if_pos rfl, List.length_replicate]
  | succ depth ih =>
    obtain ⟨fuel, rfl⟩ : ∃ least, fuel = least + 2 := ⟨fuel - 2, by omega⟩
    have inner := ih (show 2 * depth < fuel by omega)
    have opened : List.replicate (depth + 1 + more) '[' = '[' :: List.replicate (depth + more) '[' := by
      rw [← List.replicate_succ]
      congr 1
      omega
    rw [Nat.add_right_comm (depth + 1) 1 more, List.replicate_succ, value, if_neg (by decide),
      if_pos rfl, if_neg (Nat.succ_ne_zero depth), Nat.add_sub_cancel, skip_replicate_bracket]
    split
    · rename_i closed
      rw [opened] at closed
      cases closed
    · rw [items, inner]
      rfl

/-- A text of more opening brackets than the depth is too deep. -/
theorem readChars_replicate_bracket (more : Nat) :
    readChars (List.replicate (depthLimit + 1 + more) '[') =
      .error ⟨.tooDeep false, more + 1⟩ := by
  have tooDeep := value_replicate_bracket more
    (show 2 * depthLimit < 2 * (List.replicate (depthLimit + 1 + more) '[').length + 1 by
      rw [List.length_replicate]
      omega)
  rw [Nat.add_right_comm, List.replicate_succ, readChars, ← List.replicate_succ,
    ← Nat.add_right_comm, readValue, readWithin, skip_replicate_bracket, tooDeep]
  · rfl
  · intro r marked
    cases (List.cons.inj marked).1

end LogSearch.Json
