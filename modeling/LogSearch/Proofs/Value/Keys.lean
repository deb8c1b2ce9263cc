import LogSearch.Proofs.Decimal.Lowest
import LogSearch.Proofs.Value.Entries

/-!
# Values that count as one key

Two keys of a map are the same key when they count as one: texts when they are equal, and numbers when
their values are, whatever their kinds.  Every value counts as one with itself.  Two fixed values that
count as one with a third do so with each other.  So a key that is put into a map leaves alone what is
under all other keys.

Main statements: `Value.alike_self`, `Value.alike_of_alike` and `Entries.get?_put_apart`.
-/

namespace LogSearch

/-- Times that are the same as a third are the same as each other. -/
theorem DateTime.same_of_same {t u v : DateTime} (h : t.same u = true) (h' : t.same v = true) :
    u.same v = true := by
  simp only [same, Bool.and_eq_true, beq_iff_eq] at h h' ⊢
  exact ⟨h.1.symm.trans h'.1, h.2.symm.trans h'.2⟩

namespace Value

section Self

mutual

/-- A value counts as one with itself. -/
theorem alike_self : ∀ v : Value, v.alike v = true
  | list items => alikeItems_self items
  | tuple items => alikeItems_self items
  | map entries => by
    rw [alike, Bool.and_eq_true, beq_self_eq_true]
    exact ⟨rfl, entriesIn_of_subset entries entries fun _ h => h⟩
  | null => rfl
  | bool b => by simp [alike, atomAlike, atomSame]
  | int n => by simp [alike, atomAlike, atomSame]
  | float x => by cases x <;> simp [alike, atomAlike, atomSame, Binary64.same]
  | str s => by simp [alike, atomAlike, atomSame]
  | bytes octets => by simp [alike, atomAlike, atomSame]
  | time t => by simp [alike, atomAlike, atomSame, DateTime.same]
  | order o => by simp [alike, atomAlike, atomSame]

theorem alikeItems_self : ∀ items : List Value, alikeItems items items = true
  | [] => rfl
  | v :: r => by rw [alikeItems, alike_self v, alikeItems_self r, Bool.and_self]

theorem entriesIn_of_subset : ∀ entries others : List (Value × Value), entries ⊆ others →
    entriesIn entries others = true
  | [], _, _ => rfl
  | (k, v) :: r, others, subset => by
    have present : (others.any fun (l, w) => alike k l && alike v w) = true := by
      refine List.any_eq_true.2 ⟨(k, v), subset List.mem_cons_self, ?_⟩
      dsimp only
      rw [alike_self k, alike_self v, Bool.and_self]
    rw [entriesIn, present, Bool.true_and]
    exact entriesIn_of_subset r others fun _ h => subset (List.mem_cons_of_mem _ h)

end

end Self

section Numbers

/-- The number that a value counts as, as a ratio. -/
def ratio? : Value → Option (Int × Nat)
  | bool b => some (if b then 1 else 0, 1)
  | int n => some (n, 1)
  | float (.finite s m e _) => some (Binary64.signedRatio s m e)
  | _ => none

variable {k v w : Value} {p q : Int × Nat}

theorem snd_pos_of_ratio? (h : v.ratio? = some p) : 0 < p.2 := by
  cases v with
  | bool b =>
    obtain rfl := Option.some.inj h
    exact Nat.one_pos
  | int n =>
    obtain rfl := Option.some.inj h
    exact Nat.one_pos
  | float x =>
    cases x with
    | finite s m e isFinite =>
      obtain rfl := Option.some.inj h
      exact Binary64.snd_signedRatio_pos s m e
    | _ => cases h
  | _ => cases h

/-- A truth value counts as one with what its number does. -/
theorem alike_bool (b : Bool) (v : Value) :
    (bool b).alike v = (int (if b then 1 else 0)).alike v := by
  cases v with
  | bool c => cases b <;> cases c <;> rfl
  | _ => rfl

/-- What counts as one with an integer is a number of that value. -/
theorem alike_int_iff (n : Int) (v : Value) :
    (int n).alike v = true ↔ ∃ q, v.ratio? = some q ∧ n * q.2 = q.1 := by
  cases v with
  | bool b => simp [alike, atomAlike, atomSame, ratio?]
  | int m => simp [alike, atomAlike, atomSame, ratio?]
  | float x => cases x <;> simp [alike, atomAlike, atomSame, intSame, ratio?]
  | _ => simp [alike, atomAlike, atomSame, ratio?]

/-- What counts as one with a number is a number of the same value. -/
theorem exists_ratio_of_alike (h : k.alike v = true) (number : k.ratio? = some p) :
    ∃ q, v.ratio? = some q ∧ p.1 * q.2 = q.1 * p.2 := by
  have ofInt {n : Int} (h : (int n).alike v = true) :
      ∃ q, v.ratio? = some q ∧ n * q.2 = q.1 * (1 : Nat) := by
    obtain ⟨q, ratio, same⟩ := (alike_int_iff n v).1 h
    exact ⟨q, ratio, by rw [same, Nat.cast_one, Int.mul_one]⟩
  cases k with
  | bool b =>
    obtain rfl := Option.some.inj number
    exact ofInt (alike_bool b v ▸ h)
  | int n =>
    obtain rfl := Option.some.inj number
    exact ofInt h
  | float x =>
    cases x with
    | finite s m e hm =>
      obtain rfl := Option.some.inj number
      have turned {n : Int} (h : (int n).alike (float (.finite s m e hm)) = true) :
          (Binary64.signedRatio s m e).1 * (1 : Nat) = n * (Binary64.signedRatio s m e).2 := by
        obtain ⟨_, ratio, same⟩ := (alike_int_iff n _).1 h
        obtain rfl := Option.some.inj ratio
        rw [same, Nat.cast_one, Int.mul_one]
      cases v with
      | bool b => exact ⟨_, rfl, turned (alike_bool b _ ▸ h)⟩
      | int n => exact ⟨_, rfl, turned h⟩
      | float y =>
        cases y with
        | finite t n f hn => exact ⟨_, rfl, Binary64.ratio_of_same hm hn h⟩
        | _ => cases h
      | _ => cases h
    | _ => cases number
  | _ => cases number

/-- Numbers of the same value count as one. -/
theorem alike_of_ratio (hv : v.ratio? = some p) (hw : w.ratio? = some q)
    (same : p.1 * q.2 = q.1 * p.2) : v.alike w = true := by
  cases v with
  | bool b =>
    obtain rfl := Option.some.inj hv
    rw [alike_bool, alike_int_iff]
    exact ⟨q, hw, by simpa using same⟩
  | int n =>
    obtain rfl := Option.some.inj hv
    rw [alike_int_iff]
    exact ⟨q, hw, by simpa using same⟩
  | float x =>
    cases x with
    | finite s m e hm =>
      obtain rfl := Option.some.inj hv
      have turned {n : Int} (same : (Binary64.signedRatio s m e).1 * (1 : Nat) =
          n * (Binary64.signedRatio s m e).2) : (int n).alike (float (.finite s m e hm)) = true := by
        rw [alike_int_iff]
        exact ⟨_, rfl, by simpa using same.symm⟩
      cases w with
      | bool b =>
        obtain rfl := Option.some.inj hw
        exact (alike_bool b _).trans (turned same)
      | int n =>
        obtain rfl := Option.some.inj hw
        exact turned same
      | float y =>
        cases y with
        | finite t n f hn =>
          obtain rfl := Option.some.inj hw
          exact Binary64.same_of_ratio hm hn same
        | _ => cases hw
      | _ => cases hw
    | _ => cases hv
  | _ => cases hv

/-- Numbers that count as one with a third do so with each other. -/
theorem alike_of_alike_number (number : k.ratio? = some p) (h : k.alike v = true)
    (h' : k.alike w = true) : v.alike w = true := by
  obtain ⟨q, hq, same⟩ := exists_ratio_of_alike h number
  obtain ⟨r, hr, same'⟩ := exists_ratio_of_alike h' number
  have pos : (p.2 : Int) ≠ 0 := by exact_mod_cast (snd_pos_of_ratio? number).ne'
  refine alike_of_ratio hq hr (Int.eq_of_mul_eq_mul_right pos ?_)
  calc q.1 * r.2 * p.2 = q.1 * p.2 * r.2 := by ring
    _ = p.1 * q.2 * r.2 := by rw [same]
    _ = p.1 * r.2 * q.2 := by ring
    _ = r.1 * p.2 * q.2 := by rw [same']
    _ = r.1 * q.2 * p.2 := by ring

end Numbers

section Third

/-- Whether a value counts as one with itself only. -/
def isSingular : Value → Bool
  | null | str _ | bytes _ | order _ | float (.nan _) | float (.infinite _) => true
  | _ => false

theorem eq_of_alike {k v : Value} (singular : k.isSingular = true) (h : k.alike v = true) : v = k := by
  cases k with
  | null =>
    cases v with
    | null => rfl
    | _ => cases h
  | str s => exact str_alike_iff.1 h
  | bytes octets =>
    cases v with
    | bytes others =>
      simp only [alike, atomAlike, atomSame, beq_iff_eq] at h
      rw [h]
    | _ => cases h
  | order o =>
    cases v with
    | order p =>
      simp only [alike, atomAlike, atomSame, beq_iff_eq] at h
      rw [h]
    | _ => cases h
  | float x =>
    cases x with
    | finite s m e isFinite => cases singular
    | nan i =>
      cases v with
      | float y =>
        cases y with
        | nan j =>
          simp only [alike, atomAlike, beq_iff_eq] at h
          rw [h]
        | _ => cases h
      | _ => cases h
    | infinite s =>
      cases v with
      | float y =>
        cases y with
        | infinite t =>
          simp only [alike, atomAlike, atomSame, Binary64.same, beq_iff_eq] at h
          rw [h]
        | _ => cases h
      | _ => cases h
  | _ => cases singular

mutual

/-- Of two values that count as one with a third the first counts as one with the second, if it is
fixed. -/
theorem alike_of_alike : ∀ {k v w : Value}, v.changeable? = none → k.alike v = true →
    k.alike w = true → v.alike w = true
  | tuple ks, v, w, fixed, h, h' => by
    cases v with
    | tuple vs =>
      cases w with
      | tuple ws => exact alikeItems_of_alikeItems fixed h h'
      | _ => cases h'
    | _ => cases h
  | list _, v, _, fixed, h, _ => by
    cases v with
    | list vs => cases fixed
    | _ => cases h
  | map _, v, _, fixed, h, _ => by
    cases v with
    | map vs => cases fixed
    | _ => cases h
  | bool _, _, _, _, h, h' => alike_of_alike_number rfl h h'
  | int _, _, _, _, h, h' => alike_of_alike_number rfl h h'
  | float x, _, _, _, h, h' => by
    cases x with
    | finite s m e isFinite => exact alike_of_alike_number rfl h h'
    | nan _ => exact eq_of_alike rfl h ▸ h'
    | infinite _ => exact eq_of_alike rfl h ▸ h'
  | time t, v, w, _, h, h' => by
    cases v with
    | time u =>
      cases w with
      | time v => exact DateTime.same_of_same h h'
      | _ => cases h'
    | _ => cases h
  | null, _, _, _, h, h' => eq_of_alike rfl h ▸ h'
  | str _, _, _, _, h, h' => eq_of_alike rfl h ▸ h'
  | bytes _, _, _, _, h, h' => eq_of_alike rfl h ▸ h'
  | order _, _, _, _, h, h' => eq_of_alike rfl h ▸ h'

theorem alikeItems_of_alikeItems : ∀ {ks vs ws : List Value}, firstChangeable? vs = none →
    alikeItems ks vs = true → alikeItems ks ws = true → alikeItems vs ws = true
  | [], vs, ws, _, h, h' => by
    cases vs with
    | nil =>
      cases ws with
      | nil => rfl
      | cons _ _ => cases h'
    | cons _ _ => cases h
  | k :: ks, vs, ws, fixed, h, h' => by
    cases vs with
    | nil => cases h
    | cons v vs =>
      cases ws with
      | nil => cases h'
      | cons w ws =>
        rw [firstChangeable?, Option.or_eq_none_iff] at fixed
        simp only [alikeItems, Bool.and_eq_true] at h h' ⊢
        exact ⟨alike_of_alike fixed.1 h.1 h'.1, alikeItems_of_alikeItems fixed.2 h.2 h'.2⟩

end

end Third

/-- Nothing counts as one with both of two values. -/
def Apart (v w : Value) : Prop := ∀ k : Value, k.alike v = true → k.alike w = false

variable {v w : Value}

theorem Apart.symm (h : v.Apart w) : w.Apart v := by
  intro k like
  rw [← Bool.not_eq_true]
  intro like'
  rw [h k like'] at like
  cases like

theorem Apart.not_alike (h : v.Apart w) : v.alike w = false := h v (alike_self v)

/-- A fixed value is apart from all that it does not count as one with. -/
theorem apart_of_not_alike (fixed : v.changeable? = none) (h : v.alike w = false) : v.Apart w := by
  intro k like
  rw [← Bool.not_eq_true]
  intro like'
  rw [alike_of_alike fixed like like'] at h
  cases h

end Value

namespace Entries

variable {entries : Entries} {key other v w : Value}

/-- What is put under a key leaves alone what is under a key apart from it. -/
theorem get?_put_apart (apart : key.Apart other) :
    get? (put entries key v) other = get? entries other := by
  induction entries with
  | nil =>
    change get? [(key, v)] other = get? [] other
    rw [get?_cons, apart.not_alike, if_neg Bool.false_ne_true]
  | cons entry rest ih =>
    obtain ⟨k, x⟩ := entry
    rw [put_cons]
    by_cases like : k.alike key = true
    · rw [if_pos like, get?_cons, get?_cons, apart k like, if_neg Bool.false_ne_true,
        if_neg Bool.false_ne_true]
    · rw [if_neg like, get?_cons, get?_cons, ih]

/-- After a value is put under some key, what is found is what was found before, or that value. -/
theorem get?_put_cases (entries : Entries) (key v other : Value)
    (present : (get? entries other).isSome = true) :
    get? (put entries key v) other = get? entries other ∨ get? (put entries key v) other = some v := by
  induction entries with
  | nil => cases present
  | cons entry rest ih =>
    obtain ⟨k, x⟩ := entry
    rw [put_cons]
    rw [get?_cons] at present ⊢
    by_cases like : k.alike key = true
    · rw [if_pos like, get?_cons]
      by_cases like' : k.alike other = true
      · exact .inr (if_pos like')
      · exact .inl (by rw [if_neg like', if_neg like'])
    · rw [if_neg like, get?_cons]
      by_cases like' : k.alike other = true
      · exact .inl (by rw [if_pos like', if_pos like'])
      · rw [if_neg like'] at present ⊢
        rw [if_neg like']
        exact ih present

/-- Nothing changes when a value is put where it is. -/
theorem put_eq_self_iff : put entries key v = entries ↔ get? entries key = some v := by
  induction entries with
  | nil => exact ⟨nofun, nofun⟩
  | cons entry rest ih =>
    obtain ⟨k, x⟩ := entry
    rw [put_cons, get?_cons]
    by_cases like : k.alike key = true
    · rw [if_pos like, if_pos like]
      simp [eq_comm]
    · rw [if_neg like, if_neg like, List.cons.injEq, ih]
      simp

/-- The later of two values that are put under a key counts. -/
theorem put_put (entries : Entries) (key v w : Value) :
    put (put entries key v) key w = put entries key w := by
  induction entries with
  | nil =>
    change put [(key, v)] key w = [(key, w)]
    rw [put_cons, if_pos key.alike_self]
  | cons entry rest ih =>
    obtain ⟨k, x⟩ := entry
    rw [put_cons, put_cons]
    by_cases like : k.alike key = true
    · rw [if_pos like, if_pos like, put_cons, if_pos like]
    · rw [if_neg like, if_neg like, put_cons, if_neg like, ih]

/-- Under keys apart from each other, values may be put in either sequence. -/
theorem put_comm (apart : key.Apart other) :
    (put (put entries key v) other w).Perm (put (put entries other w) key v) := by
  induction entries with
  | nil =>
    change (put [(key, v)] other w).Perm (put [(other, w)] key v)
    rw [put_cons, apart.not_alike, if_neg Bool.false_ne_true, put_cons, apart.symm.not_alike,
      if_neg Bool.false_ne_true]
    exact .swap _ _ _
  | cons entry rest ih =>
    obtain ⟨k, x⟩ := entry
    rw [put_cons, put_cons]
    by_cases like : k.alike key = true
    · rw [if_pos like, apart k like, if_neg Bool.false_ne_true, put_cons, apart k like,
        if_neg Bool.false_ne_true, put_cons, if_pos like]
    · rw [if_neg like]
      by_cases like' : k.alike other = true
      · rw [if_pos like', put_cons, if_pos like', put_cons, if_neg like]
      · rw [if_neg like', put_cons, if_neg like', put_cons, if_neg like]
        exact ih.cons _

end Entries

end LogSearch
