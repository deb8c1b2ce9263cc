import LogSearch.Value.Basic

/-!
# Equal values, and look-up by key

Numbers are equal when their values are, whatever their kind, and a truth value counts as 0 or 1.
Maps are equal when they have equal values under equal keys, in any order.  What is not a number is
not equal to itself; but where it is held by another value, or looked up among others, it counts as
one with itself, and that is what `alike` says.

A key must be *fixed*: lists and maps can change, and so they and what holds them are no keys.

Renders `==` (`same`) and the keys of a `dict` (`alike`).
-/

namespace LogSearch

namespace Value

/-- Whether an integer has the value of a floating point number. -/
def intSame (n : Int) : Binary64 → Bool
  | .finite s m e _ =>
    let (num, den) := Binary64.signedRatio s m e
    n * den == num
  | _ => false

/-- Whether two values are equal that hold no others. -/
def atomSame : Value → Value → Bool
  | null, null => true
  | bool a, bool b => a == b
  | bool a, int n => (if a then 1 else 0) == n
  | int n, bool b => n == if b then 1 else 0
  | int n, int m => n == m
  | bool a, float x => intSame (if a then 1 else 0) x
  | float x, bool b => intSame (if b then 1 else 0) x
  | int n, float x => intSame n x
  | float x, int n => intSame n x
  | float x, float y => x.same y
  | str s, str t => s == t
  | bytes a, bytes b => a == b
  | time t, time u => t.same u
  | order o, order p => o == p
  | _, _ => false

/-- Whether two values that hold no others count as one where values are looked up: equal values do,
and so does what is not a number with itself. -/
def atomAlike : Value → Value → Bool
  | float (.nan i), float (.nan j) => i == j
  | a, b => atomSame a b

mutual

/-- Whether two values count as one where values are looked up or held by others. -/
def alike : Value → Value → Bool
  | list a, list b => alikeItems a b
  | tuple a, tuple b => alikeItems a b
  | map a, map b => a.length == b.length && entriesIn a b
  | a, b => atomAlike a b

/-- Whether two lists have items in order that count as one. -/
def alikeItems : List Value → List Value → Bool
  | [], [] => true
  | a :: r, b :: t => alike a b && alikeItems r t
  | _, _ => false

/-- Whether every entry of a map is one of another. -/
def entriesIn : List (Value × Value) → List (Value × Value) → Bool
  | [], _ => true
  | (k, v) :: r, b => (b.any fun (l, w) => alike k l && alike v w) && entriesIn r b

end

/-- Whether two values are equal. -/
def same : Value → Value → Bool
  | float x, float y => x.same y
  | a, b => alike a b

mutual

/-- The first part of a value that can change, if there is one. -/
def changeable? : Value → Option Value
  | list items => some (list items)
  | map entries => some (map entries)
  | tuple items => firstChangeable? items
  | _ => none

/-- The first part of a list of values that can change, if there is one. -/
def firstChangeable? : List Value → Option Value
  | [] => none
  | v :: r => (changeable? v).or (firstChangeable? r)

end

/-- Whether a value is in a list. -/
def isIn (v : Value) (items : List Value) : Bool := items.any (alike · v)

/-- The values of a list without later repeats. -/
def distinct (items : List Value) : List Value :=
  items.foldl (fun seen v => if isIn v seen then seen else seen ++ [v]) []

end Value

namespace Entries

/-- The value under a key. -/
def get? (entries : Entries) (key : Value) : Option Value :=
  (entries.find? fun (k, _) => k.alike key).map Prod.snd

/-- Whether there is a value under a key. -/
def has (entries : Entries) (key : Value) : Bool := entries.any fun (k, _) => k.alike key

/-- Puts a value under a key: in the place of the present one, or at the end. -/
def put (entries : Entries) (key v : Value) : Entries :=
  match entries with
  | [] => [(key, v)]
  | (k, w) :: r => if k.alike key then (k, v) :: r else (k, w) :: put r key v

/-- The entries without the one under a key. -/
def drop (entries : Entries) (key : Value) : Entries := entries.filter fun (k, _) => !k.alike key

/-- The keys, in order. -/
def keys (entries : Entries) : List Value := entries.map Prod.fst

/-- A map made of pairs: of two with equal keys the later value counts, in the earlier place. -/
def ofPairs (pairs : List (Value × Value)) : Entries :=
  pairs.foldl (fun entries (k, v) => put entries k v) []

end Entries

theorem Value.alike_str (s t : String) : (Value.str s).alike (.str t) = (s == t) := by
  simp [Value.alike, Value.atomAlike, Value.atomSame]

theorem Value.same_str (s t : String) : (Value.str s).same (.str t) = (s == t) := by
  simp [Value.same, Value.alike_str]

/-- Texts without later repeats are texts. -/
theorem Value.distinct_texts (names : List String) :
    Value.distinct (names.map .str) = names.eraseDups.map .str := by
  have step (seen names : List String) :
      (names.map Value.str).foldl (fun seen v => if Value.isIn v seen then seen else seen ++ [v])
          (seen.reverse.map .str) =
        (List.eraseDupsBy.loop (· == ·) names seen).map .str := by
    induction names generalizing seen with
    | nil => rfl
    | cons name names ih =>
      have known : Value.isIn (.str name) (seen.reverse.map .str) = seen.any (name == ·) := by
        simp only [Value.isIn, List.any_map, List.any_reverse, Function.comp_def, Value.alike_str,
          Bool.beq_comm]
      rw [List.map_cons, List.foldl_cons, known, List.eraseDupsBy.loop]
      cases seen.any (name == ·) with
      | true => exact ih seen
      | false => simpa using ih (name :: seen)
  exact step [] names

/-- Putting a value under a key keeps the keys when the key is present, and adds it at the end when
it is not. -/
theorem Entries.keys_put (entries : Entries) (key v : Value) :
    (entries.put key v).keys =
      if entries.has key then entries.keys else entries.keys ++ [key] := by
  induction entries with
  | nil => rfl
  | cons head rest ih =>
    obtain ⟨k, w⟩ := head
    by_cases h : k.alike key = true
    · simp [Entries.put, Entries.has, Entries.keys, h]
    · have hk : Entries.has ((k, w) :: rest) key = Entries.has rest key := by simp [Entries.has, h]
      have hp : Entries.put ((k, w) :: rest) key v = (k, w) :: Entries.put rest key v := by
        simp [Entries.put, h]
      rw [hk, hp]
      change k :: Entries.keys (Entries.put rest key v) = _
      rw [ih]
      split <;> rfl

end LogSearch
