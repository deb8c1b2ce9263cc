/-!
# Sorting by comparisons that may fail

When a comparison may fail, or says nothing sensible, the outcome of sorting depends on which items
are compared, and in what order.  This is a stable merge sort that makes use of order which is there
already.

* A list is cut into ascending runs.  A strictly descending run is turned round, and a short one is
  extended by items that are put in their places by halving.
* A run is merged with the one before it when their place in the whole list asks for it: each border
  between runs has a *power*, which says how soon the binary fractions of the middles of the two runs
  differ, and greater powers are merged first.
* Two runs are merged item by item.  When one of them wins many times in a row, the length of its
  lead is found by looking at items farther and farther away.  How many times are many changes with
  success.

Merging from the back is merging from the front with all turned round, so one function does both.

Renders `list.sort`.

Main statement: sorting a list without order to make use of, of one item or none, compares nothing.
-/

namespace LogSearch.Runs

variable {ε α : Type}

/-- The length of the run after a first item: as long as `stays` holds from each item to the next. -/
def runLength (stays : α → α → Except ε Bool) : α → List α → Except ε Nat
  | _, [] => .ok 0
  | last, x :: r => do
    if ← stays last x then return (← runLength stays x r) + 1 else return 0

/-- Splits off the run at the front; a strictly descending one is turned round. -/
def splitRun (less : α → α → Except ε Bool) : List α → Except ε (List α × List α)
  | x :: y :: r => do
    let falling ← less y x
    let stays (last z : α) : Except ε Bool := do
      let falls ← less z last
      return falls == falling
    let more ← runLength stays y r
    let run := (x :: y :: r).take (more + 2)
    return (if falling then run.reverse else run, r.drop more)
  | r => .ok (r, [])

/-- The place for an item among sorted ones from place `low` on, `width` places wide. -/
def placeFor (less : α → α → Except ε Bool) (pivot : α) (sorted : Array α) (low width : Nat) :
    Except ε Nat :=
  if width = 0 then .ok low
  else
    let half := width / 2
    match sorted[low + half]? with
    | none => .ok low
    | some x => do
      if ← less pivot x then placeFor less pivot sorted low half
      else placeFor less pivot sorted (low + half + 1) (width - half - 1)
termination_by width
decreasing_by all_goals omega

/-- Puts items into their places in a run, one after another. -/
def extend (less : α → α → Except ε Bool) (run items : List α) : Except ε (List α) :=
  items.foldlM (fun run x => do
    let place ← placeFor less x run.toArray 0 run.length
    return run.take place ++ x :: run.drop place) run

/-- The length that shorter runs are extended to: from 32 to 64, so that a list of at least 64 items
is cut into a number of such runs that is a power of two, or a little less. -/
def leastRun (n : Nat) (odd : Bool := false) : Nat :=
  if n < 64 then n + (if odd then 1 else 0) else leastRun (n / 2) (odd || n % 2 = 1)
termination_by n

/-- How soon the binary fractions of `a / n` and `b / n` differ, of two numbers below one. -/
def fractionsDiffer (n : Nat) : Nat → Nat → Nat → Nat
  | 0, _, _ => 1
  | fuel + 1, a, b =>
    if n ≤ a then fractionsDiffer n fuel (2 * (a - n)) (2 * (b - n)) + 1
    else if n ≤ b then 1
    else fractionsDiffer n fuel (2 * a) (2 * b) + 1

/-- The power of the border between two runs of lengths `first` and `second`, of which the first
starts at a place in a list of length `n`. -/
def power (n start first second : Nat) : Nat :=
  let a := 2 * start + first
  fractionsDiffer n n a (a + first + second)

/-- The last place of a lead that is known, and the first place where it may have ended: places 1,
3, 7 and so on are looked at until the lead has ended. -/
def widen (leads : α → Except ε Bool) (xs : Array α) (last place : Nat) : Except ε (Nat × Nat) :=
  match h : xs[place]? with
  | none => .ok (last, xs.size)
  | some x => do
    if ← leads x then widen leads xs place (2 * place + 1) else return (last, place)
termination_by xs.size - place
decreasing_by
  obtain ⟨h, -⟩ := Array.getElem?_eq_some_iff.1 h
  omega

/-- The place that halves a gap of some width: of an even width the upper middle, or the lower one. -/
def half (back : Bool) (width : Nat) : Nat := if back then (width - 1) / 2 else width / 2

theorem half_lt (back : Bool) {width : Nat} (h : 0 < width) : half back width < width := by
  unfold half
  split <;> omega

/-- The end of a lead that is at least `low` and at most `low + width` long, by halving. -/
def narrow (leads : α → Except ε Bool) (back : Bool) (xs : Array α) (low width : Nat) :
    Except ε Nat :=
  if h : 0 < width then
    have := half_lt back h
    match xs[low + half back width]? with
    | none => .ok low
    | some x => do
      if ← leads x then
        narrow leads back xs (low + half back width + 1) (width - half back width - 1)
      else narrow leads back xs low (half back width)
  else .ok low
termination_by width

/-- How many items at the front lead, when no item leads behind one that does not.  Of a gap of even
length the lower middle is looked at when the items stand in reverse. -/
def lead (leads : α → Except ε Bool) (back : Bool) (items : List α) : Except ε Nat := do
  let xs := items.toArray
  match items with
  | [] => return 0
  | x :: _ =>
    if ← leads x then
      let (low, high) ← widen leads xs 0 1
      narrow leads back xs (low + 1) (high - low - 1)
    else return 0

/-- Two runs while they are merged. -/
structure Merging (α : Type) where
  /-- The run whose last item comes last. -/
  upper : List α
  /-- The run whose first item comes first. -/
  lower : List α
  /-- What was taken from both, the latest first. -/
  taken : List α := []
  /-- How many times in a row a run must win to be taken to lead. -/
  patience : Nat

namespace Merging

/-- Takes items of the upper run. -/
def takeUpper (m : Merging α) (n : Nat) : Merging α :=
  { m with upper := m.upper.drop n, taken := (m.upper.take n).reverse ++ m.taken }

/-- Takes items of the lower run. -/
def takeLower (m : Merging α) (n : Nat) : Merging α :=
  { m with lower := m.lower.drop n, taken := (m.lower.take n).reverse ++ m.taken }

/-- Whether what is left needs no comparisons. -/
def isFinished (m : Merging α) : Bool :=
  match m.lower, m.upper with
  | [], _ | _, [] | _, [_] => true
  | _, _ => false

/-- All items, when what is left needs no comparisons: the last item of the upper run comes last. -/
def all (m : Merging α) : List α := m.taken.reverse ++ m.lower ++ m.upper

/-- Takes items one by one until the runs are merged or one of them leads. -/
def oneByOne (below : α → α → Except ε Bool) :
    Nat → (streak : Nat) → (lowerWon : Bool) → Merging α → Except ε (Merging α)
  | 0, _, _, m => .ok m
  | fuel + 1, streak, lowerWon, m =>
    match m.lower, m.upper with
    | x :: _, y :: _ => do
      let won ← below x y
      let streak := if won == lowerWon then streak + 1 else 1
      let m := if won then m.takeLower 1 else m.takeUpper 1
      if m.isFinished || m.patience ≤ streak then return m
      else oneByOne below fuel streak won m
    | _, _ => .ok m

/-- Takes the lead of the upper run and then one item of the lower one; and the length of the
lead. -/
def takeUpperLead (below : α → α → Except ε Bool) (back : Bool) (m : Merging α) :
    Except ε (Nat × Merging α) :=
  match m.lower with
  | [] => .ok (0, m)
  | x :: _ => do
    let n ← lead (fun y => do return !(← below x y)) back m.upper
    let m := m.takeUpper n
    return (n, if m.isFinished then m else m.takeLower 1)

/-- Takes the lead of the lower run and then one item of the upper one; and the length of the
lead. -/
def takeLowerLead (below : α → α → Except ε Bool) (back : Bool) (m : Merging α) :
    Except ε (Nat × Merging α) :=
  match m.upper with
  | [] => .ok (0, m)
  | y :: _ => do
    let n ← lead (fun x => below x y) back m.lower
    let m := m.takeLower n
    return (n, if m.isFinished then m else m.takeUpper 1)

/-- The length from which on a lead is long. -/
def longLead : Nat := 7

/-- Takes leads by turns until the runs are merged or no lead is long any more. -/
def byLeads (below : α → α → Except ε Bool) (back : Bool) :
    Nat → Merging α → Except ε (Merging α)
  | 0, m => .ok m
  | fuel + 1, m => do
    let m := { m with patience := if 1 < m.patience then m.patience - 1 else m.patience }
    let (n, m) ← if back then m.takeLowerLead below back else m.takeUpperLead below back
    if m.isFinished then return m
    let (k, m) ← if back then m.takeUpperLead below back else m.takeLowerLead below back
    if m.isFinished then return m
    if longLead ≤ n || longLead ≤ k then byLeads below back fuel m
    else return { m with patience := m.patience + 1 }

/-- Merges what is left of the runs. -/
def finish (below : α → α → Except ε Bool) (back : Bool) : Nat → Merging α → Except ε (Merging α)
  | 0, m => .ok m
  | fuel + 1, m =>
    if m.isFinished then .ok m
    else do
      let size := m.upper.length + m.lower.length
      let m ← oneByOne below size 0 true m
      if m.isFinished then return m
      let m ← byLeads below back size { m with patience := m.patience + 1 }
      finish below back fuel m

end Merging

/-- Merges two runs, and says how patient the next merging is. -/
def merge (less : α → α → Except ε Bool) (patience : Nat) (first second : List α) :
    Except ε (List α × Nat) :=
  match second with
  | [] => .ok (first, patience)
  | start :: _ => do
    let n ← lead (fun x => do return !(← less start x)) false first
    let before := first.take n
    let first := first.drop n
    match first.getLast? with
    | none => return (before ++ second, patience)
    | some last =>
      let n ← lead (fun y => do return !(← less y last)) true second.reverse
      let after := second.drop (second.length - n)
      let second := second.take (second.length - n)
      let size := first.length + second.length
      if second.isEmpty then return (before ++ first ++ after, patience)
      else if first.length ≤ second.length then
        let m : Merging α := { upper := first, lower := second, patience }
        let m ← (m.takeLower 1).finish less false size
        return (before ++ m.all ++ after, m.patience)
      else
        let m : Merging α := { upper := second.reverse, lower := first.reverse, patience }
        let m ← (m.takeLower 1).finish (fun x y => less y x) true size
        return (before ++ m.all.reverse ++ after, m.patience)

/-- A run in a list that is being sorted. -/
structure Run (α : Type) where
  /-- Where it starts in the list. -/
  start : Nat
  items : List α
  /-- The power of the border to the run behind it. -/
  power : Nat := 0

/-- Merges runs, the last of them first in the list, as long as a border has more than some power. -/
def mergeAbove (less : α → α → Except ε Bool) (power patience : Nat) :
    List (Run α) → Except ε (List (Run α) × Nat)
  | second :: first :: before =>
    if power < first.power then do
      let (items, patience) ← merge less patience first.items second.items
      mergeAbove less power patience ({ first with items } :: before)
    else .ok (second :: first :: before, patience)
  | runs => .ok (runs, patience)
termination_by runs => runs.length

/-- Merges all runs, the last of them first in the list. -/
def mergeAll (less : α → α → Except ε Bool) (patience : Nat) : List (Run α) → Except ε (List α)
  | [] => .ok []
  | [run] => .ok run.items
  | [second, first] => (merge less patience first.items second.items).map Prod.fst
  | third :: second :: first :: before =>
    if first.items.length < third.items.length then do
      let (items, patience) ← merge less patience first.items second.items
      mergeAll less patience (third :: { first with items } :: before)
    else do
      let (items, patience) ← merge less patience second.items third.items
      mergeAll less patience ({ second with items } :: first :: before)
termination_by runs => runs.length

/-- Cuts what is left of a list of length `n` into runs, and merges them. -/
def sortRest (less : α → α → Except ε Bool) (n : Nat) :
    Nat → (start patience : Nat) → List (Run α) → List α → Except ε (List α)
  | 0, _, patience, runs, _ | _, _, patience, runs, [] => mergeAll less patience runs
  | fuel + 1, start, patience, runs, x :: r => do
    let (run, rest) ← splitRun less (x :: r)
    let missing := leastRun n - run.length
    let run ← extend less run (rest.take missing)
    let rest := rest.drop missing
    match runs with
    | [] => sortRest less n fuel (start + run.length) patience [{ start, items := run }] rest
    | last :: _ =>
      let border := power n last.start last.items.length run.length
      let (runs, patience) ← mergeAbove less border patience runs
      let runs := match runs with
        | [] => []
        | last :: before => { last with power := border } :: before
      sortRest less n fuel (start + run.length) patience ({ start, items := run } :: runs) rest

/-- Sorts a list. -/
def sort (less : α → α → Except ε Bool) (xs : List α) : Except ε (List α) :=
  sortRest less xs.length xs.length 0 Merging.longLead [] xs

/-- A list of one item is sorted without a comparison. -/
theorem sort_singleton (less : α → α → Except ε Bool) (x : α) : sort less [x] = .ok [x] := by
  simp [sort, sortRest, splitRun, extend, mergeAll, bind, Except.bind, pure, Except.pure]

end LogSearch.Runs
