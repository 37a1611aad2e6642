/-!
# Adaptive merge sort

    list ──runs──▶ rising runs ──merge──▶ list

A list is cut into runs that rise already or that fall strictly and are turned round. Short runs are
made longer by binary insertion. Neighbouring runs are merged in an order that their places decide;
a merge that takes many items in a row from one run looks ahead by doubling steps. The sort is
stable. All of this is fixed down to the single comparison, so that the result is defined for every
comparison, also for one that is no order.
-/

namespace ContractOps.Sorting

variable {α : Type} (lt : α → α → Bool)

/-! ### Searching -/

/-- Whether a class holds of the item at a place, if there is one. -/
def at? (p : α → Bool) (xs : Array α) (i : Nat) : Bool := (xs[i]?.map p).getD false

/-- The end of the items of a class between two places, by binary search: items of the class stand
in front of the others. -/
def boundary (p : α → Bool) (xs : Array α) (low high : Nat) : Nat :=
  if low < high then
    let middle := low + (high - low) / 2
    if at? p xs middle then boundary p xs (middle + 1) high else boundary p xs low middle
  else low
termination_by high - low

/-- Steps 1, 3, 7 and so on below a limit, as long as a class holds of them. Gives the last step in
the class and the next one. At most so many steps are made. -/
def reach (q : Nat → Bool) (limit : Nat) : Nat → Nat → Nat → Nat × Nat
  | 0, last, step => (last, min step limit)
  | most + 1, last, step =>
    if step < limit ∧ q step then reach q limit most step (2 * step + 1) else (last, min step limit)

/-- The end of the items of a class, looked for from a place on. -/
def gallop (p : α → Bool) (xs : Array α) (hint : Nat) : Nat :=
  if at? p xs hint then
    -- the end is behind the hint
    let (last, step) := reach (fun k => at? p xs (hint + k)) (xs.size - hint) xs.size 0 1
    boundary p xs (hint + last + 1) (hint + step)
  else
    -- the end is before the hint, or there
    let (last, step) := reach (fun k => !at? p xs (hint - k)) (hint + 1) xs.size 0 1
    boundary p xs (hint + 1 - step) (hint - last)

/-! ### Runs -/

/-- Goes on with a run as long as a relation holds between neighbours. -/
def takeRun (r : α → α → Bool) (last : α) : List α → List α × List α
  | [] => ([], [])
  | x :: xs =>
    if r last x then
      let (run, rest) := takeRun r x xs
      (x :: run, rest)
    else ([], x :: xs)

/-- The first run of a list and the rest. A falling run is turned round. -/
def firstRun : List α → List α × List α
  | [] => ([], [])
  | [x] => ([x], [])
  | x :: y :: xs =>
    if lt y x then
      let (run, rest) := takeRun (fun a b => lt b a) y xs
      ((x :: y :: run).reverse, rest)
    else
      let (run, rest) := takeRun (fun a b => !lt b a) y xs
      (x :: y :: run, rest)

/-- Puts an item into a run, behind all that are not above it. -/
def insert (run : List α) (x : α) : List α :=
  let place := boundary (fun y => !lt x y) run.toArray 0 run.length
  run.take place ++ x :: run.drop place

/-- The runs of a list, all but the last one of a least length. At most so many are taken. -/
def runs (least : Nat) : Nat → List α → List (List α)
  | _, [] => []
  | 0, xs => [xs]
  | most + 1, xs =>
    let (run, rest) := firstRun lt xs
    let missing := least - run.length
    (rest.take missing).foldl (insert lt) run :: runs least most (rest.drop missing)

/-- The least length of a run in a list of a length: the length divided by two, rounded up at the
end, until it is below 64. -/
def leastRun (length : Nat) (carry : Nat) : Nat :=
  if length < 64 then length + carry else leastRun (length / 2) (max carry (length % 2))
termination_by length

/-! ### Merging -/

/-- How many items in a row from one run make a merge look ahead. -/
def leastGallop : Nat := 7

/-- The state of a merge: how many items came last from either run, unless it looks ahead. -/
inductive Pace where
  | single (left right : Nat)
  | ahead

/-- How much a merge has to be ahead the next time: less with every look that pays. -/
def lessEager (threshold : Nat) : Nat := if threshold > 1 then threshold - 1 else threshold

/-- The pace after a look ahead. -/
def nextPace (left right threshold : Nat) : Pace × Nat :=
  if left ≥ leastGallop ∨ right ≥ leastGallop then (.ahead, lessEager threshold)
  else (.single 0 0, threshold + 1)

/-- Merges from the front. The last item of the left run is the last one of all. What has been
merged is given in reverse order, and at most so many rounds are made. -/
def mergeUp : Nat → Pace → List α → List α → List α → Nat → List α × Nat
  | most + 1, .single left right, x :: xs, y :: ys, done, threshold =>
    if lt y x then
      if right + 1 ≥ threshold ∧ !ys.isEmpty then
        mergeUp most .ahead (x :: xs) ys (y :: done) threshold
      else mergeUp most (.single 0 (right + 1)) (x :: xs) ys (y :: done) threshold
    else if xs.length = 1 then (done.reverse ++ x :: y :: ys ++ xs, threshold)
    else if left + 1 ≥ threshold then mergeUp most .ahead xs (y :: ys) (x :: done) threshold
    else mergeUp most (.single (left + 1) 0) xs (y :: ys) (x :: done) threshold
  | most + 1, .ahead, xs, y :: ys, done, threshold =>
    -- all of the left run that is not above the next item of the right one
    let left := gallop (fun x => !lt y x) xs.toArray 0
    let done := (xs.take left).reverse ++ done
    let xs := xs.drop left
    if left ≠ 0 ∧ xs.length = 1 then (done.reverse ++ y :: ys ++ xs, threshold)
    else if ys.isEmpty then (done.reverse ++ y :: xs, threshold)
    else
      match xs with
      | [] => (done.reverse ++ y :: ys, threshold)
      | x :: xs =>
        -- all of the right run that is below the next item of the left one
        let right := gallop (fun y => lt y x) ys.toArray 0
        let done := (ys.take right).reverse ++ y :: done
        let ys := ys.drop right
        if ys.isEmpty then (done.reverse ++ x :: xs, threshold)
        else if xs.length = 1 then (done.reverse ++ x :: ys ++ xs, threshold)
        else
          let (pace, threshold) := nextPace left right threshold
          mergeUp most pace xs ys (x :: done) threshold
  | _, _, xs, ys, done, threshold => (done.reverse ++ xs ++ ys, threshold)

/-- Merges from the back, with both runs in reverse order. The first item of the right run is the
first one of all. -/
def mergeDown : Nat → Pace → List α → List α → List α → Nat → List α × Nat
  | most + 1, .single left right, x :: xs, y :: ys, done, threshold =>
    if lt y x then
      if left + 1 ≥ threshold ∧ !xs.isEmpty then
        mergeDown most .ahead xs (y :: ys) (x :: done) threshold
      else mergeDown most (.single (left + 1) 0) xs (y :: ys) (x :: done) threshold
    else if ys.length = 1 then (ys ++ xs.reverse ++ x :: y :: done, threshold)
    else if right + 1 ≥ threshold then mergeDown most .ahead (x :: xs) ys (y :: done) threshold
    else mergeDown most (.single 0 (right + 1)) (x :: xs) ys (y :: done) threshold
  | most + 1, .ahead, xs, y :: ys, done, threshold =>
    -- all of the left run that is above the last item of the right one
    let left := xs.length - gallop (fun x => !lt y x) xs.reverse.toArray (xs.length - 1)
    let done := (xs.take left).reverse ++ done
    match xs.drop left with
    | [] => (ys.reverse ++ y :: done, threshold)
    | x :: xs =>
      let done := y :: done
      if ys.length = 1 then (ys ++ xs.reverse ++ x :: done, threshold)
      else
        -- all of the right run that is not below the last item of the left one
        let right := ys.length - gallop (fun y => lt y x) ys.reverse.toArray (ys.length - 1)
        let done := (ys.take right).reverse ++ done
        let ys := ys.drop right
        if right ≠ 0 ∧ ys.length = 1 then (ys ++ xs.reverse ++ x :: done, threshold)
        else if ys.isEmpty ∨ xs.isEmpty then (ys.reverse ++ xs.reverse ++ x :: done, threshold)
        else
          let (pace, threshold) := nextPace left right threshold
          mergeDown most pace xs ys (x :: done) threshold
  | _, _, xs, ys, done, threshold => (ys.reverse ++ xs.reverse ++ done, threshold)

/-- Merges two runs. What is in place already, at the front of the left one and at the back of the
right one, is left alone, and the shorter one is merged into the longer one. -/
def merge (xs ys : List α) (threshold : Nat) : List α × Nat :=
  let front := (ys.head?.map fun y => gallop (fun x => !lt y x) xs.toArray 0).getD 0
  let back :=
    (xs.getLast?.map fun x => gallop (fun y => lt y x) ys.toArray (ys.length - 1)).getD 0
  let left := xs.drop front
  let right := ys.take back
  let most := xs.length + ys.length
  if left.isEmpty ∨ right.isEmpty then (xs ++ ys, threshold)
  else
    let (merged, threshold) :=
      if left.length ≤ right.length then
        if left.length = 1 then (right ++ left, threshold)
        else mergeUp lt most (.single 0 0) left (right.drop 1) (right.take 1) threshold
      else if right.length = 1 then (right ++ left, threshold)
      else mergeDown lt most (.single 0 0) (left.reverse.drop 1) right.reverse (left.reverse.take 1)
        threshold
    (xs.take front ++ merged ++ ys.drop back, threshold)

/-! ### The order of merges -/

/-- A run that waits for its merge, and the power of the border to the next run. -/
abbrev Waiting (α : Type) := List α × Nat

/-- The power of the border between two runs in a list of a length: the least number of bits in
which the positions of their middles differ, as fractions of the length. The positions are given
twice. -/
def power (length : Nat) : Nat → Nat → Nat → Nat
  | 0, _, _ => 0
  | most + 1, left, right =>
    if left ≥ length then power length most (2 * (left - length)) (2 * (right - length)) + 1
    else if right ≥ length then 1
    else power length most (2 * left) (2 * right) + 1

/-- The power of the border between two runs of a list, the left one of which has a place. -/
def borderPower (length start left right : Nat) : Nat :=
  power length (length + 1) (2 * start + left) (2 * start + 2 * left + right)

/-- Merges the last of the waiting runs with those before it that have borders of a greater power.
-/
def mergeAbove (bound : Nat) (top : List α) :
    List (Waiting α) → Nat → List α × List (Waiting α) × Nat
  | [], threshold => (top, [], threshold)
  | next :: below, threshold =>
    if next.2 > bound then
      let (merged, threshold) := merge lt next.1 top threshold
      mergeAbove bound merged below threshold
    else (top, next :: below, threshold)

/-- Adds a run to the waiting ones, of which the last comes first. -/
def push (length : Nat) (state : List (Waiting α) × Nat) (run : List α) : List (Waiting α) × Nat :=
  match state.1 with
  | [] => ([(run, 0)], state.2)
  | top :: below =>
    let start := (below.map fun r => r.1.length).foldr (· + ·) 0
    let bound := borderPower length start top.1.length run.length
    let (top, below, threshold) := mergeAbove lt bound top.1 below state.2
    ((run, 0) :: (top, bound) :: below, threshold)

/-- Merges the waiting runs, of which the last comes first. Of three, the shorter one of the outer
ones is merged with the middle one. At most so many merges are made. -/
def mergeAll : Nat → List (List α) → Nat → List α
  | most + 1, c :: b :: a :: rest, threshold =>
    if a.length < c.length then
      let (merged, threshold) := merge lt a b threshold
      mergeAll most (c :: merged :: rest) threshold
    else
      let (merged, threshold) := merge lt b c threshold
      mergeAll most (merged :: a :: rest) threshold
  | _ + 1, [b, a], threshold => (merge lt a b threshold).1
  | _, runs, _ => runs.reverse.flatten

/-- Sorts a list so that its items rise. Items of which none is below the other keep their order. -/
def sort (xs : List α) : List α :=
  let runs := runs lt (leastRun xs.length 0) xs.length xs
  let (waiting, threshold) := runs.foldl (push lt xs.length) ([], leastGallop)
  mergeAll lt waiting.length (waiting.map (·.1)) threshold

/-- Sorts a list so that its items fall. Items of which none is below the other keep their order. -/
def sortFalling (xs : List α) : List α := (sort lt xs.reverse).reverse

end ContractOps.Sorting
