import StubDoctest.Exec.Value

/-!
# Sorting

A stable sort by a less-than test that may fail or be inconsistent, asked in the order the
runtime's list sort asks it, so that a failing comparison fails on the same pair. The head of
the array is taken as a run, strictly descending (then reversed) or not descending; the rest is
put in place one item at a time by binary search, each item compared as the left operand.
Arrays of 64 items or more are cut into runs of that kind, each at least the minimum run
length, and the runs merged pairwise, the right item going first only when it is less than the
left one.
-/

namespace StubDoctest.Exec

variable {α : Type} [Inhabited α]

/-- The length of the run at `lo` (before `hi`) and whether it descends strictly. -/
def countRun (lt : α → α → Eval Bool) (xs : Array α) (lo hi : Nat) : Eval (Nat × Bool) := do
  if lo + 1 ≥ hi then return (hi - lo, false)
  let descending ← lt xs[lo + 1]! xs[lo]!
  let mut n := 2
  for i in [lo + 2:hi] do
    let less ← lt xs[i]! xs[i - 1]!
    if less != descending then break
    n := n + 1
  return (n, descending)

/-- The position where `pivot` goes among `xs[lo:r]`, after the items it is not less than. -/
def insertionPoint (lt : α → α → Eval Bool) (xs : Array α) (pivot : α) (lo r : Nat) : Eval Nat := do
  let mut l := lo
  let mut r := r
  for _ in [0:64] do
    if l ≥ r then break
    let p := l + (r - l) / 2
    if ← lt pivot xs[p]! then r := p else l := p + 1
  return l

/-- Sort `xs[lo:hi]` by binary insertion, given that `xs[lo:start]` is sorted. -/
def binaryInsertion (lt : α → α → Eval Bool) (xs : Array α) (lo hi start : Nat) : Eval (Array α) := do
  let mut a := xs
  for i in [start:hi] do
    let pivot := a[i]!
    let l ← insertionPoint lt a pivot lo i
    if l < i then
      a := (a.eraseIdxIfInBounds i).insertIdxIfInBounds l pivot
  return a

/-- The reversal of `xs[lo:hi]` in place. -/
def reverseRange (xs : Array α) (lo hi : Nat) : Array α :=
  xs.extract 0 lo ++ (xs.extract lo hi).reverse ++ xs.extract hi xs.size

/-- The least run length for `n` items: `n` itself below 64, otherwise between 32 and 64. -/
def minRun (n : Nat) : Nat :=
  let rec go (fuel : Nat) (n r : Nat) : Nat :=
    match fuel with
    | 0 => n + r
    | fuel + 1 => if n ≥ 64 then go fuel (n / 2) (r ||| (n % 2)) else n + r
  go 64 n 0

/-- Two sorted arrays merged, stably. -/
def mergeRuns (lt : α → α → Eval Bool) (a b : Array α) : Eval (Array α) := do
  let mut out : Array α := Array.mkEmpty (a.size + b.size)
  let mut i := 0
  let mut j := 0
  for _ in [0:a.size + b.size] do
    if i < a.size && j < b.size then
      if ← lt b[j]! a[i]! then
        out := out.push b[j]!
        j := j + 1
      else
        out := out.push a[i]!
        i := i + 1
    else if i < a.size then
      out := out.push a[i]!
      i := i + 1
    else if j < b.size then
      out := out.push b[j]!
      j := j + 1
  return out

/-- Merge neighbouring runs until one is left; `fuel` bounds the rounds. -/
def mergeAll (lt : α → α → Eval Bool) (fuel : Nat) (runs : List (Array α)) : Eval (Array α) :=
  match fuel with
  | 0 => return runs.foldl (· ++ ·) #[]
  | fuel + 1 =>
    match runs with
    | [] => return #[]
    | [r] => return r
    | _ => do
      let rec pairs (fuel : Nat) (rs : List (Array α)) : Eval (List (Array α)) :=
        match fuel with
        | 0 => return rs
        | fuel + 1 =>
          match rs with
          | a :: b :: rest => do return (← mergeRuns lt a b) :: (← pairs fuel rest)
          | rest => return rest
      mergeAll lt fuel (← pairs runs.length runs)

/-- The array sorted stably by a less-than test. -/
def sortBy (lt : α → α → Eval Bool) (xs : Array α) : Eval (Array α) := do
  let n := xs.size
  if n < 2 then return xs
  let mr := minRun n
  let mut runs : List (Array α) := []
  let mut a := xs
  let mut lo := 0
  for _ in [0:n] do
    if lo ≥ n then break
    let (len, desc) ← countRun lt a lo n
    if desc then a := reverseRange a lo (lo + len)
    let force := min n (lo + max len mr)
    if lo + len < force then a ← binaryInsertion lt a lo force (lo + len)
    runs := runs ++ [a.extract lo force]
    lo := force
  mergeAll lt (runs.length + 1) runs

end StubDoctest.Exec
