import ManifestLint.Sorting.Merge

/-!
# Sorting by runs

A stable sort that asks one question only, whether a first element comes before a second, and that
may be refused an answer.  The list is cut into runs that go up or strictly down; those that go down
are turned round, and short ones are filled up by insertion.  Neighbouring runs are merged as soon
as the tree of a balanced merge has no boundary of their rank left to come.

Where the question is no order, the result shows which questions were asked; so all of this is part
of what the sort is.

* `sortBy` sorts upwards, `sortDownBy` downwards; both keep the order of equals.
-/

namespace ManifestLint.Sorting

variable {α ε : Type}

/-- The elements that carry on a run behind its last one, and the rest of the list. -/
def takeRun (follows : α → α → Except ε Bool) (last : α) : List α → Except ε (List α × List α)
  | [] => .ok ([], [])
  | x :: rest => do
    if ← follows last x then
      let (run, others) ← takeRun follows x rest
      return (x :: run, others)
    else return ([], x :: rest)

/-- The run that a list starts with, turned upwards, and the rest of the list. -/
def firstRun (before : α → α → Except ε Bool) : List α → Except ε (List α × List α)
  | x :: y :: rest => do
    if ← before y x then
      let (run, others) ← takeRun (fun last next => before next last) y rest
      return ((x :: y :: run).reverse, others)
    else
      let (run, others) ← takeRun (fun last next => (before next last).map (!·)) y rest
      return (x :: y :: run, others)
  | list => .ok (list, [])

/-- The first run of a list, filled up to a least length by insertion, and the rest of the list. -/
def filledRun (before : α → α → Except ε Bool) (least : Nat) (list : List α) :
    Except ε (List α × List α) := do
  let (run, others) ← firstRun before list
  let missing := least - run.length
  let filled ← (others.take missing).foldlM (fun sorted x => insertBy before x sorted) run
  return (filled, others.drop missing)

/-- The least length of the runs of a list: its own if that is below 64, else its leading six bits,
one more if any bit behind them is set. -/
def leastRun (rounded : Bool) (length : Nat) : Nat :=
  if length < 64 then length + rounded.toNat
  else leastRun (rounded || length % 2 = 1) (length / 2)
termination_by length
decreasing_by omega

/-- The depth in a balanced merge of `total` elements at which two runs are parted whose midpoints
are `a / 2` and `b / 2`: the first binary place in which their shares of the total differ. -/
def depth (total : Nat) : (steps a b : Nat) → Nat
  | 0, _, _ => 0
  | steps + 1, a, b =>
    if a / total ≠ b / total then 1
    else depth total steps (2 * (a % total)) (2 * (b % total)) + 1

/-- A run, and the depth at which it is parted from the run below it. -/
structure Run (α : Type) where
  depth : Nat
  items : List α

/-- Merges the uppermost runs that are parted deeper than at a given depth.  The new threshold, the
uppermost run and the runs below it are given. -/
def collapse (before : α → α → Except ε Bool) (limit threshold : Nat) (top : Run α) :
    List (Run α) → Except ε (Nat × Run α × List (Run α))
  | [] => .ok (threshold, top, [])
  | below :: rest => do
    if limit < top.depth then
      let (threshold, items) ← mergeRuns before threshold below.items top.items
      collapse before limit threshold ⟨below.depth, items⟩ rest
    else return (threshold, top, below :: rest)

/-- Merges all runs, the uppermost of which comes first. -/
def collapseAll (before : α → α → Except ε Bool) (threshold : Nat) :
    List (List α) → Except ε (List α)
  | [] => .ok []
  | [run] => .ok run
  | [top, below] => (mergeRuns before threshold below top).map (·.2)
  | top :: middle :: below :: rest => do
    if below.length < top.length then
      let (threshold, merged) ← mergeRuns before threshold below middle
      collapseAll before threshold (top :: merged :: rest)
    else
      let (threshold, merged) ← mergeRuns before threshold middle top
      collapseAll before threshold (merged :: below :: rest)
termination_by runs => runs.length

/-- Cuts what is left of a list into runs and merges them with those that lie below.  `total` is the
length of the whole list. -/
def sortRuns (before : α → α → Except ε Bool) (total : Nat) :
    (steps threshold : Nat) → List (Run α) → List α → Except ε (List α)
  | 0, threshold, runs, list => collapseAll before threshold (list :: runs.map (·.items))
  | steps + 1, threshold, runs, list =>
    if list.isEmpty then collapseAll before threshold (runs.map (·.items))
    else do
      let (items, rest) ← filledRun before (leastRun false total) list
      match runs with
      | [] => sortRuns before total steps threshold [⟨0, items⟩] rest
      | top :: below =>
        let start := total - list.length
        let depth := depth total total (2 * start - top.items.length) (2 * start + items.length)
        let (threshold, top, below) ← collapse before depth threshold top below
        sortRuns before total steps threshold (⟨depth, items⟩ :: top :: below) rest

/-- A list sorted upwards. -/
def sortBy (before : α → α → Except ε Bool) (list : List α) : Except ε (List α) :=
  sortRuns before list.length list.length Merging.payingStretch [] list

/-- A list sorted downwards. -/
def sortDownBy (before : α → α → Except ε Bool) (list : List α) : Except ε (List α) := do
  return (← sortBy before list.reverse).reverse

end ManifestLint.Sorting
