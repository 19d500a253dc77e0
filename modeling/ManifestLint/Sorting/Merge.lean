/-!
# Merging two sorted runs

Elements move one by one from the heads of two runs into one.  Once a run has won many times in a
row, whole stretches of it are moved: the runs are galloped through in turns, as long as that pays.
How many wins it takes is a threshold that falls while galloping pays and rises when it ends; it is
carried from one merge to the next.

One of the runs, the kept one, is known to hold the very last element.  The shorter run is the kept
one: if that is the lower run the merge goes upwards, else both runs are merged from their ends.

A test that may be refused an answer, and that holds of the elements at the start of a list and of
no later ones, splits the list in two.  Bisection finds the place with few questions.  Galloping is
for the case that the place is near the end from which the search starts: it asks about the first
element and then about elements that are ever further apart, and the last gap is bisected.  Which
questions are asked, and in which order, shows where the test is no such test.

* `bisect` splits a list, `insertBy` puts an element into a sorted one.
* `gallopUp` searches from the start of a list, `gallopDown` from its end.
* `mergeRuns` merges a run and the run above it; of equals those of the lower run come first.
-/

namespace ManifestLint.Sorting

variable {α ε : Type}

/-! ## Bisection and galloping -/

/-! ## Bisection -/

/-- The elements for which a test holds, and the others behind them. -/
def bisect (test : α → Except ε Bool) (list : List α) : Except ε (List α × List α) :=
  match _found : list.drop (list.length / 2) with
  | [] => .ok ([], [])
  | middle :: upper => do
    let lower := list.take (list.length / 2)
    if ← test middle then
      let (held, others) ← bisect test upper
      return (lower ++ middle :: held, others)
    else
      let (held, others) ← bisect test lower
      return (held, others ++ middle :: upper)
termination_by list.length
decreasing_by
  · have := congrArg List.length _found
    simp at this
    omega
  · have := congrArg List.length _found
    simp at this ⊢
    omega

/-- A test with the opposite answers. -/
def fails (test : α → Except ε Bool) (x : α) : Except ε Bool := (test x).map (!·)

/-- Puts an element into a sorted list, behind all that do not come after it. -/
def insertBy (before : α → α → Except ε Bool) (x : α) (sorted : List α) : Except ε (List α) := do
  let (lower, upper) ← bisect (fails (before x)) sorted
  return lower ++ x :: upper

/-! ## Galloping -/

/-- Goes over blocks of elements as long as a test holds for the last of a block, and searches the
first block where it does not with `finish`.  A block has `skipped` elements before its last one,
and each further one about twice as many. -/
def gallopFrom (test : α → Except ε Bool) (finish : List α → Except ε (List α × List α))
    (skipped : Nat) (list : List α) : Except ε (List α × List α) :=
  match _found : list.drop skipped with
  | [] => finish list
  | probe :: rest => do
    let block := list.take skipped
    if ← test probe then
      let (held, others) ← gallopFrom test finish (2 * skipped + 1) rest
      return (block ++ probe :: held, others)
    else
      let (held, others) ← finish block
      return (held, others ++ probe :: rest)
termination_by list.length
decreasing_by
  have := congrArg List.length _found
  simp at this
  omega

/-- Splits a list behind the elements at its start for which a test holds. -/
def gallop (test : α → Except ε Bool) (finish : List α → Except ε (List α × List α)) :
    List α → Except ε (List α × List α)
  | [] => .ok ([], [])
  | first :: rest => do
    if ← test first then
      let (held, others) ← gallopFrom test finish 0 rest
      return (first :: held, others)
    else return ([], first :: rest)

/-- The elements at the start of a list for which a test holds, and the others. -/
def gallopUp (test : α → Except ε Bool) (list : List α) : Except ε (List α × List α) :=
  gallop test (bisect test) list

/-- The same search from the end of a list, which is given from its end: the elements for which the
test does not hold, and the others, both from the end. -/
def gallopDown (test : α → Except ε Bool) (backwards : List α) : Except ε (List α × List α) :=
  let finish := fun block => do
    let (held, others) ← bisect test (List.reverse block)
    return (others.reverse, held.reverse)
  gallop (fails test) finish backwards

/-! ## Merging -/

/-- Two runs on their way into one, whose elements so far stand last first. -/
structure Merging (α : Type) where
  kept : List α
  other : List α
  merged : List α := []

/-- How to merge: whether the head of the other run comes before that of the kept one, which
elements of a run come before the head of the opposite one, and which run is galloped through
first. -/
structure Direction (ε α : Type) where
  otherFirst : (kept other : α) → Except ε Bool
  keptStretch : (other : α) → List α → Except ε (List α × List α)
  otherStretch : (kept : α) → List α → Except ε (List α × List α)
  startsWithKept : Bool

/-- From the lowest elements upwards; the lower run is kept. -/
def Direction.up (before : α → α → Except ε Bool) : Direction ε α where
  otherFirst kept other := before other kept
  keptStretch other := gallopUp (fails (before other))
  otherStretch kept := gallopUp (before · kept)
  startsWithKept := true

/-- From the highest elements downwards; the upper run is kept. -/
def Direction.down (before : α → α → Except ε Bool) : Direction ε α where
  otherFirst kept other := before kept other
  keptStretch other := gallopDown (before · other)
  otherStretch kept := gallopDown (fails (before kept))
  startsWithKept := false

namespace Merging

/-- The merge with the head of the kept run moved. -/
def takeKept (m : Merging α) : Merging α :=
  match m.kept with
  | [] => m
  | k :: kept => { m with kept, merged := k :: m.merged }

/-- The merge with the head of the other run moved. -/
def takeOther (m : Merging α) : Merging α :=
  match m.other with
  | [] => m
  | o :: other => { m with other, merged := o :: m.merged }

/-- The heads of both runs, unless the rest is settled: the other run has come to its end, or no
more than the last element of the kept one is left. -/
def heads? (m : Merging α) : Option (α × α) :=
  match m.kept, m.other with
  | k :: _ :: _, o :: _ => some (k, o)
  | _, _ => none

/-- The merged run once the rest is settled. -/
def finish (m : Merging α) : List α :=
  match m.kept with
  | [last] => m.merged.reverse ++ m.other ++ [last]
  | kept => m.merged.reverse ++ kept ++ m.other

/-- Moves elements one by one until a run has won `threshold` times in a row. -/
def alternate (d : Direction ε α) (threshold : Nat) :
    (steps keptWins otherWins : Nat) → Merging α → Except ε (Merging α)
  | 0, _, _, m => .ok m
  | steps + 1, keptWins, otherWins, m =>
    match m.heads? with
    | none => .ok m
    | some (k, o) => do
      if threshold ≤ keptWins || threshold ≤ otherWins then return m
      else if ← d.otherFirst k o then alternate d threshold steps 0 (otherWins + 1) m.takeOther
      else alternate d threshold steps (keptWins + 1) 0 m.takeKept

/-- Moves the stretch of the kept run that comes before the head of the other one, and that head.
The length of the stretch is given too. -/
def gallopKept (d : Direction ε α) (m : Merging α) : Except ε (Nat × Merging α) :=
  match m.heads? with
  | none => .ok (0, m)
  | some (_, o) => do
    let (stretch, kept) ← d.keptStretch o m.kept
    let moved := { m with kept, merged := stretch.reverse ++ m.merged }
    return (stretch.length, if moved.heads?.isNone then moved else moved.takeOther)

/-- Moves the stretch of the other run that comes before the head of the kept one, and that head.
The length of the stretch is given too. -/
def gallopOther (d : Direction ε α) (m : Merging α) : Except ε (Nat × Merging α) :=
  match m.heads? with
  | none => .ok (0, m)
  | some (k, _) => do
    let (stretch, other) ← d.otherStretch k m.other
    let moved := { m with other, merged := stretch.reverse ++ m.merged }
    return (stretch.length, if moved.heads?.isNone then moved else moved.takeKept)

/-- Both runs galloped through once, and the lengths of the two stretches. -/
def gallopBoth (d : Direction ε α) (m : Merging α) : Except ε (Nat × Nat × Merging α) :=
  if d.startsWithKept then do
    let (kept, m) ← m.gallopKept d
    let (other, m) ← m.gallopOther d
    return (kept, other, m)
  else do
    let (other, m) ← m.gallopOther d
    let (kept, m) ← m.gallopKept d
    return (kept, other, m)

/-- The length that one of two stretches has to have for galloping to pay. -/
def payingStretch : Nat := 7

/-- Gallops as long as it pays, and gives the new threshold too. -/
def gallopRounds (d : Direction ε α) :
    (steps threshold : Nat) → Merging α → Except ε (Nat × Merging α)
  | 0, threshold, m => .ok (threshold, m)
  | steps + 1, threshold, m => do
    let (kept, other, m) ← m.gallopBoth d
    if m.heads?.isNone then return (threshold, m)
    else if payingStretch ≤ kept || payingStretch ≤ other then
      gallopRounds d steps (max 1 (threshold - 1)) m
    else return (threshold + 1, m)

/-- Merges to the end, moving elements one by one and by stretches in turns.  The new threshold is
given too. -/
def run (d : Direction ε α) (size : Nat) :
    (steps threshold : Nat) → Merging α → Except ε (Nat × List α)
  | 0, threshold, m => .ok (threshold, m.finish)
  | steps + 1, threshold, m => do
    let m ← m.alternate d threshold size 0 0
    if m.heads?.isNone then return (threshold, m.finish)
    else
      let (threshold, m) ← m.gallopRounds d size threshold
      run d size steps threshold m

/-- Merges two runs of which the other one is known to hold the very first element. -/
def all (d : Direction ε α) (threshold : Nat) (kept other : List α) : Except ε (Nat × List α) :=
  let size := kept.length + other.length
  (Merging.takeOther { kept, other }).run d size size threshold

end Merging

/-- Merges a run and the run above it, and gives the new threshold too.  The elements at the start
of the lower run and at the end of the upper run that are in place already stay there. -/
def mergeRuns (before : α → α → Except ε Bool) (threshold : Nat) (lower upper : List α) :
    Except ε (Nat × List α) :=
  match upper with
  | [] => .ok (threshold, lower)
  | first :: _ => do
    let (bottom, lower) ← gallopUp (fails (before first)) lower
    match lower.reverse with
    | [] => return (threshold, bottom ++ upper)
    | last :: _ =>
      let (top, upper) ← gallopDown (before · last) upper.reverse
      if upper.isEmpty then return (threshold, bottom ++ lower ++ top.reverse)
      else if lower.length ≤ upper.length then
        let (threshold, middle) ← Merging.all (.up before) threshold lower upper.reverse
        return (threshold, bottom ++ middle ++ top.reverse)
      else
        let (threshold, middle) ← Merging.all (.down before) threshold upper lower.reverse
        return (threshold, bottom ++ middle.reverse ++ top.reverse)

end ManifestLint.Sorting
