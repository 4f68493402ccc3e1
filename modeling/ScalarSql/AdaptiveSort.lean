import ScalarSql.Number.Natural
import ScalarSql.StableSort

/-!
# Sorting lists of any length

Few elements are sorted by insertion, more of them by runs.  Runs that are not sorted as they
stand are divided around a pivot again and again until they are small.  After too many
divisions the sort goes on by runs, eagerly.

The order is given as a comparison of two elements.  A list that is sorted by a consistent order
is `stableSort`; with any other order the elements may be rearranged in some way, or the sort
gives up.
-/

set_option autoImplicit false

namespace ScalarSql

variable {α : Type}

/-!
## Small lists

A small list is sorted in two halves, which are then merged from both ends at once: as many
smallest elements as the first half has are taken from the front, and as many greatest ones
from the back.  Neither end looks at what the other one takes.  In an order that is consistent
they never meet, and at most one element is left for the place between them.  In any other
order both may take the same element; then the sort gives up.
-/

section Small

variable (below : α → α → Bool)

/-- Two elements, with the second one first if it is below the other one. -/
def orderPair (first second : α) : α × α :=
  if below second first then (second, first) else (first, second)

/-- Four elements in ascending order.  The lower and the higher elements of two pairs give the
least and the greatest one; the two that remain are ordered last, the one that came first on
the left. -/
def sortFour (first second third fourth : α) : List α :=
  let left := orderPair below first second
  let right := orderPair below third fourth
  match below right.1 left.1, below right.2 left.2 with
  | false, false =>
      let inner := orderPair below left.2 right.1
      [left.1, inner.1, inner.2, right.2]
  | false, true =>
      let inner := orderPair below right.1 right.2
      [left.1, inner.1, inner.2, left.2]
  | true, false =>
      let inner := orderPair below left.1 left.2
      [right.1, inner.1, inner.2, right.2]
  | true, true =>
      let inner := orderPair below left.1 right.2
      [right.1, inner.1, inner.2, left.2]

/-- One half in ascending order: its first four elements together, if there are enough of them,
and the others one by one. -/
def sortHalf (enough : Bool) (half : List α) : List α :=
  match enough, half with
  | true, first :: second :: third :: fourth :: rest =>
      (sortDescending below (sortFour below first second third fourth).reverse rest).reverse
  | _, half => stableSort below half

/-- What the first steps of a merge have taken from two lists, and what they have left of
each. -/
structure Merging (α : Type) where
  taken : List α
  left : List α
  right : List α

/-- The first steps of a merge.  A step takes the first element of the left list if `leftFirst`
puts it before the first one of the right list. -/
def mergeSteps (leftFirst : α → α → Bool) : Nat → List α → List α → Merging α
  | steps + 1, left :: lefts, right :: rights =>
      if leftFirst left right then
        let rest := mergeSteps leftFirst steps lefts (right :: rights)
        { rest with taken := left :: rest.taken }
      else
        let rest := mergeSteps leftFirst steps (left :: lefts) rights
        { rest with taken := right :: rest.taken }
  | _, lefts, rights => { taken := [], left := lefts, right := rights }

/-- Two sorted lists merged from both ends, the second of which is at most one element longer.
There is no result if the two ends take the same element. -/
def mergeFromBothEnds (lefts rights : List α) : Option (List α) :=
  let front := mergeSteps (fun left right => !below right left) lefts.length lefts rights
  let back := mergeSteps (fun right left => !below right left) lefts.length
    rights.reverse lefts.reverse
  let untakenLefts := front.left.length + back.right.length
  let untakenRights := front.right.length + back.left.length
  if lefts.length ≤ untakenLefts ∧ rights.length ≤ untakenRights then
    some (front.taken ++ (front.left.take (untakenLefts - lefts.length)
      ++ front.right.take (untakenRights - rights.length)) ++ back.taken.reverse)
  else none

/-- A small list in ascending order. -/
def smallSort (elements : List α) : Option (List α) :=
  let half := elements.length / 2
  let enough := decide (8 ≤ elements.length)
  mergeFromBothEnds below (sortHalf below enough (elements.take half))
    (sortHalf below enough (elements.drop half))

end Small

/-!
## Runs

A list is cut into runs: stretches that are sorted as they stand, and others that are sorted
later or, if the sort is eager, at once and in small pieces.  Neighbouring runs are joined until
one is left.  Which ones are joined first depends on where they meet, as in a balanced tree over
the whole list.  Runs that are both not sorted are joined without looking at them.
-/

section Runs

/-- Consecutive elements that are sorted already or still have to be. -/
structure Run (α : Type) where
  elements : List α
  sorted : Bool

/-- The elements of a run in ascending order; `quick` sorts those that are not sorted yet. -/
def Run.settle (quick : List α → Option (List α)) (run : Run α) : Option (List α) :=
  if run.sorted then some run.elements else quick run.elements

/-- How many elements there are before the first step of another kind. -/
def runLength (step : α → α → Bool) : List α → Nat
  | [] => 0
  | [_] => 1
  | first :: second :: rest =>
      if step first second then runLength step (second :: rest) + 1 else 1

variable (below : α → α → Bool)

/-- Whether the elements start with a step down. -/
def descends : List α → Bool
  | first :: second :: _ => below second first
  | _ => false

/-- How many elements go down like the first two of them, or do not go down. -/
def presortedLength (elements : List α) : Nat :=
  if descends below elements then runLength (fun first second => below second first) elements
  else runLength (fun first second => !below second first) elements

/-- How many elements are sorted at once by an eager sort. -/
def smallLength : Nat := 32

/-- The run that a list starts with.  Elements that are sorted as they stand are a run if there
are as many of them as the given length; otherwise a run has that length, and with an eager
sort the small one. -/
def firstRun (eager : Bool) (length : Nat) (elements : List α) : Option (Run α) :=
  let presorted := elements.take (presortedLength below elements)
  if length ≤ presortedLength below elements then
    some ⟨if descends below elements then presorted.reverse else presorted, true⟩
  else if eager then
    (smallSort below (elements.take smallLength)).map fun sorted => ⟨sorted, true⟩
  else some ⟨elements.take length, false⟩

/-- The runs of a list. -/
def cutRuns (eager : Bool) (length : Nat) : List α → Option (List (Run α))
  | [] => some []
  | first :: rest => do
      let run ← firstRun below eager length (first :: rest)
      let runs ← cutRuns eager length (rest.drop (run.elements.length - 1))
      some (run :: runs)
  termination_by elements => elements.length

/-- How long a run of a list with the given number of elements should be. -/
def goodLength (total : Nat) : Nat :=
  if total ≤ 4096 then min (total - total / 2) 64
  else
    let half := (1 + Nat.log2 total) / 2
    (twoPow half + total / twoPow half) / 2

/-- Two sorted lists merged.  The merge starts from the front if the first list is not longer,
and from the back otherwise. -/
def mergeSorted (lefts rights : List α) : List α :=
  if lefts.length ≤ rights.length then
    List.merge lefts rights fun left right => !below right left
  else
    (List.merge rights.reverse lefts.reverse fun right left => !below right left).reverse

variable (quick : List α → Option (List α))

/-- Two neighbouring runs as one.  They are sorted unless neither of them is and there is room
to sort both of them later. -/
def joinRuns (room : Nat) (left right : Run α) : Option (Run α) :=
  if left.sorted || right.sorted || decide (room < left.elements.length + right.elements.length)
  then do
    let lefts ← left.settle quick
    let rights ← right.settle quick
    some ⟨mergeSorted below lefts rights, true⟩
  else some ⟨left.elements ++ right.elements, false⟩

/-- Joins a run with those before it, the last of which comes first, as long as the places
where they meet are at least as deep as a given one. -/
def joinDeeper (room depth : Nat) (run : Run α) :
    List (Run α × Nat) → Option (Run α × List (Run α × Nat))
  | [] => some (run, [])
  | (before, place) :: rest =>
      if depth ≤ place then do
        let joined ← joinRuns below quick room before run
        joinDeeper room depth joined rest
      else some (run, (before, place) :: rest)

/-- How many zeros the binary numeral of a number has in front when it is written with 64
digits. -/
def leadingZeros (number : Nat) : Nat :=
  if number = 0 then 64 else 63 - Nat.log2 number

/-- How deep in a balanced tree over all elements two runs meet, given where the first one
starts, where it ends and where the second one ends. -/
def meetingDepth (total start middle stop : Nat) : Nat :=
  let scale := (twoPow 62 + total - 1) / total
  leadingZeros ((scale * (start + middle)) ^^^ (scale * (middle + stop)))

/-- Joins a run, the runs before it and those after it into one; `stop` is the position where
the run ends. -/
def joinAll (room total stop : Nat) (run : Run α) (before : List (Run α × Nat)) :
    List (Run α) → Option (Run α)
  | [] => (joinDeeper below quick room 0 run before).map Prod.fst
  | next :: rest => do
      let length := next.elements.length
      let depth := meetingDepth total (stop - run.elements.length) stop (stop + length)
      let (joined, others) ← joinDeeper below quick room depth run before
      joinAll room total (stop + length) next ((joined, depth) :: others) rest

/-- How many elements of a list are sorted together without a merge, at most. -/
def roomFor (total : Nat) : Nat :=
  max (total - total / 2) (min total 166666)

/-- A list in ascending order, sorted by runs. -/
def sortRuns (eager : Bool) (elements : List α) : Option (List α) := do
  let total := elements.length
  match ← cutRuns below eager (goodLength total) elements with
  | [] => some []
  | first :: rest =>
      let whole ← joinAll below quick (roomFor total) total first.elements.length first [] rest
      whole.settle quick

end Runs

/-!
## Division

The pivot that a list is divided around stands in the middle of three others, each of which may
have been chosen in the same way.
-/

section Division

/-- The middle one of three positions in an order of positions. -/
def medianOfThree (lower : Nat → Nat → Bool) (first second third : Nat) : Nat :=
  if lower first second == lower first third then
    if lower second third ^^ lower first second then third else second
  else first

/-- A position near the middle of three stretches that start at the given positions. -/
def medianOfStretches (lower : Nat → Nat → Bool) (width first second third : Nat) : Nat :=
  if 64 ≤ 8 * width then
    let part := width / 8
    let median := fun start =>
      medianOfStretches lower part start (start + 4 * part) (start + 7 * part)
    medianOfThree lower (median first) (median second) (median third)
  else medianOfThree lower first second third
  termination_by width

variable (below : α → α → Bool)

/-- Whether the element at one position is below the one at another position. -/
def belowAt (elements : List α) (first second : Nat) : Bool :=
  match elements[first]?, elements[second]? with
  | some left, some right => below left right
  | _, _ => false

/-- The position of the element that a list is divided around. -/
def pivotPosition (elements : List α) : Nat :=
  let width := elements.length / 8
  medianOfStretches (belowAt below elements) width 0 (4 * width) (7 * width)

/-- The elements on the left and those on the right, both in the order they come in.  The
element at one position is not asked where it goes. -/
def divide (position : Nat) (stays : Bool) (goesLeft : α → Bool) (elements : List α) :
    List α × List α :=
  let (lefts, rights) := elements.zipIdx.partition fun (element, index) =>
    if index = position then stays else goesLeft element
  (lefts.map Prod.fst, rights.map Prod.fst)

/-- A list in ascending order, sorted by division.  A pivot that is below no other element, as
is certain when it is not above the one whose right side is sorted here, has all that tie with
it on its left, and these are in order. -/
def quickSort : Nat → Option α → List α → Option (List α)
  | divisions, outer, elements =>
      if elements.length ≤ smallLength then smallSort below elements
      else
        match divisions with
        | 0 => sortRuns below (smallSort below) true elements
        | divisions + 1 =>
            let position := pivotPosition below elements
            match elements[position]? with
            | none => some elements
            | some pivot =>
                let (lower, others) := divide position false (below · pivot) elements
                if outer.all (below · pivot) && !lower.isEmpty then do
                  let right ← quickSort divisions (some pivot) others
                  let left ← quickSort divisions outer lower
                  some (left ++ right)
                else do
                  let (equal, higher) := divide position true (!below pivot ·) elements
                  let right ← quickSort divisions none higher
                  some (equal ++ right)

/-- A list in ascending order, in which elements that tie keep their order; there is no result
if the sort finds that the order contradicts itself. -/
def adaptiveSort (elements : List α) : Option (List α) :=
  if elements.length ≤ 20 then some (stableSort below elements)
  else
    let quick := fun part => quickSort below (2 * Nat.log2 part.length) none part
    sortRuns below quick (decide (elements.length ≤ 2 * smallLength)) elements

end Division

end ScalarSql
