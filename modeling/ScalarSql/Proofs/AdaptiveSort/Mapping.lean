import Mathlib.Data.List.Basic
import ScalarSql.AdaptiveSort
import ScalarSql.Proofs.StableSort

/-!
# Sorting by what elements show

A sort asks an order about elements and moves them, and it does nothing else with them.  So
elements that are sorted by what they show are moved as what they show would be,
`adaptiveSort_map`, in every step of the sort and whether it has a result or not.
-/

set_option autoImplicit false

namespace ScalarSql

variable {α β : Type} {below : α → α → Bool} {shown : β → β → Bool} {f : β → α}
  (same : ∀ first second, below (f first) (f second) = shown first second)

/-! ## Small sorts -/

def Merging.map (f : β → α) (merging : Merging β) : Merging α where
  taken := merging.taken.map f
  left := merging.left.map f
  right := merging.right.map f

section Small

include same

theorem orderPair_map (first second : β) :
    orderPair below (f first) (f second) = Prod.map f f (orderPair shown first second) := by
  rw [orderPair, orderPair, same]
  split <;> rfl

theorem sortFour_map (first second third fourth : β) :
    sortFour below (f first) (f second) (f third) (f fourth)
      = (sortFour shown first second third fourth).map f := by
  simp only [sortFour, orderPair_map same, Prod.map_fst, Prod.map_snd, same]
  split <;> rfl

theorem sortHalf_map (enough : Bool) (half : List β) :
    sortHalf below enough (half.map f) = (sortHalf shown enough half).map f := by
  obtain rfl : (fun first second => below (f first) (f second)) = shown := funext₂ same
  have others : stableSort below (half.map f) = _ := stableSort_map f half
  cases enough with
  | false => exact others
  | true =>
      rcases half with _ | ⟨first, _ | ⟨second, _ | ⟨third, _ | ⟨fourth, rest⟩⟩⟩⟩
      iterate 4 exact others
      simp only [sortHalf, List.map_cons, sortFour_map same, ← List.map_reverse,
        sortDescending_map]

end Small

theorem mergeSteps_map (leftFirst : α → α → Bool) (shownFirst : β → β → Bool)
    (same : ∀ left right, leftFirst (f left) (f right) = shownFirst left right)
    (steps : Nat) (lefts rights : List β) :
    mergeSteps leftFirst steps (lefts.map f) (rights.map f)
      = (mergeSteps shownFirst steps lefts rights).map f := by
  induction steps generalizing lefts rights with
  | zero => rfl
  | succ steps ih =>
      match lefts, rights with
      | [], _ => rfl
      | _ :: _, [] => rfl
      | left :: lefts, right :: rights =>
          rw [List.map_cons, List.map_cons, mergeSteps, mergeSteps, same, ← List.map_cons,
            ← List.map_cons, ih, ih]
          split <;> rfl

include same

theorem mergeFromBothEnds_map (lefts rights : List β) :
    mergeFromBothEnds below (lefts.map f) (rights.map f)
      = (mergeFromBothEnds shown lefts rights).map (List.map f) := by
  have front := mergeSteps_map (fun left right => !below right left)
    (fun left right => !shown right left) fun left right => congrArg _ (same right left)
  have back := mergeSteps_map (fun right left => !below right left)
    (fun right left => !shown right left) fun right left => congrArg _ (same right left)
  unfold mergeFromBothEnds
  rw [List.length_map, List.length_map, ← List.map_reverse, ← List.map_reverse, front, back]
  simp only [Merging.map, List.length_map]
  split
  · simp
  · rfl

theorem smallSort_map (elements : List β) :
    smallSort below (elements.map f) = (smallSort shown elements).map (List.map f) := by
  simp only [smallSort, List.length_map, ← List.map_take, ← List.map_drop, sortHalf_map same,
    mergeFromBothEnds_map same]

/-! ## Runs -/

omit same in
def Run.map (f : β → α) (run : Run β) : Run α where
  elements := run.elements.map f
  sorted := run.sorted

omit same in
theorem runLength_map (step : α → α → Bool) (shownStep : β → β → Bool)
    (same : ∀ first second, step (f first) (f second) = shownStep first second)
    (elements : List β) : runLength step (elements.map f) = runLength shownStep elements := by
  match elements with
  | [] => rfl
  | [_] => rfl
  | first :: second :: rest =>
      have ih := runLength_map step shownStep same (second :: rest)
      rw [List.map_cons] at ih
      rw [List.map_cons, List.map_cons, runLength, runLength, same, ih]

theorem descends_map (elements : List β) :
    descends below (elements.map f) = descends shown elements := by
  match elements with
  | [] => rfl
  | [_] => rfl
  | first :: second :: rest => exact same second first

theorem presortedLength_map (elements : List β) :
    presortedLength below (elements.map f) = presortedLength shown elements := by
  rw [presortedLength, presortedLength, descends_map same,
    runLength_map _ (fun first second => shown second first)
      fun first second => same second first,
    runLength_map _ (fun first second => !shown second first)
      fun first second => congrArg _ (same second first)]

theorem firstRun_map (eager : Bool) (length : Nat) (elements : List β) :
    firstRun below eager length (elements.map f)
      = (firstRun shown eager length elements).map (Run.map f) := by
  simp only [firstRun, presortedLength_map same, descends_map same, ← List.map_take,
    ← List.map_reverse, smallSort_map same]
  split
  · split <;> rfl
  · split
    · cases smallSort shown (elements.take smallLength) <;> rfl
    · rfl

theorem cutRuns_map (eager : Bool) (length : Nat) (elements : List β) :
    cutRuns below eager length (elements.map f)
      = (cutRuns shown eager length elements).map (List.map (Run.map f)) := by
  fun_induction cutRuns shown eager length elements with
  | case1 => rw [List.map_nil, cutRuns]; rfl
  | case2 first rest ih =>
      rw [List.map_cons, cutRuns, ← List.map_cons, firstRun_map same]
      cases firstRun shown eager length (first :: rest) with
      | none => rfl
      | some run =>
          have ih := ih run
          simp only [Option.map_some, Option.bind_eq_bind, Option.bind_some, Run.map,
            List.length_map, ← List.map_drop, ih]
          cases cutRuns shown eager length (rest.drop (run.elements.length - 1)) <;> rfl

theorem mergeSorted_map (lefts rights : List β) :
    mergeSorted below (lefts.map f) (rights.map f) = (mergeSorted shown lefts rights).map f := by
  have notBelow : ∀ first second, (!shown first second) = !below (f first) (f second) :=
    fun first second => congrArg _ (same first second).symm
  rw [mergeSorted, mergeSorted, List.length_map, List.length_map]
  split
  · exact (List.map_merge fun left _ right _ => notBelow right left).symm
  · have backwards : (List.merge rights.reverse lefts.reverse
        fun right left => !shown right left).map f
          = List.merge (rights.reverse.map f) (lefts.reverse.map f)
            fun right left => !below right left :=
      List.map_merge fun right _ left _ => notBelow right left
    rw [← List.map_reverse, ← List.map_reverse, ← backwards, ← List.map_reverse]

section Joining

variable {quick : List α → Option (List α)} {shownQuick : List β → Option (List β)}
  (sameQuick : ∀ part, quick (part.map f) = (shownQuick part).map (List.map f))

include sameQuick

omit same in
theorem settle_map (run : Run β) :
    (run.map f).settle quick = (run.settle shownQuick).map (List.map f) := by
  unfold Run.settle Run.map
  dsimp only
  split
  · rfl
  · exact sameQuick run.elements

theorem joinRuns_map (room : Nat) (left right : Run β) :
    joinRuns below quick room (left.map f) (right.map f)
      = (joinRuns shown shownQuick room left right).map (Run.map f) := by
  simp only [joinRuns, settle_map sameQuick]
  simp only [Run.map, List.length_map]
  split
  · cases left.settle shownQuick with
    | none => rfl
    | some lefts =>
        cases right.settle shownQuick with
        | none => rfl
        | some rights =>
            simp only [Option.map_some, Option.bind_eq_bind, Option.bind_some,
              mergeSorted_map same, Run.map]
  · simp [Run.map]

theorem joinDeeper_map (room depth : Nat) (run : Run β) (before : List (Run β × Nat)) :
    joinDeeper below quick room depth (run.map f) (before.map (Prod.map (Run.map f) id))
      = (joinDeeper shown shownQuick room depth run before).map
          (Prod.map (Run.map f) (List.map (Prod.map (Run.map f) id))) := by
  induction before generalizing run with
  | nil => rfl
  | cons entry rest ih =>
      obtain ⟨earlierRun, place⟩ := entry
      rw [List.map_cons, Prod.map_apply, id_eq, joinDeeper, joinDeeper, joinRuns_map same sameQuick]
      split
      · cases joinRuns shown shownQuick room earlierRun run with
        | none => rfl
        | some joined => exact ih joined
      · rfl

theorem joinAll_map (room total stop : Nat) (run : Run β) (before : List (Run β × Nat))
    (runs : List (Run β)) :
    joinAll below quick room total stop (run.map f) (before.map (Prod.map (Run.map f) id))
        (runs.map (Run.map f))
      = (joinAll shown shownQuick room total stop run before runs).map (Run.map f) := by
  induction runs generalizing stop run before with
  | nil =>
      rw [List.map_nil, joinAll, joinAll, joinDeeper_map same sameQuick]
      cases joinDeeper shown shownQuick room 0 run before <;> rfl
  | cons next rest ih =>
      rw [List.map_cons, joinAll, joinAll, joinDeeper_map same sameQuick]
      have lengths : ∀ run : Run β, (run.map f).elements.length = run.elements.length :=
        fun run => List.length_map f
      rw [lengths, lengths]
      cases joinDeeper shown shownQuick room _ run before with
      | none => rfl
      | some joined => exact ih _ next ((joined.1, _) :: joined.2)

theorem sortRuns_map (eager : Bool) (elements : List β) :
    sortRuns below quick eager (elements.map f)
      = (sortRuns shown shownQuick eager elements).map (List.map f) := by
  rw [sortRuns, sortRuns, List.length_map, cutRuns_map same]
  match cutRuns shown eager (goodLength elements.length) elements with
  | none => rfl
  | some [] => rfl
  | some (first :: rest) =>
      have joined := joinAll_map same sameQuick (roomFor elements.length) elements.length
        first.elements.length first [] rest
      rw [List.map_nil] at joined
      simp only [Option.map_some, Option.bind_eq_bind, Option.bind_some, List.map_cons]
      rw [show (first.map f).elements.length = first.elements.length from List.length_map f, joined]
      cases joinAll shown shownQuick _ _ _ first [] rest with
      | none => rfl
      | some whole => exact settle_map sameQuick whole

end Joining

/-! ## Division -/

theorem pivotPosition_map (elements : List β) :
    pivotPosition below (elements.map f) = pivotPosition shown elements := by
  have sameAt : belowAt below (elements.map f) = belowAt shown elements := by
    funext first second
    rw [belowAt, belowAt, List.getElem?_map, List.getElem?_map]
    cases elements[first]? with
    | none => rfl
    | some left =>
        cases elements[second]? with
        | none => rfl
        | some right => exact same left right
  rw [pivotPosition, pivotPosition, List.length_map, sameAt]

omit same in
theorem divide_map (goesLeft : α → Bool) (shownLeft : β → Bool) (position : Nat) (stays : Bool)
    (same : ∀ element, goesLeft (f element) = shownLeft element) (elements : List β) :
    divide position stays goesLeft (elements.map f)
      = Prod.map (List.map f) (List.map f) (divide position stays shownLeft elements) := by
  have asked : (fun entry : α × Nat => if entry.2 = position then stays else goesLeft entry.1)
      ∘ Prod.map f id = fun entry => if entry.2 = position then stays else shownLeft entry.1 := by
    funext entry
    simp [same]
  unfold divide
  rw [List.zipIdx_map, List.partition_eq_filter_filter, List.partition_eq_filter_filter]
  simp only [List.filter_map, Function.comp_assoc, asked, List.map_map, Prod.map_apply]
  rfl

theorem quickSort_map (divisions : Nat) (outer : Option β) (elements : List β) :
    quickSort below divisions (outer.map f) (elements.map f)
      = (quickSort shown divisions outer elements).map (List.map f) := by
  induction divisions generalizing outer elements with
  | zero =>
      rw [quickSort, quickSort, List.length_map]
      split
      · exact smallSort_map same elements
      · exact sortRuns_map same (smallSort_map same) true elements
  | succ divisions ih =>
      rw [quickSort, quickSort, List.length_map]
      split
      · exact smallSort_map same elements
      · dsimp only
        rw [pivotPosition_map same, List.getElem?_map]
        cases elements[pivotPosition shown elements]? with
        | none => rfl
        | some pivot =>
            dsimp only [Option.map_some]
            rw [divide_map (below · (f pivot)) (shown · pivot) _ _ (same · pivot),
              divide_map (!below (f pivot) ·) (!shown pivot ·) _ _
                fun element => congrArg _ (same pivot element)]
            have asked : (outer.map f).all (below · (f pivot)) = outer.all (shown · pivot) := by
              cases outer <;> simp [same]
            rcases divide (pivotPosition shown elements) false (shown · pivot) elements
              with ⟨lower, others⟩
            rcases divide (pivotPosition shown elements) true (!shown pivot ·) elements
              with ⟨equal, higher⟩
            simp only [Prod.map_apply, asked, List.isEmpty_map]
            split
            · have right := ih (some pivot) others
              rw [Option.map_some] at right
              rw [right, ih]
              cases quickSort shown divisions (some pivot) others with
              | none => rfl
              | some right => cases quickSort shown divisions outer lower <;> simp
            · have right := ih none higher
              rw [Option.map_none] at right
              rw [right]
              cases quickSort shown divisions none higher <;> simp

/-- **A sort moves elements by what they show.** -/
theorem adaptiveSort_map (elements : List β) :
    adaptiveSort below (elements.map f) = (adaptiveSort shown elements).map (List.map f) := by
  obtain rfl : (fun first second => below (f first) (f second)) = shown := funext₂ same
  rw [adaptiveSort, adaptiveSort, List.length_map]
  split
  · rw [stableSort_map]
    rfl
  · refine sortRuns_map same (fun part => ?_) _ elements
    rw [List.length_map]
    exact quickSort_map same _ none part

end ScalarSql
