import ScalarSql.Proofs.AdaptiveSort.Small

/-!
# Sorting by runs

A run is sorted already, or it has the elements of its part of the list as they come in,
`Run.Holds`.  Cutting the list into runs keeps the parts in their order, `Lined`, and so does
joining them: the runs before the current one are kept with the last one first, `Stacked`.  Which
runs are joined does not matter for the result.
-/

set_option autoImplicit false

namespace ScalarSql

variable {α : Type} {below : α → α → Bool} {earlier : α → α → Prop}

/-- A run with the elements of a part of the list. -/
def Run.Holds (below : α → α → Bool) (earlier : α → α → Prop) (run : Run α) (source : List α) :
    Prop :=
  if run.sorted then Arranges below earlier source run.elements else run.elements = source

/-- Runs with the elements of a list. -/
inductive Lined (below : α → α → Bool) (earlier : α → α → Prop) : List (Run α) → List α → Prop
  | nil : Lined below earlier [] []
  | cons {run : Run α} {rest : List (Run α)} {own others : List α} :
      run.Holds below earlier own → Lined below earlier rest others →
        Lined below earlier (run :: rest) (own ++ others)

/-- Runs with the elements of a list, the last of which comes first. -/
inductive Stacked (below : α → α → Bool) (earlier : α → α → Prop) :
    List (Run α × Nat) → List α → Prop
  | nil : Stacked below earlier [] []
  | cons {run : Run α} (place : Nat) {rest : List (Run α × Nat)} {others own : List α} :
      Stacked below earlier rest others → run.Holds below earlier own →
        Stacked below earlier ((run, place) :: rest) (others ++ own)

namespace Run.Holds

variable {run : Run α} {source : List α}

theorem length_eq (holds : run.Holds below earlier source) :
    run.elements.length = source.length := by
  unfold Run.Holds at holds
  split at holds
  · exact holds.perm.length_eq
  · exact congrArg List.length holds

theorem of_arranges {elements : List α} (arranges : Arranges below earlier source elements) :
    Run.Holds below earlier ⟨elements, true⟩ source :=
  arranges

end Run.Holds

/-! ## Cutting -/

theorem runLength_pos (step : α → α → Bool) {elements : List α} (some : elements ≠ []) :
    0 < runLength step elements := by
  match elements with
  | [_] => exact Nat.one_pos
  | first :: second :: rest =>
      rw [runLength]
      split <;> omega

theorem pairwise_take_runLength (step : α → α → Bool)
    (trans : ∀ first second third, step first second = true → step second third = true →
      step first third = true) (elements : List α) :
    (elements.take (runLength step elements)).Pairwise fun first second =>
      step first second = true := by
  match elements with
  | [] => exact .nil
  | [_] => exact List.pairwise_singleton _ _
  | first :: second :: rest =>
      have ih := pairwise_take_runLength step trans (second :: rest)
      rw [runLength]
      split
      · next here =>
          refine List.pairwise_cons.mpr ⟨fun other member => ?_, ih⟩
          obtain ⟨length, length_eq⟩ := Nat.exists_eq_succ_of_ne_zero
            (runLength_pos step (List.cons_ne_nil second rest)).ne'
          rw [length_eq, List.take_succ_cons] at member ih
          rcases List.mem_cons.mp member with rfl | later
          · exact here
          · exact trans _ _ _ here ((List.pairwise_cons.mp ih).1 other later)
      · exact List.pairwise_singleton _ _

/-- Elements that go down are sorted when they are reversed, and others as they stand. -/
theorem arranges_presorted {elements : List α} (inOrder : elements.Pairwise earlier) :
    Arranges below earlier (elements.take (presortedLength below elements))
      (if descends below elements then (elements.take (presortedLength below elements)).reverse
        else elements.take (presortedLength below elements)) := by
  unfold presortedLength
  split
  · refine ⟨List.reverse_perm _, fun consistent => List.pairwise_reverse.mpr ?_⟩
    have down := pairwise_take_runLength (fun first second => below second first)
      (fun first second third lower next =>
        consistent.below_of_below next (consistent.asymm second first lower)) elements
    exact down.imp fun isBelow => .inl isBelow
  · refine ⟨.refl _, fun consistent => ?_⟩
    have notDown := pairwise_take_runLength (fun first second => !below second first)
      (fun first second third => by
        simpa using fun here next => consistent.trans third second first next here) elements
    exact notDown.imp₂ (fun _ _ notBelow before => .inr ⟨by simpa using notBelow, before⟩)
      (inOrder.sublist (List.take_sublist _ _))

/-- A run that a list starts with. -/
def Run.Starts (below : α → α → Bool) (earlier : α → α → Prop) (elements : List α)
    (run : Run α) : Prop :=
  ∃ count, 0 < count ∧ run.Holds below earlier (elements.take count)

section Cutting

variable (oneWay : ∀ first second, earlier first second → ¬ earlier second first)

include oneWay

theorem settles_firstRun (eager : Bool) (length : Nat) {elements : List α}
    (some : elements ≠ []) (inOrder : elements.Pairwise earlier) :
    Settles below (Run.Starts below earlier elements)
      (firstRun below eager length elements) := by
  have positive : 0 < presortedLength below elements := by
    unfold presortedLength
    split <;> exact runLength_pos _ some
  unfold firstRun
  split
  · exact ⟨_, positive, .of_arranges (arranges_presorted inOrder)⟩
  · split
    · exact (settles_smallSort oneWay (inOrder.sublist (List.take_sublist _ _))).map
        fun sorted arranges => ⟨smallLength, by decide, .of_arranges arranges⟩
    · exact ⟨length, by omega, rfl⟩

theorem settles_cutRuns (eager : Bool) (length : Nat) {elements : List α}
    (inOrder : elements.Pairwise earlier) :
    Settles below (Lined below earlier · elements) (cutRuns below eager length elements) := by
  fun_induction cutRuns below eager length elements with
  | case1 => exact .nil
  | case2 first rest ih =>
      refine (settles_firstRun oneWay eager length (List.cons_ne_nil first rest) inOrder).bind
        fun run ⟨count, positive, holds⟩ => ?_
      have rest_eq : rest.drop (run.elements.length - 1) = (first :: rest).drop count := by
        obtain ⟨others, rfl⟩ := Nat.exists_eq_succ_of_ne_zero positive.ne'
        rw [holds.length_eq, List.drop_succ_cons, List.drop_eq_drop_iff]
        simp
      refine (ih run (rest_eq ▸ inOrder.sublist (List.drop_sublist _ _))).bind fun runs lined => ?_
      have whole := Lined.cons holds lined
      rwa [rest_eq, List.take_append_drop] at whole

end Cutting

/-! ## Joining -/

section Joining

variable {quick : List α → Option (List α)}
  (sorts : ∀ part : List α, part.Pairwise earlier →
    Settles below (Arranges below earlier part) (quick part))

include sorts

theorem settles_settle {run : Run α} {source : List α} (holds : run.Holds below earlier source)
    (inOrder : source.Pairwise earlier) :
    Settles below (Arranges below earlier source) (run.settle quick) := by
  unfold Run.Holds at holds
  unfold Run.settle
  split
  · next sorted =>
      rw [if_pos sorted] at holds
      exact holds
  · next notSorted =>
      rw [if_neg notSorted] at holds
      exact holds ▸ sorts _ (holds ▸ inOrder)

/-- **Two neighbouring runs** make one with the elements of both. -/
theorem settles_joinRuns (room : Nat) {left right : Run α} {lefts rights : List α}
    (leftHolds : left.Holds below earlier lefts) (rightHolds : right.Holds below earlier rights)
    (inOrder : (lefts ++ rights).Pairwise earlier) :
    Settles below (Run.Holds below earlier · (lefts ++ rights))
      (joinRuns below quick room left right) := by
  obtain ⟨leftInOrder, rightInOrder, -⟩ := List.pairwise_append.mp inOrder
  unfold joinRuns
  split
  · exact (settles_settle sorts leftHolds leftInOrder).bind fun settledLeft leftArranges =>
      (settles_settle sorts rightHolds rightInOrder).bind fun settledRight rightArranges =>
        .of_arranges (arranges_mergeSorted leftArranges rightArranges inOrder)
  · next pending =>
      simp only [Bool.or_eq_true, not_or, Bool.not_eq_true] at pending
      simp only [Run.Holds, pending.1.1, pending.1.2] at leftHolds rightHolds
      exact congrArg₂ (· ++ ·) leftHolds rightHolds

/-- The runs that are left are stacked below the joined one; at depth 0 there are none. -/
theorem settles_joinDeeper (room depth : Nat) {run : Run α} {before : List (Run α × Nat)}
    {source : List α} {place : Nat}
    (stacked : Stacked below earlier ((run, place) :: before) source)
    (inOrder : source.Pairwise earlier) :
    Settles below (fun joined => Stacked below earlier ((joined.1, depth) :: joined.2) source ∧
        (depth = 0 → joined.2 = []))
      (joinDeeper below quick room depth run before) := by
  induction before generalizing run place with
  | nil =>
      cases stacked with
      | cons _ empty holds => exact ⟨.cons depth empty holds, fun _ => rfl⟩
  | cons entry rest ih =>
      obtain ⟨earlierRun, earlierPlace⟩ := entry
      cases stacked with
      | cons _ stacked holds =>
          unfold joinDeeper
          split
          · cases stacked with
            | cons _ stacked earlierHolds =>
                have parts := List.append_assoc _ _ _ ▸ inOrder
                refine (settles_joinRuns sorts room earlierHolds holds
                  (List.pairwise_append.mp parts).2.1).bind fun joined joinedHolds => ?_
                have whole := Stacked.cons earlierPlace stacked joinedHolds
                rw [← List.append_assoc] at whole
                exact ih whole
          · next lower => exact ⟨.cons depth stacked holds, fun top => absurd (by omega) lower⟩

theorem settles_joinAll (room total stop : Nat) {run : Run α} {before : List (Run α × Nat)}
    {place : Nat} {source : List α} {runs : List (Run α)} {others : List α}
    (stacked : Stacked below earlier ((run, place) :: before) source)
    (lined : Lined below earlier runs others) (inOrder : (source ++ others).Pairwise earlier) :
    Settles below (Run.Holds below earlier · (source ++ others))
      (joinAll below quick room total stop run before runs) := by
  induction lined generalizing stop run before place source with
  | nil =>
      rw [List.append_nil] at inOrder ⊢
      refine (settles_joinDeeper sorts room 0 stacked inOrder).map fun joined ⟨stacked, alone⟩ => ?_
      rw [alone rfl] at stacked
      cases stacked with
      | cons _ empty holds =>
          cases empty
          exact holds
  | cons holds lined ih =>
      rw [← List.append_assoc] at inOrder ⊢
      exact (settles_joinDeeper sorts room _ stacked
        (List.pairwise_append.mp (List.pairwise_append.mp inOrder).1).1).bind
          fun joined ⟨stacked, _⟩ => ih _ (.cons 0 stacked holds) inOrder

end Joining

/-- **Sorting by runs** sorts, and has a result if the order is consistent. -/
theorem settles_sortRuns (oneWay : ∀ first second, earlier first second → ¬ earlier second first)
    {quick : List α → Option (List α)}
    (sorts : ∀ part : List α, part.Pairwise earlier →
      Settles below (Arranges below earlier part) (quick part))
    (eager : Bool) {elements : List α} (inOrder : elements.Pairwise earlier) :
    Settles below (Arranges below earlier elements) (sortRuns below quick eager elements) := by
  refine (settles_cutRuns oneWay eager _ inOrder).bind fun runs lined => ?_
  cases lined with
  | nil => exact ⟨.nil, fun _ => .nil⟩
  | cons holds lined =>
      exact (settles_joinAll sorts _ _ _ (.cons 0 .nil holds) lined inOrder).bind
        fun whole holds => settles_settle sorts holds inOrder

end ScalarSql
