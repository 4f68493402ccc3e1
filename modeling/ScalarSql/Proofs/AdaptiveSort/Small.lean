import ScalarSql.Proofs.AdaptiveSort.Merging

/-!
# Small sorts

The two halves of a small list are sorted by insertion, after four elements at once, and then
merged.
-/

set_option autoImplicit false

namespace ScalarSql

variable {α : Type} {below : α → α → Bool} {earlier : α → α → Prop}

/-! ## Insertion -/

theorem arranges_sortDescending (source : List α) {rest arranged : List α}
    (start : Arranges below earlier source arranged)
    (inOrder : (source ++ rest).Pairwise earlier) :
    Arranges below earlier (source ++ rest)
      (sortDescending below arranged.reverse rest).reverse where
  perm := (List.reverse_perm _).trans ((sortDescending_perm below _ rest).trans
    (((List.reverse_perm arranged).trans start.perm).append_right rest))
  sorted consistent := by
    obtain ⟨-, restInOrder, later⟩ := List.pairwise_append.mp inOrder
    refine List.pairwise_reverse.mpr (sortDescending_pairwise consistent.trans
      (fun element inRest other member => ?_) restInOrder ?_)
    · exact later other (start.perm.mem_iff.mp (List.mem_reverse.mp member)) element inRest
    · exact List.pairwise_reverse.mpr (start.sorted consistent)

theorem arranges_stableSort {source : List α} (inOrder : source.Pairwise earlier) :
    Arranges below earlier source (stableSort below source) :=
  arranges_sortDescending [] ⟨.refl _, fun _ => .nil⟩ inOrder

/-! ## Four elements -/

section Four

variable {first second third fourth : α}

theorem orderPair_cases (below : α → α → Bool) (first second : α) :
    orderPair below first second = (first, second) ∨
      orderPair below first second = (second, first) := by
  unfold orderPair
  split
  · exact .inr rfl
  · exact .inl rfl

theorem orderPair_perm (below : α → α → Bool) (first second : α) :
    [(orderPair below first second).1, (orderPair below first second).2].Perm [first, second] := by
  rcases orderPair_cases below first second with kept | swapped
  · rw [kept]
  · rw [swapped]
    exact .swap _ _ _

theorem precedes_orderPair
    (inOrder : below second first = false → Precedes below earlier first second) :
    Precedes below earlier (orderPair below first second).1 (orderPair below first second).2 := by
  unfold orderPair
  cases isBelow : below second first with
  | true => exact .inl isBelow
  | false => exact inOrder isBelow

/-- Two elements are sorted between two others if they are sorted among themselves. -/
theorem pairwise_around {related : α → α → Prop} {least greatest left right : α}
    {inner : α × α} (same : inner = (left, right) ∨ inner = (right, left))
    (ordered : related inner.1 inner.2) (ends : related least greatest)
    (afterLeast : related least left ∧ related least right)
    (beforeGreatest : related left greatest ∧ related right greatest) :
    [least, inner.1, inner.2, greatest].Pairwise related := by
  rcases same with rfl | rfl <;> simp_all

/-- Two sorted pairs, the elements of the first of which came first. -/
theorem pairwise_sortFour {low high nextLow nextHigh : α} (consistent : IsConsistent below)
    (left : orderPair below first second = (low, high))
    (right : orderPair below third fourth = (nextLow, nextHigh))
    (lowFirst : Precedes below earlier low high)
    (nextLowFirst : Precedes below earlier nextLow nextHigh)
    (lowEarlier : earlier low nextLow ∧ earlier low nextHigh)
    (highEarlier : earlier high nextLow ∧ earlier high nextHigh) :
    (sortFour below first second third fourth).Pairwise (Precedes below earlier) := by
  have tied : ∀ {left right : α}, earlier left right → below right left = false →
      Precedes below earlier left right := fun before notBelow => .inr ⟨notBelow, before⟩
  rw [sortFour, left, right]
  dsimp only
  cases lows : below nextLow low with
  | false =>
      have afterLow := tied lowEarlier.1 lows
      cases highs : below nextHigh high with
      | false =>
          have beforeNext := tied highEarlier.2 highs
          exact pairwise_around (orderPair_cases _ _ _) (precedes_orderPair (tied highEarlier.1))
            (lowFirst.trans consistent beforeNext fun _ => lowEarlier.2) ⟨lowFirst, afterLow⟩
            ⟨beforeNext, nextLowFirst⟩
      | true =>
          have belowHigh := consistent.below_of_not_below (nextLowFirst.not_below consistent) highs
          exact pairwise_around (orderPair_cases _ _ _) (precedes_orderPair fun _ => nextLowFirst)
            lowFirst ⟨afterLow, afterLow.trans consistent nextLowFirst fun _ => lowEarlier.2⟩
            ⟨.inl belowHigh, .inl highs⟩
  | true =>
      have belowHigh := consistent.below_of_below lows (lowFirst.not_below consistent)
      cases highs : below nextHigh high with
      | false =>
          have beforeNext := tied highEarlier.2 highs
          exact pairwise_around (orderPair_cases _ _ _) (precedes_orderPair fun _ => lowFirst)
            nextLowFirst ⟨.inl lows, .inl belowHigh⟩
            ⟨lowFirst.trans consistent beforeNext fun _ => lowEarlier.2, beforeNext⟩
      | true =>
          exact pairwise_around (orderPair_cases _ _ _) (precedes_orderPair (tied lowEarlier.2))
            (.inl belowHigh) ⟨.inl lows, nextLowFirst⟩ ⟨lowFirst, .inl highs⟩

theorem sortFour_perm (first second third fourth : α) :
    (sortFour below first second third fourth).Perm [first, second, third, fourth] := by
  rcases left : orderPair below first second with ⟨low, high⟩
  rcases right : orderPair below third fourth with ⟨nextLow, nextHigh⟩
  have pairs : [low, high, nextLow, nextHigh].Perm [first, second, third, fourth] := by
    have lefts := orderPair_perm below first second
    have rights := orderPair_perm below third fourth
    rw [left] at lefts
    rw [right] at rights
    exact lefts.append rights
  have around : ∀ least left right greatest : α, [least, (orderPair below left right).1,
      (orderPair below left right).2, greatest].Perm [least, left, right, greatest] :=
    fun least left right greatest =>
      ((orderPair_perm below left right).append_right [greatest]).cons least
  have highLast : [low, nextLow, nextHigh, high].Perm [low, high, nextLow, nextHigh] :=
    .cons low (List.perm_append_comm : ([nextLow, nextHigh] ++ [high]).Perm _)
  rw [sortFour, left, right]
  dsimp only
  refine .trans ?_ pairs
  cases below nextLow low with
  | false =>
      cases below nextHigh high with
      | false => exact around _ _ _ _
      | true => exact (around _ _ _ _).trans highLast
  | true =>
      cases below nextHigh high with
      | false =>
          exact (around _ _ _ _).trans
            (List.perm_middle : ([low, high] ++ nextLow :: [nextHigh]).Perm _).symm
      | true => exact (around _ _ _ _).trans ((List.Perm.swap _ _ _).trans highLast)

theorem arranges_sortFour (inOrder : [first, second, third, fourth].Pairwise earlier) :
    Arranges below earlier [first, second, third, fourth]
      (sortFour below first second third fourth) where
  perm := sortFour_perm first second third fourth
  sorted consistent := by
    simp only [List.pairwise_cons, List.mem_cons, List.not_mem_nil, or_false, forall_eq_or_imp,
      forall_eq, IsEmpty.forall_iff, implies_true, List.Pairwise.nil, and_true] at inOrder
    obtain ⟨⟨firstSecond, firstThird, firstFourth⟩, ⟨secondThird, secondFourth⟩, thirdFourth⟩ :=
      inOrder
    have ordered : ∀ {first second : α}, earlier first second → Precedes below earlier
        (orderPair below first second).1 (orderPair below first second).2 :=
      fun before => precedes_orderPair fun notBelow => .inr ⟨notBelow, before⟩
    have lefts := ordered firstSecond
    have rights := ordered thirdFourth
    rcases orderPair_cases below first second with left | left <;>
      rcases orderPair_cases below third fourth with right | right <;>
        rw [left] at lefts <;> rw [right] at rights <;>
          exact pairwise_sortFour consistent left right lefts rights (by simp [*]) (by simp [*])

end Four

/-! ## Halves -/

theorem arranges_sortHalf (below : α → α → Bool) {half : List α} (enough : Bool)
    (inOrder : half.Pairwise earlier) :
    Arranges below earlier half (sortHalf below enough half) := by
  unfold sortHalf
  split
  · next first second third fourth rest =>
      exact arranges_sortDescending [first, second, third, fourth]
        (arranges_sortFour (List.pairwise_append.mp inOrder).1) inOrder
  · exact arranges_stableSort inOrder

/-- **A small sort** sorts, and has a result if the order is consistent. -/
theorem settles_smallSort (oneWay : ∀ first second, earlier first second → ¬ earlier second first)
    {elements : List α} (inOrder : elements.Pairwise earlier) :
    Settles below (Arranges below earlier elements) (smallSort below elements) := by
  have split := List.take_append_drop (elements.length / 2) elements
  have halves : (elements.take (elements.length / 2)
      ++ elements.drop (elements.length / 2)).Pairwise earlier := split.symm ▸ inOrder
  obtain ⟨leftInOrder, rightInOrder, -⟩ := List.pairwise_append.mp halves
  have left := arranges_sortHalf below (decide (8 ≤ elements.length)) leftInOrder
  have right := arranges_sortHalf below (decide (8 ≤ elements.length)) rightInOrder
  have leftLength := left.perm.length_eq
  have rightLength := right.perm.length_eq
  rw [List.length_take] at leftLength
  rw [List.length_drop] at rightLength
  have settles := settles_mergeFromBothEnds oneWay left right halves (by omega) (by omega)
  rwa [split] at settles

end ScalarSql
