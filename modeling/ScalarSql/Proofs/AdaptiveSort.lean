import Mathlib.Data.List.FinRange
import ScalarSql.Proofs.AdaptiveSort.Mapping
import ScalarSql.Proofs.AdaptiveSort.Runs

/-!
# Sorting lists of any length

A division leaves the elements of both sides in their order.  In a consistent order the pivot
ties with itself, so the side of its own it is sent to is the one that it belongs to, and the
division is a filter, `divide_eq_filter`.  The elements that are not above a pivot are not sorted
again if there is no element below the pivot.  This is so if the division has found none, and
also if the pivot is not above the outer one: the elements are on the right side of that.

Elements of a list may be equal, so a whole list is sorted together with the positions of its
elements: positions come in order, and a position shows the element that stands there.

**A result.**  It has the same elements, `adaptiveSort_perm`, and if the order is consistent
among them it is the one that insertion gives, `adaptiveSort_of_isConsistentOn`.

**No result.**  This needs more than 20 elements, and an order that is not consistent among them,
`of_adaptiveSort_eq_none`.  Neither is enough: a sort does not compare all elements with one
another, and it may be done without having met the contradiction.
-/

set_option autoImplicit false

namespace ScalarSql

variable {α β : Type} {below : α → α → Bool}

section Dividing

variable {earlier : α → α → Prop}

/-! ## Pivots -/

theorem medianOfThree_lt (lower : Nat → Nat → Bool) {first second third bound : Nat}
    (firstLt : first < bound) (secondLt : second < bound) (thirdLt : third < bound) :
    medianOfThree lower first second third < bound := by
  unfold medianOfThree
  split
  · split
    · exact thirdLt
    · exact secondLt
  · exact firstLt

theorem medianOfStretches_lt (lower : Nat → Nat → Bool) {width first second third bound : Nat}
    (positive : 0 < width) (firstFits : first + width ≤ bound)
    (secondFits : second + width ≤ bound) (thirdFits : third + width ≤ bound) :
    medianOfStretches lower width first second third < bound := by
  unfold medianOfStretches
  split
  · have inside : ∀ start, start + width ≤ bound →
        medianOfStretches lower (width / 8) start (start + 4 * (width / 8))
          (start + 7 * (width / 8)) < bound := fun start fits =>
      medianOfStretches_lt lower (by omega) (by omega) (by omega) (by omega)
    exact medianOfThree_lt lower (inside first firstFits) (inside second secondFits)
      (inside third thirdFits)
  · exact medianOfThree_lt lower (by omega) (by omega) (by omega)
  termination_by width
  decreasing_by omega

theorem pivotPosition_lt (below : α → α → Bool) {elements : List α} (enough : 8 ≤ elements.length) :
    pivotPosition below elements < elements.length :=
  medianOfStretches_lt _ (by omega) (by omega) (by omega) (by omega)

/-! ## Division -/

section Division

variable (position : Nat) (stays : Bool) (goesLeft : α → Bool) (elements : List α)

theorem divide_perm :
    ((divide position stays goesLeft elements).1
      ++ (divide position stays goesLeft elements).2).Perm elements := by
  unfold divide
  rw [List.partition_eq_filter_filter, ← List.map_append]
  exact ((List.filter_append_perm _ _).map Prod.fst).trans
    (.of_eq (List.zipIdx_map_fst 0 elements))

theorem divide_sublist :
    (divide position stays goesLeft elements).1.Sublist elements ∧
      (divide position stays goesLeft elements).2.Sublist elements := by
  unfold divide
  rw [List.partition_eq_filter_filter]
  have sides := fun choice : α × Nat → Bool =>
    (List.filter_sublist (p := choice) (l := elements.zipIdx)).map Prod.fst
  simp only [List.zipIdx_map_fst] at sides
  exact ⟨sides _, sides _⟩

variable {position stays elements}

theorem divide_eq_filter {pivot : α} (isPivot : elements[position]? = some pivot)
    (rightly : goesLeft pivot = stays) :
    divide position stays goesLeft elements
      = (elements.filter goesLeft, elements.filter fun element => !goesLeft element) := by
  have asked : ∀ entry ∈ elements.zipIdx,
      (if entry.2 = position then stays else goesLeft entry.1) = goesLeft entry.1 := by
    rintro ⟨element, index⟩ member
    split
    · next here =>
        rw [List.mk_mem_zipIdx_iff_getElem?] at member
        rw [← rightly, Option.some_inj.mp (member.symm.trans (here ▸ isPivot))]
    · rfl
  have filtered := fun choice : α → Bool =>
    (List.filter_map (f := Prod.fst) (p := choice) (l := elements.zipIdx)).symm
  simp only [List.zipIdx_map_fst] at filtered
  unfold divide
  rw [List.partition_eq_filter_filter]
  have lefts := List.filter_congr asked
  have rights := List.filter_congr fun entry member => congrArg (! ·) (asked entry member)
  exact congrArg₂ Prod.mk
    ((congrArg (List.map Prod.fst) lefts).trans (filtered goesLeft))
    ((congrArg (List.map Prod.fst) rights).trans (filtered fun element => !goesLeft element))

end Division

/-! ## Sorting -/

/-- What is sorted on the two sides of a pivot is sorted together. -/
theorem arranges_sides {elements lower others left right : List α} {pivot : α}
    (parts : (lower ++ others).Perm elements)
    (leftArranges : Arranges below earlier lower left)
    (rightArranges : Arranges below earlier others right)
    (apart : IsConsistent below → (∀ element ∈ lower, below element pivot = true) ∧
      ∀ element ∈ others, below element pivot = false) :
    Arranges below earlier elements (left ++ right) where
  perm := (leftArranges.perm.append rightArranges.perm).trans parts
  sorted consistent := by
    obtain ⟨lowerBelow, othersNotBelow⟩ := apart consistent
    refine List.pairwise_append.mpr ⟨leftArranges.sorted consistent,
      rightArranges.sorted consistent, fun first inLeft second inRight => .inl ?_⟩
    exact consistent.below_of_below (lowerBelow first (leftArranges.perm.mem_iff.mp inLeft))
      (othersNotBelow second (rightArranges.perm.mem_iff.mp inRight))

/-- Elements that tie with a pivot are sorted as they stand, in front of what is above it. -/
theorem arranges_ties {elements equal higher right : List α} (pivot : α)
    (parts : (equal ++ higher).Perm elements) (inOrder : equal.Pairwise earlier)
    (rightArranges : Arranges below earlier higher right)
    (apart : IsConsistent below → (∀ element ∈ equal, below pivot element = false ∧
      below element pivot = false) ∧ ∀ element ∈ higher, below pivot element = true) :
    Arranges below earlier elements (equal ++ right) where
  perm := (rightArranges.perm.append_left equal).trans parts
  sorted consistent := by
    obtain ⟨ties, higherAbove⟩ := apart consistent
    refine List.pairwise_append.mpr ⟨inOrder.imp_of_mem fun inFirst inSecond before => ?_,
      rightArranges.sorted consistent, fun first inEqual second inRight => .inl ?_⟩
    · exact .inr ⟨consistent.trans _ pivot _ (ties _ inSecond).2 (ties _ inFirst).1, before⟩
    · exact consistent.below_of_not_below (ties first inEqual).1
        (higherAbove second (rightArranges.perm.mem_iff.mp inRight))

/-- When a side is not sorted again, there is no element below its pivot. -/
theorem not_below_of_stops (consistent : IsConsistent below) {outer : Option α} {pivot : α}
    {elements : List α} (above : ∀ outerPivot ∈ outer, ∀ element ∈ elements,
      below element outerPivot = false)
    (stops : ¬ (outer.all (below · pivot) && !(elements.filter (below · pivot)).isEmpty) = true) :
    ∀ element ∈ elements, below element pivot = false := by
  intro element member
  by_contra isBelow
  have isBelow := Bool.eq_true_of_not_eq_false isBelow
  have found : (elements.filter (below · pivot)).isEmpty = false :=
    List.isEmpty_eq_false_iff.mpr (List.ne_nil_of_mem (List.mem_filter.mpr ⟨member, isBelow⟩))
  rw [found] at stops
  cases outer with
  | none => exact stops rfl
  | some outerPivot =>
      have notAbove : below outerPivot pivot = false := by simpa using stops
      have outside := above outerPivot rfl element member
      rw [consistent.below_of_below isBelow notAbove] at outside
      cases outside

/-- **Sorting by division** sorts, and has a result if the order is consistent. -/
theorem settles_quickSort (oneWay : ∀ first second, earlier first second → ¬ earlier second first)
    (divisions : Nat) {outer : Option α} {elements : List α} (inOrder : elements.Pairwise earlier)
    (above : IsConsistent below → ∀ pivot ∈ outer, ∀ element ∈ elements,
      below element pivot = false) :
    Settles below (Arranges below earlier elements)
      (quickSort below divisions outer elements) := by
  fun_induction quickSort below divisions outer elements with
  | case1 => exact settles_smallSort oneWay inOrder
  | case2 =>
      exact settles_sortRuns oneWay (fun part => settles_smallSort oneWay) true inOrder
  | case3 outer elements many divisions position missing =>
      have few := List.getElem?_eq_none_iff.mp missing
      simp only [smallLength] at many
      have inside := pivotPosition_lt below (Nat.le_trans (by decide) (Nat.le_of_not_le many))
      exact absurd inside (Nat.not_lt.mpr few)
  | case4 outer elements many divisions position pivot isPivot lower others divided proceeds
      rightIH leftIH =>
      have parts := divide_perm position false (below · pivot) elements
      obtain ⟨lowerInside, othersInside⟩ := divide_sublist position false (below · pivot) elements
      rw [divided] at parts lowerInside othersInside
      have apart : IsConsistent below → (∀ element ∈ lower, below element pivot = true) ∧
          ∀ element ∈ others, below element pivot = false := fun consistent => by
        rw [divide_eq_filter (below · pivot) isPivot (consistent.irrefl pivot),
          Prod.mk.injEq] at divided
        simp [← divided.1, ← divided.2]
      refine (rightIH (inOrder.sublist othersInside) fun consistent outer same =>
        ?_).bind fun right rightArranges => (leftIH (inOrder.sublist lowerInside)
          fun consistent outer given element member =>
            above consistent outer given element (lowerInside.subset member)).bind
          fun left leftArranges => arranges_sides parts leftArranges rightArranges apart
      exact Option.some_inj.mp same ▸ (apart consistent).2
  | case5 outer elements many divisions position pivot isPivot lower others divided stops equal
      higher again rightIH =>
      have parts := divide_perm position true (!below pivot ·) elements
      obtain ⟨equalInside, higherInside⟩ := divide_sublist position true (!below pivot ·) elements
      rw [again] at parts equalInside higherInside
      refine (rightIH (inOrder.sublist higherInside) fun _ _ impossible => nomatch impossible).bind
        fun right rightArranges => arranges_ties pivot parts
          (inOrder.sublist equalInside) rightArranges fun consistent => ?_
      rw [divide_eq_filter (below · pivot) isPivot (consistent.irrefl pivot),
        Prod.mk.injEq] at divided
      rw [divide_eq_filter (!below pivot ·) isPivot
        (by simp [consistent.irrefl pivot]), Prod.mk.injEq] at again
      have notBelow := not_below_of_stops consistent (above consistent) (divided.1 ▸ stops)
      constructor
      · intro element member
        rw [← again.1, List.mem_filter] at member
        exact ⟨by simpa using member.2, notBelow element member.1⟩
      · intro element member
        rw [← again.2, List.mem_filter] at member
        simpa using member.2

end Dividing

section Sorting

variable {elements : List α}

/-- The conditions of a consistent order for some elements. -/
structure IsConsistentOn (below : α → α → Bool) (elements : List α) : Prop where
  asymm : ∀ first ∈ elements, ∀ second ∈ elements,
    below first second = true → below second first = false
  trans : ∀ first ∈ elements, ∀ second ∈ elements, ∀ third ∈ elements,
    below first second = false → below second third = false → below first third = false

/-! ## Positions -/

section Positions

variable (below elements)

/-- Whether the element at one position is below the one at another. -/
def positionBelow (first second : Fin elements.length) : Bool :=
  below (elements.get first) (elements.get second)

theorem adaptiveSort_positions :
    adaptiveSort below elements
      = (adaptiveSort (positionBelow below elements) (List.finRange elements.length)).map
          (List.map elements.get) := by
  conv_lhs => rw [← List.map_get_finRange elements]
  exact adaptiveSort_map (fun _ _ => rfl) _

theorem stableSort_positions :
    stableSort below elements
      = (stableSort (positionBelow below elements) (List.finRange elements.length)).map
          elements.get := by
  conv_lhs => rw [← List.map_get_finRange elements]
  exact stableSort_map elements.get _

end Positions

theorem IsConsistentOn.positions (consistent : IsConsistentOn below elements) :
    IsConsistent (positionBelow below elements) where
  asymm first second := consistent.asymm _ (elements.get_mem first) _ (elements.get_mem second)
  trans first second third := consistent.trans _ (elements.get_mem first) _
    (elements.get_mem second) _ (elements.get_mem third)

/-! ## Results -/

theorem settles_adaptiveSort {earlier : α → α → Prop}
    (oneWay : ∀ first second, earlier first second → ¬ earlier second first)
    (inOrder : elements.Pairwise earlier) :
    Settles below (Arranges below earlier elements) (adaptiveSort below elements) := by
  unfold adaptiveSort
  split
  · exact arranges_stableSort inOrder
  · refine settles_sortRuns oneWay (fun part partInOrder => ?_) _ inOrder
    exact settles_quickSort oneWay _ partInOrder fun _ _ impossible => nomatch impossible

theorem settles_positions (below : α → α → Bool) (elements : List α) :
    Settles (positionBelow below elements)
      (Arranges (positionBelow below elements) (· < ·) (List.finRange elements.length))
      (adaptiveSort (positionBelow below elements) (List.finRange elements.length)) :=
  settles_adaptiveSort (fun _ _ => lt_asymm) (List.pairwise_lt_finRange _)

/-- **A sort permutes**, whatever the order is. -/
theorem adaptiveSort_perm {sorted : List α} (sorts : adaptiveSort below elements = some sorted) :
    sorted.Perm elements := by
  have settles := settles_positions below elements
  rw [adaptiveSort_positions] at sorts
  obtain ⟨places, found, rfl⟩ := Option.map_eq_some_iff.mp sorts
  rw [found] at settles
  exact (settles.perm.map _).trans (.of_eq (List.map_get_finRange elements))

/-- **A sort is stable** and has a result if the order is consistent among the elements. -/
theorem adaptiveSort_of_isConsistentOn (consistent : IsConsistentOn below elements) :
    adaptiveSort below elements = some (stableSort below elements) := by
  have settles := settles_positions below elements
  rw [adaptiveSort_positions, stableSort_positions]
  cases found : adaptiveSort (positionBelow below elements) (List.finRange elements.length) with
  | none =>
      rw [found] at settles
      exact absurd consistent.positions settles
  | some places =>
      rw [found] at settles
      have inserted : Arranges (positionBelow below elements) (· < ·) _ _ :=
        arranges_stableSort (List.pairwise_lt_finRange elements.length)
      have one := eq_of_sorted (fun _ _ => lt_asymm) consistent.positions
        (settles.sorted consistent.positions) (inserted.sorted consistent.positions)
        (settles.perm.trans inserted.perm.symm)
      rw [one]
      rfl

theorem of_adaptiveSort_eq_none (none : adaptiveSort below elements = none) :
    20 < elements.length ∧ ¬ IsConsistentOn below elements := by
  constructor
  · by_contra few
    rw [adaptiveSort, if_pos (by omega)] at none
    cases none
  · intro consistent
    rw [adaptiveSort_of_isConsistentOn consistent] at none
    cases none

end Sorting

end ScalarSql
