import Mathlib.Data.List.Basic
import Mathlib.Order.Lattice
import ScalarSql.StableSort

/-!
# Sorting by insertion

Insertion moves an element past others and loses none, so a sorted list is a permutation
of the list it came from, whatever the order is.

**Stability.**  Insertion stops at the first element that the new one is not below.  If not
being below is transitive, as it is for every order by keys, then in the result the lower of
two elements comes first, and of two that tie the one that came first, `stableSort_pairwise`.
The elements may also be sorted by what they show, `stableSort_map`, so that a list can be
sorted together with the positions that its elements had.

**Order of insertion.**  Two elements that do not tie can be inserted in either order.  So a
list that is put together from blocks may be put together from them in any other order before
it is sorted, provided that no element ties with one of another block,
`stableSort_flatMap_eq_of_perm`.
-/

set_option autoImplicit false

namespace ScalarSql

variable {α : Type} (below : α → α → Bool)

theorem insertDescending_perm (element : α) (sorted : List α) :
    (insertDescending below element sorted).Perm (element :: sorted) := by
  induction sorted with
  | nil => exact .refl _
  | cons greatest rest ih =>
      simp only [insertDescending]
      split
      · exact (ih.cons greatest).trans (.swap element greatest rest)
      · exact .refl _

theorem sortDescending_perm (sorted elements : List α) :
    (sortDescending below sorted elements).Perm (sorted ++ elements) := by
  induction elements generalizing sorted with
  | nil => simp [sortDescending]
  | cons element rest ih =>
      simp only [sortDescending]
      refine (ih _).trans ?_
      refine ((insertDescending_perm below element sorted).append_right rest).trans ?_
      exact List.perm_middle.symm

/-- **Sorting permutes**: it neither loses nor repeats an element. -/
theorem stableSort_perm (elements : List α) : (stableSort below elements).Perm elements :=
  (List.reverse_perm _).trans (sortDescending_perm below [] elements)

theorem mem_stableSort {element : α} {elements : List α} :
    element ∈ stableSort below elements ↔ element ∈ elements :=
  (stableSort_perm below elements).mem_iff

/-! ## Order -/

/-- What a stable sort puts first: what is below, and of two elements that tie the one that
came earlier. -/
def Precedes (earlier : α → α → Prop) (first second : α) : Prop :=
  below first second = true ∨ below second first = false ∧ earlier first second

variable {below} {earlier : α → α → Prop}
  (trans : ∀ first second third, below first second = false → below second third = false →
    below first third = false)

include trans

/-- An element that comes later than all others goes behind those that it is not below. -/
theorem insertDescending_pairwise {element : α} {sorted : List α}
    (last : ∀ other ∈ sorted, earlier other element)
    (ordered : sorted.Pairwise fun second first => Precedes below earlier first second) :
    (insertDescending below element sorted).Pairwise fun second first =>
      Precedes below earlier first second := by
  induction sorted with
  | nil => exact List.pairwise_singleton _ _
  | cons greatest rest ih =>
      obtain ⟨before, restOrdered⟩ := List.pairwise_cons.mp ordered
      rw [insertDescending]
      split
      · next isBelow =>
          refine List.pairwise_cons.mpr ⟨fun other member => ?_,
            ih (fun other member => last other (List.mem_cons_of_mem _ member)) restOrdered⟩
          rcases List.mem_cons.mp ((insertDescending_perm below element rest).mem_iff.mp member)
            with rfl | inRest
          · exact .inl isBelow
          · exact before other inRest
      · next notBelow =>
          have notBelow : below element greatest = false := Bool.eq_false_iff.mpr notBelow
          refine List.pairwise_cons.mpr ⟨fun other member => ?_, ordered⟩
          cases isBelow : below other element with
          | true => exact .inl isBelow
          | false =>
              refine .inr ⟨?_, last other member⟩
              rcases List.mem_cons.mp member with rfl | inRest
              · exact notBelow
              · rcases before other inRest with strictly | ⟨atMost, -⟩
                · rw [trans other element greatest isBelow notBelow] at strictly
                  cases strictly
                · exact trans element greatest other notBelow atMost

theorem sortDescending_pairwise {sorted elements : List α}
    (later : ∀ element ∈ elements, ∀ other ∈ sorted, earlier other element)
    (inOrder : elements.Pairwise earlier)
    (ordered : sorted.Pairwise fun second first => Precedes below earlier first second) :
    (sortDescending below sorted elements).Pairwise fun second first =>
      Precedes below earlier first second := by
  induction elements generalizing sorted with
  | nil => exact ordered
  | cons element rest ih =>
      obtain ⟨here, restLater⟩ := List.forall_mem_cons.mp later
      obtain ⟨first, restInOrder⟩ := List.pairwise_cons.mp inOrder
      refine ih (fun next member other inserted => ?_) restInOrder
        (insertDescending_pairwise trans here ordered)
      rcases List.mem_cons.mp ((insertDescending_perm below element sorted).mem_iff.mp inserted)
        with rfl | inSorted
      · exact first next member
      · exact restLater next member other inSorted

/-- **Sorting is stable**: in the result of two elements the lower one comes first, and the
earlier one if they tie. -/
theorem stableSort_pairwise {elements : List α} (inOrder : elements.Pairwise earlier) :
    (stableSort below elements).Pairwise (Precedes below earlier) :=
  List.pairwise_reverse.mpr
    (sortDescending_pairwise trans (fun _ _ _ none => nomatch none) inOrder .nil)

omit trans

/-! ## Sorting by what elements show -/

section Map

variable {β : Type} (f : β → α)

theorem insertDescending_map (element : β) (sorted : List β) :
    insertDescending below (f element) (sorted.map f)
      = (insertDescending (fun first second => below (f first) (f second)) element sorted).map
          f := by
  induction sorted with
  | nil => rfl
  | cons greatest rest ih =>
      simp only [List.map_cons, insertDescending, ih]
      split <;> rfl

theorem sortDescending_map (sorted elements : List β) :
    sortDescending below (sorted.map f) (elements.map f)
      = (sortDescending (fun first second => below (f first) (f second)) sorted elements).map
          f := by
  induction elements generalizing sorted with
  | nil => rfl
  | cons element rest ih =>
      rw [List.map_cons, sortDescending, sortDescending, insertDescending_map, ih]

theorem stableSort_map (elements : List β) :
    stableSort below (elements.map f)
      = (stableSort (fun first second => below (f first) (f second)) elements).map f := by
  rw [stableSort, stableSort, List.map_reverse]
  exact congrArg List.reverse (sortDescending_map f [] elements)

end Map

/-! ## Sorting blocks -/

section Blocks

variable (trans : ∀ first second third, below first second = false →
    below second third = false → below first third = false)
  (asymm : ∀ first second, below first second = true → below second first = false)

include trans asymm

theorem insertDescending_comm {first second : α} (lower : below first second = true)
    (sorted : List α) :
    insertDescending below first (insertDescending below second sorted)
      = insertDescending below second (insertDescending below first sorted) := by
  have notLower := asymm first second lower
  induction sorted with
  | nil => simp [insertDescending, lower, notLower]
  | cons greatest rest ih =>
      cases firstBelow : below first greatest with
      | true =>
          cases secondBelow : below second greatest with
          | true => simp [insertDescending, firstBelow, secondBelow, ih]
          | false => simp [insertDescending, firstBelow, secondBelow, lower]
      | false =>
          cases secondBelow : below second greatest with
          | true =>
              -- The greatest element would lie between the two.
              have := trans first greatest second firstBelow (asymm second greatest secondBelow)
              rw [lower] at this
              cases this
          | false => simp [insertDescending, firstBelow, secondBelow, lower, notLower]

theorem sortDescending_insertDescending {element : α} {elements : List α}
    (apart : ∀ other ∈ elements, below element other = true ∨ below other element = true)
    (sorted : List α) :
    sortDescending below (insertDescending below element sorted) elements
      = insertDescending below element (sortDescending below sorted elements) := by
  induction elements generalizing sorted with
  | nil => rfl
  | cons next rest ih =>
      obtain ⟨here, restApart⟩ := List.forall_mem_cons.mp apart
      have swapped : insertDescending below next (insertDescending below element sorted)
          = insertDescending below element (insertDescending below next sorted) := by
        rcases here with lower | lower
        · exact (insertDescending_comm trans asymm lower sorted).symm
        · exact insertDescending_comm trans asymm lower sorted
      rw [sortDescending, sortDescending, swapped, ih restApart]

theorem sortDescending_comm {first second : List α}
    (apart : ∀ left ∈ first, ∀ right ∈ second,
      below left right = true ∨ below right left = true)
    (sorted : List α) :
    sortDescending below (sortDescending below sorted first) second
      = sortDescending below (sortDescending below sorted second) first := by
  induction first generalizing sorted with
  | nil => rfl
  | cons element rest ih =>
      obtain ⟨here, restApart⟩ := List.forall_mem_cons.mp apart
      rw [sortDescending, sortDescending, ih restApart,
        sortDescending_insertDescending trans asymm here]

omit trans asymm

theorem sortDescending_flatMap {β : Type} (block : β → List α) (sorted : List α)
    (indices : List β) :
    sortDescending below sorted (indices.flatMap block)
      = indices.foldl (fun sorted index => sortDescending below sorted (block index)) sorted := by
  have folded : ∀ sorted elements : List α, sortDescending below sorted elements
      = elements.foldl (fun sorted element => insertDescending below element sorted) sorted := by
    intro sorted elements
    induction elements generalizing sorted with
    | nil => rfl
    | cons element rest ih => exact ih _
  simp only [folded, List.foldl_flatMap]

include trans asymm

/-- **Sorting forgets the order of blocks** whose elements do not tie with one another. -/
theorem stableSort_flatMap_eq_of_perm {β : Type} {block : β → List α} {first second : List β}
    (same : first.Perm second)
    (apart : ∀ index ∈ first, ∀ other ∈ first, index ≠ other →
      ∀ left ∈ block index, ∀ right ∈ block other,
        below left right = true ∨ below right left = true) :
    stableSort below (first.flatMap block) = stableSort below (second.flatMap block) := by
  rw [stableSort, stableSort, sortDescending_flatMap, sortDescending_flatMap]
  refine congrArg List.reverse (same.foldl_eq' (fun index member other otherMember sorted => ?_) _)
  by_cases equal : index = other
  · rw [equal]
  · exact sortDescending_comm trans asymm (apart index member other otherMember equal) sorted

omit trans asymm

/-- The same for an order by keys, which no two elements of different blocks may share. -/
theorem stableSort_flatMap_eq_of_key {β κ : Type} [LinearOrder κ] {sortKey : α → κ}
    (below_iff : ∀ left right, below left right = true ↔ sortKey left < sortKey right)
    {block : β → List α} {first second : List β} (same : first.Perm second)
    (apart : ∀ index ∈ first, ∀ other ∈ first, ∀ left ∈ block index, ∀ right ∈ block other,
      sortKey left = sortKey right → index = other) :
    stableSort below (first.flatMap block) = stableSort below (second.flatMap block) := by
  have notBelow : ∀ left right, below left right = false ↔ sortKey right ≤ sortKey left :=
    fun left right => by rw [← Bool.not_eq_true, below_iff, not_lt]
  refine stableSort_flatMap_eq_of_perm (fun first second third => ?_) (fun first second => ?_) same
    fun index member other otherMember different left inLeft right inRight => ?_
  · simp only [notBelow]
    exact fun atLeast next => le_trans next atLeast
  · rw [below_iff, notBelow]
    exact le_of_lt
  · rw [below_iff, below_iff]
    exact lt_or_gt_of_ne fun tie =>
      different (apart index member other otherMember left inLeft right inRight tie)

end Blocks

end ScalarSql
