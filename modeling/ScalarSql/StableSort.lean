/-!
# Stable sorting

Sorting by insertion: each element moves in front of the elements it is strictly below,
starting from the end of what is already sorted, and stops at the first one it is not
below.  Elements that tie therefore keep their order.
-/

set_option autoImplicit false

namespace ScalarSql

variable {α : Type}

/-- Inserts an element into a list that is sorted with the greatest element first. -/
def insertDescending (below : α → α → Bool) (element : α) : List α → List α
  | [] => [element]
  | greatest :: rest =>
      if below element greatest then greatest :: insertDescending below element rest
      else element :: greatest :: rest

/-- The elements sorted with the greatest one first. -/
def sortDescending (below : α → α → Bool) (sorted : List α) : List α → List α
  | [] => sorted
  | element :: rest => sortDescending below (insertDescending below element sorted) rest

/-- The elements in ascending order; `below` is the strict order, and elements that tie
stay in the order they come in. -/
def stableSort (below : α → α → Bool) (elements : List α) : List α :=
  (sortDescending below [] elements).reverse

end ScalarSql
