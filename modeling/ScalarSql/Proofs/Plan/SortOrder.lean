import ScalarSql.Plan.Execution
import ScalarSql.Proofs.AdaptiveSort
import ScalarSql.Proofs.Value.Sorting

/-!
# The order of sort keys

The keys of a sort order rows by the values that the rows have for them.  Turning two rows around
turns their order around, whatever the values are, so that no two rows are below each other.  The
order is consistent if comparing composes on the values of each key, `Value.Composes`: this is
lifted from values to one key, `SortKey.order_then`, and from there to all of them,
`SortKey.orderAll_then`.

**Sorting rows.**  The rows that a sort gives are those that come in, `SortKey.sortRows_perm`.
It gives them in the way insertion does if the order is consistent among the values of the keys,
`SortKey.sortRows_of_isConsistentOn`, and it gives up only if it is not, and for more than 20 rows,
`SortKey.of_sortRows_eq_error`.
-/

set_option autoImplicit false

namespace ScalarSql

/-- Comparing composes on the values with a property, as far as they are there. -/
def Value.Composes (kept : Value → Prop) : Prop :=
  ∀ ⦃first second third : Value⦄, kept first → kept second → kept third →
    first.isNull = false → second.isNull = false → third.isNull = false →
    Onward ((compare? first second).getD .eq) ((compare? second third).getD .eq) →
    (compare? first third).getD .eq
      = ((compare? first second).getD .eq).then ((compare? second third).getD .eq)

theorem DataType.SortsTotally.composes {type : DataType} (total : type.SortsTotally) :
    Value.Composes (·.hasType type = true) := by
  obtain ⟨notDouble, alike⟩ := type.sortsTotally_iff.mp total
  exact fun _ _ _ => Value.getD_compare?_then notDouble alike

namespace SortKey

open Value

/-! ## One key -/

variable {key : SortKey} {left right first second third : Value}

/-- The order of two values that are there, in the direction of the key. -/
def directed (key : SortKey) (left right : Value) : Ordering :=
  if key.ascending then (compare? left right).getD .eq else (compare? right left).getD .eq

theorem order_eq (key : SortKey) (left right : Value) :
    key.order left right = nullsApart (· != key.nullsFirst) key.directed left right := by
  cases leftNull : left.isNull with
  | true =>
      rw [isNull_iff.mp leftNull, order, nullsApart, directed]
      cases right <;> cases key.nullsFirst <;> cases key.ascending <;> rfl
  | false =>
      cases rightNull : right.isNull with
      | true =>
          rw [isNull_iff.mp rightNull, order, nullsApart, leftNull]
          cases key.nullsFirst <;> rfl
      | false =>
          rw [order, nullsApart, directed, sortOrder_of_present leftNull rightNull,
            sortOrder_of_present rightNull leftNull, leftNull, rightNull]
          cases key.nullsFirst <;> rfl

theorem order_swap (key : SortKey) (left right : Value) :
    key.order right left = (key.order left right).swap := by
  unfold order
  rw [sortOrder_swap left right]
  cases left.isNull <;> cases right.isNull <;> cases key.nullsFirst <;> cases key.ascending <;>
    first | rfl | exact Ordering.swap_swap.symm

/-- **One key composes** if comparing does. -/
theorem order_then {kept : Value → Prop} (composes : Composes kept) (keepsFirst : kept first)
    (keepsSecond : kept second) (keepsThird : kept third)
    (onward : Onward (key.order first second) (key.order second third)) :
    key.order first third = (key.order first second).then (key.order second third) := by
  rw [order_eq, order_eq] at onward
  rw [order_eq, order_eq key first second, order_eq key second third]
  refine nullsApart_then (fun _ _ => Bool.bne_left_inj.mp) ?_
    (fun firstPresent secondPresent thirdPresent onward => ?_) onward
  · rw [directed, ite_self]
    rfl
  · unfold directed at onward ⊢
    cases up : key.ascending with
    | true =>
        rw [up] at onward
        exact composes keepsFirst keepsSecond keepsThird firstPresent secondPresent thirdPresent
          onward
    | false =>
        rw [up] at onward
        exact (composes keepsThird keepsSecond keepsFirst thirdPresent secondPresent firstPresent
          onward.symm).trans onward.symm

/-! ## All keys -/

variable {keys : List SortKey} {kepts : List (Value → Prop)} {firsts seconds thirds : List Value}

theorem orderAll_cons (key : SortKey) (keys : List SortKey) (left right : Value)
    (lefts rights : List Value) :
    orderAll (key :: keys) (left :: lefts) (right :: rights)
      = (key.order left right).then (orderAll keys lefts rights) := by
  rw [orderAll]
  cases key.order left right <;> rfl

theorem orderAll_swap (keys : List SortKey) (lefts rights : List Value) :
    orderAll keys rights lefts = (orderAll keys lefts rights).swap := by
  induction keys generalizing lefts rights with
  | nil => rfl
  | cons key keys ih =>
      cases lefts with
      | nil => cases rights <;> rfl
      | cons left lefts =>
          cases rights with
          | nil => rfl
          | cons right rights =>
              rw [orderAll_cons, orderAll_cons, order_swap, ih, Ordering.swap_then]

/-- The values of a row have the properties of their keys. -/
def Keeps (values : List Value) (kepts : List (Value → Prop)) : Prop :=
  List.Forall₂ (fun value kept => kept value) values kepts

/-- **All keys together compose** on rows with values on which comparing does. -/
theorem orderAll_then (composes : ∀ kept ∈ kepts, Composes kept)
    (keepsFirst : Keeps firsts kepts) (keepsSecond : Keeps seconds kepts)
    (keepsThird : Keeps thirds kepts)
    (onward : Onward (orderAll keys firsts seconds) (orderAll keys seconds thirds)) :
    orderAll keys firsts thirds
      = (orderAll keys firsts seconds).then (orderAll keys seconds thirds) := by
  induction keys generalizing kepts firsts seconds thirds with
  | nil => rfl
  | cons key keys ih =>
      cases keepsFirst with
      | nil =>
          cases keepsSecond
          cases keepsThird
          rfl
      | cons firstKept laterFirst =>
          obtain _ | ⟨secondKept, laterSecond⟩ := keepsSecond
          obtain _ | ⟨thirdKept, laterThird⟩ := keepsThird
          obtain ⟨here, later⟩ := List.forall_mem_cons.mp composes
          rw [orderAll_cons, orderAll_cons] at onward
          rw [orderAll_cons, orderAll_cons, orderAll_cons]
          exact then_then (order_then here firstKept secondKept thirdKept)
            (fun _ _ => ih later laterFirst laterSecond laterThird) onward

/-- **The order of the keys is consistent** among rows with such values. -/
theorem isConsistentOn_below {rows : List (List Value)} (composes : ∀ kept ∈ kepts, Composes kept)
    (keeps : ∀ values ∈ rows, Keeps values kepts) : IsConsistentOn (below keys) rows where
  asymm first _ second _ isBelow := by
    rw [below, beq_iff_eq] at isBelow
    rw [below, orderAll_swap, isBelow]
    rfl
  trans first inFirst second inSecond third inThird notBelow next := by
    rw [below, beq_eq_false_iff_ne] at notBelow next ⊢
    rw [orderAll_then composes (keeps first inFirst) (keeps second inSecond) (keeps third inThird)
      (onward_of_ne (by decide) notBelow next)]
    exact then_ne notBelow next

/-! ## Sorting rows -/

variable {values : List (List Value)} {rows : List Row}

/-- The rows of a sort are those that come in. -/
theorem sortRows_perm {sorted : List Row} (aligned : values.length = rows.length)
    (sorts : sortRows keys (values.zip rows) = .ok sorted) : sorted.Perm rows := by
  unfold sortRows at sorts
  split at sorts
  · cases sorts
  · next found =>
      cases sorts
      have perm := (adaptiveSort_perm found).map Prod.snd
      rwa [List.map_snd_zip (by omega)] at perm

/-- The order of rows by the values of their keys is consistent if that of the values is. -/
theorem isConsistentOn_zip (consistent : IsConsistentOn (below keys) values) :
    IsConsistentOn (fun left right : List Value × Row => below keys left.1 right.1)
      (values.zip rows) where
  asymm _ inFirst _ inSecond :=
    consistent.asymm _ (List.of_mem_zip inFirst).1 _ (List.of_mem_zip inSecond).1
  trans _ inFirst _ inSecond _ inThird :=
    consistent.trans _ (List.of_mem_zip inFirst).1 _ (List.of_mem_zip inSecond).1 _
      (List.of_mem_zip inThird).1

theorem sortRows_of_isConsistentOn (consistent : IsConsistentOn (below keys) values) :
    sortRows keys (values.zip rows) = .ok ((stableSort (fun left right =>
      below keys left.1 right.1) (values.zip rows)).map Prod.snd) := by
  rw [sortRows, adaptiveSort_of_isConsistentOn (isConsistentOn_zip consistent)]

/-- **A sort gives up** only if the order of the values contradicts itself. -/
theorem of_sortRows_eq_error {error : Error}
    (fails : sortRows keys (values.zip rows) = .error error) :
    error = .inconsistentOrder ∧ 20 < rows.length ∧ ¬ IsConsistentOn (below keys) values := by
  unfold sortRows at fails
  split at fails
  · next none =>
      cases fails
      obtain ⟨many, inconsistent⟩ := of_adaptiveSort_eq_none none
      rw [List.length_zip] at many
      exact ⟨rfl, by omega, mt isConsistentOn_zip inconsistent⟩
  · cases fails

end SortKey

end ScalarSql
