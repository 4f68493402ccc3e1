import ScalarSql.Proofs.Expr.Aggregates

/-!
# The parts of a select clause

Planning a select clause first reads its terms and then puts the operators together.
`SelectParts` holds what is read: the rows to start from, the grouping keys, the
expressions that see the groups, and the sort keys.  `Plan.ofSelect_eq` says that planning
is reading the parts and assembling them.

**Grouping.**  Whether rows are grouped is decided by the keys and the aggregate calls
alone, and the grouped plan is determined by them, `Plan.eq_of_group`.
-/

set_option autoImplicit false

namespace ScalarSql

/-- What is read off a select clause and the order of its rows. -/
structure SelectParts where
  /-- The rows of the source that satisfy the condition. -/
  input : Plan
  keys : List NamedExpr
  /-- The expressions that see the groups. -/
  part : Plan.GroupedPart
  sorting : List SortKey

namespace NamedExpr

/-- Named expressions with columns in place of their aggregate calls. -/
def withoutAggregates (items : List NamedExpr) : List NamedExpr :=
  items.map fun item => { item with expr := item.expr.withoutAggregates }

/-- The aggregate calls in named expressions. -/
def aggregateCalls (items : List NamedExpr) : List Aggregate :=
  items.flatMap fun item => item.expr.aggregateCalls

theorem eq_of_collectAggregates {items : List NamedExpr} {aggregates : List Aggregate}
    {outcome : List NamedExpr × List Aggregate}
    (collected : collectAggregates items aggregates = .ok outcome) :
    outcome = (withoutAggregates items, addAggregates aggregates (aggregateCalls items)) := by
  induction items generalizing aggregates outcome with
  | nil =>
      simp only [collectAggregates, state_pure_eq_ok] at collected
      exact collected.symm
  | cons item rest ih =>
      simp only [collectAggregates, state_bind_eq_ok, state_pure_eq_ok] at collected
      obtain ⟨_, _, itemCollected, _, _, restCollected, rfl⟩ := collected
      cases Expr.eq_of_collectAggregates itemCollected
      cases ih restCollected
      simp only [withoutAggregates, aggregateCalls, List.map_cons, List.flatMap_cons,
        addAggregates_append]

end NamedExpr

namespace Plan

namespace GroupedPart

/-- The part with columns in place of its aggregate calls. -/
def withoutAggregates (part : GroupedPart) : GroupedPart where
  columns := NamedExpr.withoutAggregates part.columns
  hidden := NamedExpr.withoutAggregates part.hidden
  having := part.having.map Expr.withoutAggregates

/-- The aggregate calls of the part: those of the select list, of the hidden sort keys and
of the condition on groups. -/
def aggregateCalls (part : GroupedPart) : List Aggregate :=
  NamedExpr.aggregateCalls part.columns ++ NamedExpr.aggregateCalls part.hidden
    ++ part.having.toList.flatMap Expr.aggregateCalls

theorem eq_of_collectAggregates {part : GroupedPart} {aggregates : List Aggregate}
    {outcome : GroupedPart × List Aggregate}
    (collected : part.collectAggregates aggregates = .ok outcome) :
    outcome = (part.withoutAggregates, addAggregates aggregates part.aggregateCalls) := by
  obtain ⟨columns, hidden, having⟩ := part
  simp only [collectAggregates, state_bind_eq_ok] at collected
  obtain ⟨_, _, columnsCollected, _, _, hiddenCollected, collected⟩ := collected
  cases NamedExpr.eq_of_collectAggregates columnsCollected
  cases NamedExpr.eq_of_collectAggregates hiddenCollected
  cases having with
  | none =>
      rw [← state_pure_eq_ok.mp collected]
      simp [withoutAggregates, aggregateCalls, addAggregates_append]
  | some condition =>
      simp only [state_bind_eq_ok, state_pure_eq_ok] at collected
      obtain ⟨_, _, conditionCollected, rfl⟩ := collected
      cases Expr.eq_of_collectAggregates conditionCollected
      simp [withoutAggregates, aggregateCalls, addAggregates_append]

end GroupedPart

/-! ## Grouping -/

theorem addAggregates_eq_nil {calls : List Aggregate} :
    addAggregates [] calls = [] ↔ calls = [] := by
  cases calls with
  | nil => simp
  | cons call rest =>
      have kept := prefix_addAggregates (addAggregate [] call) rest
      simp only [reduceCtorEq, iff_false]
      intro none
      have step : addAggregates [] (call :: rest)
        = addAggregates (addAggregate [] call) rest := rfl
      rw [← step, none] at kept
      simp [addAggregate] at kept

/-- Whether the keys and the expressions ask for groups. -/
def isGrouped (keys : List NamedExpr) (part : GroupedPart) : Bool :=
  !(keys.isEmpty && part.aggregateCalls.isEmpty)

/-- **The plan of a grouping** is determined by the keys and the aggregate calls. -/
theorem eq_of_group {keys : List NamedExpr} {part : GroupedPart} {input : Plan}
    {outcome : GroupedPart × Plan} (grouped : group keys part input = .ok outcome) :
    (isGrouped keys part = false ∧ outcome = (part.withoutAggregates, input)) ∨
      (isGrouped keys part = true ∧ part.columns ≠ [] ∧
        outcome = (part.withoutAggregates.overKeys keys,
          .aggregate keys (addAggregates [] part.aggregateCalls) input)) := by
  simp only [group, bind_eq_ok] at grouped
  obtain ⟨_, collected, grouped⟩ := grouped
  cases GroupedPart.eq_of_collectAggregates collected
  have noAggregates : (addAggregates [] part.aggregateCalls).isEmpty
      = part.aggregateCalls.isEmpty := by
    rw [Bool.eq_iff_iff, List.isEmpty_iff, List.isEmpty_iff, addAggregates_eq_nil]
  simp only [noAggregates] at grouped
  split at grouped
  · next plain =>
      cases grouped
      exact .inl ⟨by simp [isGrouped, plain], rfl⟩
  · next needed =>
      split at grouped
      · cases grouped
      · next listed =>
          cases grouped
          refine .inr ⟨by simp only [isGrouped, needed, Bool.not_false], ?_, rfl⟩
          rintro none
          simp [GroupedPart.withoutAggregates, NamedExpr.withoutAggregates, none] at listed

/-! ## Reading and assembling -/

/-- The parts of a select clause and of the order of its rows. -/
def readSelect (tableColumns : String → List String) (select : Syntax.Select)
    (order : List Syntax.OrderItem) : Except Error SelectParts := do
  let source ← ofSources select.sources
  let columns := (scannedColumns tableColumns source).map Text.lower
  let scope ← defineAliases { columns } select.items
  let condition ← optionalExpr scope select.condition
  let keys ← groupKeys scope select.grouping
  let selected ← selectedColumns scope select.items
  let (sorting, hidden) ← sortKeys scope selected [] order
  let having ← optionalExpr scope select.having
  .ok {
    input := filterBy condition source
    keys
    part := { columns := selected, hidden, having }
    sorting }

/-- The plan that the parts of a select clause make up. -/
def assemble (parts : SelectParts) : Except Error Plan := do
  let (part, grouped) ← group parts.keys parts.part parts.input
  .ok (projectSorted part parts.sorting (filterBy part.having grouped))

/-- **Planning a select clause** is reading its parts and assembling them. -/
theorem ofSelect_eq (tableColumns : String → List String) (select : Syntax.Select)
    (order : List Syntax.OrderItem) :
    ofSelect tableColumns select order = readSelect tableColumns select order >>= assemble := by
  simp only [ofSelect, readSelect, bind_assoc]
  rfl

end Plan

end ScalarSql
