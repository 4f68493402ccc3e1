import ScalarSql.Proofs.Plan.References

/-!
# Queries with and without an order

A select clause is planned together with the order of its rows.  Without the order it has
the same parts, less the sort keys and their hidden columns, `SelectParts.unsorted`.

Both plans have one shape: the select list, the hidden columns and the condition on groups
over rows that are grouped or not, `SelectParts.above` and `SelectParts.below`.
-/

set_option autoImplicit false

namespace ScalarSql

namespace SelectParts

/-- The parts of the same query without an order. -/
def unsorted (parts : SelectParts) : SelectParts :=
  { parts with part := { parts.part with hidden := [] }, sorting := [] }

/-- Whether the query groups its rows. -/
def grouped (parts : SelectParts) : Bool := Plan.isGrouped parts.keys parts.part

/-- The expressions that stand above the rows that are grouped or not. -/
def above (parts : SelectParts) : Plan.GroupedPart :=
  if parts.grouped then parts.rewritten else parts.part.withoutAggregates

/-- The rows that are grouped or not. -/
def below (parts : SelectParts) : Plan := if parts.grouped then parts.groups else parts.input

theorem names_above (parts : SelectParts) :
    parts.above.columns.map NamedExpr.name = parts.part.columns.map NamedExpr.name := by
  unfold above
  split <;> simp [rewritten, Plan.GroupedPart.overKeys, Plan.GroupedPart.withoutAggregates,
    NamedExpr.withoutAggregates, NamedExpr.overKeys]

theorem hidden_above (parts : SelectParts) :
    parts.above.hidden = [] ↔ parts.part.hidden = [] := by
  unfold above
  split <;> simp [rewritten, Plan.GroupedPart.overKeys, Plan.GroupedPart.withoutAggregates,
    NamedExpr.withoutAggregates]

/-- An expression of a query over the rows that are projected: if the query groups its
rows, the expression refers to the columns of the groups. -/
def overGroups (parts : SelectParts) (expr : Expr) : Expr :=
  if parts.grouped then expr.rewritten parts.keys else expr

/-- What is projected is the select list and the hidden columns over these rows. -/
theorem projected_above (parts : SelectParts) :
    parts.above.columns ++ parts.above.hidden
      = (parts.part.columns ++ parts.part.hidden).map fun item =>
          { item with expr := parts.overGroups item.expr } := by
  cases grouped : parts.grouped with
  | true =>
      simp only [above, overGroups, grouped, if_true, rewritten, Plan.GroupedPart.overKeys,
        Plan.GroupedPart.withoutAggregates, NamedExpr.withoutAggregates, List.map_map,
        List.map_append]
      rfl
  | false =>
      have none : parts.part.aggregateCalls = [] := by
        simp only [SelectParts.grouped, Plan.isGrouped, Bool.not_eq_false', Bool.and_eq_true,
          List.isEmpty_iff] at grouped
        exact grouped.2
      have plain : ∀ items : List NamedExpr, NamedExpr.aggregateCalls items = [] →
          NamedExpr.withoutAggregates items = items := by
        intro items free
        refine (List.map_congr_left fun item member => ?_).trans (List.map_id _)
        have own := List.flatMap_eq_nil_iff.mp free item member
        rw [Expr.withoutAggregates_of_no_calls item.expr own]
        rfl
      simp only [Plan.GroupedPart.aggregateCalls, List.append_eq_nil_iff] at none
      simp only [above, overGroups, grouped, Bool.false_eq_true, if_false,
        Plan.GroupedPart.withoutAggregates, plain _ none.1.1, plain _ none.1.2, List.map_id']

/-- An order without aggregate calls of its own does not decide whether rows are
grouped. -/
theorem grouped_unsorted {parts : SelectParts}
    (allowed : parts.unsorted.grouped = true ∨
      NamedExpr.aggregateCalls parts.part.hidden = []) :
    parts.grouped = parts.unsorted.grouped := by
  rcases allowed with already | free
  · rw [already]
    simp only [grouped, Plan.isGrouped, unsorted, Plan.GroupedPart.aggregateCalls,
      Bool.not_eq_true', Bool.and_eq_false_iff, List.isEmpty_eq_false_iff] at already ⊢
    rcases already with keyed | called
    · exact .inl keyed
    · exact .inr fun none => called (by simp_all [NamedExpr.aggregateCalls])
  · simp only [grouped, Plan.isGrouped, unsorted, Plan.GroupedPart.aggregateCalls, free]
    rfl

/-- The same expressions stand above the rows, less the hidden ones. -/
theorem above_unsorted {parts : SelectParts} (same : parts.grouped = parts.unsorted.grouped) :
    parts.unsorted.above = { parts.above with hidden := [] } := by
  unfold above
  rw [← same]
  split <;> rfl

end SelectParts

namespace Plan

/-- Where the select list stands for all columns, every sort key can be read off the
result. -/
theorem hidden_of_sortKeys {scope : NameScope} {hidden : List NamedExpr}
    {order : List Syntax.OrderItem} {sorting : List SortKey × List NamedExpr}
    (read : sortKeys scope [] hidden order = .ok sorting) : sorting.2 = hidden := by
  induction order generalizing sorting with
  | nil =>
      cases read
      rfl
  | cons item rest ih =>
      simp only [sortKeys, isOutput, List.isEmpty_nil, Bool.true_or, if_true, bind_eq_ok] at read
      obtain ⟨_, -, _, restRead, same⟩ := read
      cases same
      have kept := ih restRead
      exact kept

/-- **Reading a query with an order**: its input is a filtered source, a star has no hidden
columns, and without the order the same parts are read. -/
theorem of_readSelect {tableColumns : String → List String} {select : Syntax.Select}
    {order : List Syntax.OrderItem} {parts : SelectParts}
    (read : readSelect tableColumns select order = .ok parts) :
    (∃ source condition, ofSources select.sources = .ok source ∧
        parts.input = filterBy condition source) ∧
      (parts.part.columns = [] → parts.part.hidden = []) ∧
      readSelect tableColumns select [] = .ok parts.unsorted := by
  simp only [readSelect, bind_eq_ok] at read ⊢
  obtain ⟨source, sourceRead, scope, scopeRead, condition, conditionRead, keys, keysRead,
    selected, selectedRead, ⟨sorting, hidden⟩, sortingRead, having, havingRead, same⟩ := read
  cases same
  refine ⟨⟨source, condition, sourceRead, rfl⟩, ?_, source, sourceRead, scope, scopeRead,
    condition, conditionRead, keys, keysRead, selected, selectedRead, _, rfl, having,
    havingRead, rfl⟩
  intro star
  dsimp only at star
  subst star
  exact hidden_of_sortKeys sortingRead

/-- **The plan of a select clause**, grouped or not. -/
theorem eq_of_assemble {parts : SelectParts} {plan : Plan}
    (assembled : assemble parts = .ok plan) :
    plan = projectSorted parts.above parts.sorting
        (filterBy parts.above.having parts.below) ∧
      (parts.grouped = true → parts.part.columns ≠ []) := by
  cases grouped : parts.grouped with
  | true =>
      obtain ⟨listed, rfl⟩ := assemble_grouped grouped assembled
      simp only [SelectParts.above, SelectParts.below, grouped, if_true]
      exact ⟨trivial, fun _ => listed⟩
  | false =>
      obtain ⟨_, groupedPlan, made⟩ := bind_eq_ok.mp assembled
      rcases eq_of_group groupedPlan with ⟨-, rfl⟩ | ⟨needed, -, -⟩
      · cases made
        simp only [SelectParts.above, SelectParts.below, grouped, Bool.false_eq_true, if_false]
        exact ⟨trivial, fun impossible => nomatch impossible⟩
      · rw [SelectParts.grouped, needed] at grouped
        cases grouped

end Plan

end ScalarSql
