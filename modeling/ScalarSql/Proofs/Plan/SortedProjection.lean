import ScalarSql.Proofs.Plan.Order
import ScalarSql.Proofs.Plan.SortKeys

/-!
# The sort of an accepted query

The sort of a query with an order stands over the projection of its visible and hidden
columns, and a projection that drops the hidden ones and a limit may stand on top of it.
`Plan.sortedProjection_of_analyzeNode` finds the sort in the analyzed plan.

Analysis treats the items of a list one after the other, so that what stands at a position
comes from what is written there.
-/

set_option autoImplicit false

namespace ScalarSql

namespace Plan

variable {scope : FunctionScope} {catalog : Catalog} {schema : Schema}

/-- The named expression at a position comes from the one that is written there. -/
theorem getElem?_of_resolveNamed {written : List NamedExpr} {next : Nat}
    {resolved : (List NamedExpr × List Column) × Nat}
    (result : resolveNamed scope schema written next = .ok resolved) {position : Nat}
    {item : NamedExpr} (atPosition : written[position]? = some item) :
    ∃ start outcome, item.expr.resolve scope schema start = .ok outcome ∧
      resolved.1.1[position]? = some { item with expr := outcome.1 } := by
  induction written generalizing next resolved position with
  | nil => cases atPosition
  | cons head rest ih =>
      simp only [resolveNamed, state_bind_eq_ok, state_pure_eq_ok] at result
      obtain ⟨expr, _, exprResult, _, _, _, _, _, restResult, rfl⟩ := result
      cases position with
      | zero =>
          cases atPosition
          exact ⟨next, _, exprResult, rfl⟩
      | succ position => exact ih restResult atPosition

/-- The key at a position comes from the one that is written there. -/
theorem getElem?_of_resolveKeys {written : List SortKey} {next : Nat}
    {resolved : List SortKey × Nat}
    (result : resolveKeys scope schema written next = .ok resolved) {position : Nat}
    {key : SortKey} (atPosition : resolved.1[position]? = some key) :
    ∃ original start outcome, written[position]? = some original ∧
      original.expr.resolve scope schema start = .ok outcome ∧ key.expr = outcome.1 := by
  induction written generalizing next resolved position with
  | nil =>
      simp only [resolveKeys, state_pure_eq_ok] at result
      rw [← result] at atPosition
      cases atPosition
  | cons head rest ih =>
      simp only [resolveKeys, state_bind_eq_ok, state_pure_eq_ok] at result
      obtain ⟨expr, _, exprResult, _, _, restResult, rfl⟩ := result
      cases position with
      | zero =>
          cases atPosition
          exact ⟨head, next, _, rfl, exprResult, rfl⟩
      | succ position => exact ih restResult atPosition

theorem length_of_resolveKeys {written : List SortKey} {next : Nat}
    {resolved : List SortKey × Nat}
    (result : resolveKeys scope schema written next = .ok resolved) :
    resolved.1.length = written.length := by
  induction written generalizing next resolved with
  | nil =>
      simp only [resolveKeys, state_pure_eq_ok] at result
      rw [← result]
  | cons head rest ih =>
      simp only [resolveKeys, state_bind_eq_ok, state_pure_eq_ok] at result
      obtain ⟨_, _, _, _, _, restResult, rfl⟩ := result
      exact congrArg Nat.succ (ih restResult)

/-- The sort of an accepted query with an order, over the projection of its columns. -/
structure SortedProjection (scope : FunctionScope) (catalog : Catalog) (written : List NamedExpr)
    (sorting : List SortKey) (analyzed : Plan) (keys : List SortKey) (items : List NamedExpr)
    (inner : Plan) (source : Schema) (produced : List Column) : Prop where
  operator : .sort keys (.project items inner) ∈ analyzed.operators
  input : HasSchema catalog inner source
  columns : ∃ start after, resolveNamed scope source
    (if written.isEmpty then allColumns source else written) start
      = .ok ((items, produced), after)
  keys : ∃ start after, resolveKeys scope { columns := produced } sorting start
    = .ok (keys, after)

theorem SortedProjection.typed {written items : List NamedExpr} {sorting keys : List SortKey}
    {analyzed inner : Plan} {source : Schema} {produced : List Column}
    (projection : SortedProjection scope catalog written sorting analyzed keys items inner source
      produced) : HasSchema catalog (.project items inner) { columns := produced } := by
  obtain ⟨_, _, resolved⟩ := projection.columns
  exact .project projection.input (hasColumns_of_resolveNamed resolved)
    (columns_eq_nil_of_resolveNamed resolved)

/-- A limit keeps the columns and the operators of what it limits. -/
theorem analyzed_of_limitBy {limit offset : Option Syntax.Term} {inner plan : Plan}
    {next : Nat} {analyzed : (Plan × Schema) × Nat}
    (limited : limitBy limit offset inner = .ok plan)
    (result : plan.analyzeNode scope catalog next = .ok analyzed) :
    ∃ outcome, inner.analyzeNode scope catalog next = .ok outcome ∧
      outcome.1.2 = analyzed.1.2 ∧
      ∀ operator ∈ outcome.1.1.operators, operator ∈ analyzed.1.1.operators := by
  unfold limitBy at limited
  split at limited
  · cases limited
    exact ⟨_, result, rfl, fun _ member => member⟩
  · simp only [bind_eq_ok] at limited
    obtain ⟨_, _, _, _, made⟩ := limited
    cases made
    simp only [analyzeNode, state_bind_eq_ok, state_pure_eq_ok] at result
    obtain ⟨_, _, innerResult, rfl⟩ := result
    exact ⟨_, innerResult, rfl, fun _ member => List.mem_cons_of_mem _ member⟩

/-- **An accepted query with an order** sorts a projection of its columns. -/
theorem sortedProjection_of_analyzeNode {part : GroupedPart} {sorting : List SortKey}
    {input : Plan} {next : Nat} {analyzed : (Plan × Schema) × Nat} (some : sorting ≠ [])
    (star : part.columns = [] → part.hidden = [])
    (result : (projectSorted part sorting input).analyzeNode scope catalog next = .ok analyzed) :
    ∃ keys items inner source produced, SortedProjection scope catalog
        (part.columns ++ part.hidden) sorting analyzed.1.1 keys items inner source produced ∧
      (part.columns = [] → analyzed.1.2 = { columns := produced }) ∧
      (part.columns ≠ [] → analyzed.1.2.names = part.columns.map NamedExpr.name) := by
  have sorts : sortBy sorting (.project (part.columns ++ part.hidden) input)
      = .sort sorting (.project (part.columns ++ part.hidden) input) := by
    rw [sortBy, if_neg (by simpa [List.isEmpty_iff] using some)]
  -- The sort itself, whatever stands on top of it.
  have sorted : ∀ {analyzed : (Plan × Schema) × Nat}, (Plan.sort sorting
      (.project (part.columns ++ part.hidden) input)).analyzeNode scope catalog next
        = .ok analyzed → ∃ keys items inner source produced, SortedProjection scope catalog
          (part.columns ++ part.hidden) sorting analyzed.1.1 keys items inner source produced ∧
          analyzed.1.2 = { columns := produced } := by
    intro analyzed accepted
    simp only [analyzeNode, state_bind_eq_ok, state_pure_eq_ok] at accepted
    obtain ⟨_, _, ⟨⟨inner, source⟩, start, innerResult, ⟨items, produced⟩, _, itemsResult,
      projected⟩, sorted⟩ := accepted
    cases projected
    obtain ⟨keys, final, keysResult, rfl⟩ := sorted
    exact ⟨keys, items, inner, source, produced, ⟨mem_operators_self _,
      hasSchema_of_analyzeNode innerResult, ⟨start, _, itemsResult⟩,
      ⟨_, final, keysResult⟩⟩, rfl⟩
  unfold projectSorted at result
  dsimp only at result
  rw [sorts] at result
  split at result
  · next noHidden =>
      obtain ⟨keys, items, inner, source, produced, projection, made⟩ := sorted result
      refine ⟨keys, items, inner, source, produced, projection, fun _ => made, ?_⟩
      intro listed
      obtain ⟨start, after, itemsResult⟩ := projection.columns
      have written : (part.columns ++ part.hidden).isEmpty = false := by
        simp [List.isEmpty_eq_false_iff, listed]
      rw [written, if_neg Bool.false_ne_true] at itemsResult
      have names := names_of_resolveNamed itemsResult
      rw [List.isEmpty_iff.mp noHidden, List.append_nil] at names
      rw [made]
      exact names
  · next hidden =>
      have listed : part.columns ≠ [] := fun none => hidden (List.isEmpty_iff.mpr (star none))
      rw [analyzeNode] at result
      simp only [state_bind_eq_ok, state_pure_eq_ok] at result
      obtain ⟨outcome, _, sortResult, ⟨visible, shown⟩, _, visibleResult, rfl⟩ := result
      obtain ⟨keys, items, inner, source, produced, projection, -⟩ := sorted sortResult
      refine ⟨keys, items, inner, source, produced, { projection with
        operator := List.mem_cons_of_mem _ projection.operator }, fun none => absurd none listed,
        fun _ => ?_⟩
      have written : (NamedExpr.passThrough part.columns).isEmpty = false := by
        simpa [List.isEmpty_eq_false_iff, NamedExpr.passThrough] using listed
      rw [written, if_neg Bool.false_ne_true] at visibleResult
      have names := names_of_resolveNamed visibleResult
      rw [NamedExpr.passThrough, List.map_map] at names
      exact names

/-- The result columns of an accepted query are found like its items. -/
theorem indexOf?_eq_positionOf? {columns : List NamedExpr}
    (names : schema.names = columns.map NamedExpr.name) (name : String) :
    schema.indexOf? name = positionOf? columns name := by
  rw [Schema.indexOf?_eq_names, names, List.findIdx?_map, positionOf?]
  rfl

/-- The names of all columns are names that are passed through. -/
theorem passThrough_allColumns (schema : Schema) :
    NamedExpr.passThrough (allColumns schema) = allColumns schema := by
  rw [NamedExpr.passThrough, allColumns, List.map_map]
  rfl

theorem names_allColumns (schema : Schema) :
    schema.names = (allColumns schema).map NamedExpr.name := by
  rw [allColumns, List.map_map]
  rfl

end Plan

end ScalarSql
