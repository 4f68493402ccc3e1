import ScalarSql.Proofs.Plan.Order
import ScalarSql.Proofs.Session.Groupings

/-!
# What an order does to a query

A query with an order is answered by the plan of the query without it, with a sort on top.
Sort keys that are no columns of the result add hidden columns, which a second projection
drops again.  That projection refers to the visible columns by name, so that each of them
is read from the first column of its name, `QueryResult.reread`.

**Main result.**  `Session.answer_orderBy`: the answer with the order is a permutation of
the answer without it, read again by name if there are hidden columns.  The order therefore
only reorders exactly when reading again changes nothing, and it does change nothing if no
two columns have the same name.

**Aggregates.**  The aggregate calls of the sort keys come between those of the select list
and those of the condition on groups.  The statement asks that they take no name away from
an aggregate that the query without the order refers to, `SameOutput`.
-/

set_option autoImplicit false

namespace ScalarSql

/-! ## Reading a result again -/

namespace QueryResult

/-- The result with every column read from the first column of its name. -/
def reread (result : QueryResult) : QueryResult where
  columns := result.columns.filterMap fun column =>
    ((result.columnIndex? column.name).bind (result.columns[·]?)).map fun first =>
      { name := column.name, type := first.type }
  rows := result.rows.map fun row =>
    result.columns.filterMap fun column => (result.columnIndex? column.name).bind (row[·]?)

/-- No two columns have the same name, ignoring case. -/
def Distinct (result : QueryResult) : Prop :=
  result.columns.Pairwise fun left right => Text.sameName left.name right.name = false

/-- Columns of different names are found at their own positions. -/
theorem Distinct.columnIndex? {result : QueryResult} (distinct : result.Distinct)
    {index : Nat} {column : Column} (atIndex : result.columns[index]? = some column) :
    result.columnIndex? column.name = some index := by
  obtain ⟨bound, rfl⟩ := List.getElem?_eq_some_iff.mp atIndex
  refine List.findIdx?_eq_some_iff_getElem.mpr ⟨bound, Text.sameName_refl _, ?_⟩
  intro earlier before
  rw [List.pairwise_iff_getElem.mp distinct earlier index (by omega) bound before]
  exact Bool.false_ne_true

/-- Picking the item at the own position of every column gives all items. -/
theorem filterMap_position {α β : Type} {columns : List β} {items : List α}
    {position : β → Option Nat} (aligned : items.length = columns.length)
    (own : ∀ (index : Nat) (column : β), columns[index]? = some column →
      position column = some index) :
    (columns.filterMap fun column => (position column).bind (items[·]?)) = items := by
  have found : columns.map (fun column => (position column).bind (items[·]?))
      = items.map some := by
    refine List.ext_getElem? fun index => ?_
    rw [List.getElem?_map, List.getElem?_map]
    cases atIndex : columns[index]? with
    | none =>
        have beyond := List.getElem?_eq_none_iff.mp atIndex
        rw [List.getElem?_eq_none (aligned ▸ beyond)]
        rfl
    | some column =>
        obtain ⟨bound, -⟩ := List.getElem?_eq_some_iff.mp atIndex
        have inItems : index < items.length := aligned ▸ bound
        simp [own index column atIndex, List.getElem?_eq_getElem inItems]
  calc (columns.filterMap fun column => (position column).bind (items[·]?))
      = (columns.map fun column => (position column).bind (items[·]?)).filterMap id := by
        rw [List.filterMap_map]
        rfl
    _ = (items.map some).filterMap id := by rw [found]
    _ = items := List.filterMap_map.trans List.filterMap_some

/-- **Reading again changes nothing** if no two columns have the same name. -/
theorem reread_eq_self {result : QueryResult} (distinct : result.Distinct)
    (aligned : ∀ row ∈ result.rows, row.length = result.columns.length) :
    result.reread = result := by
  have columns : (result.columns.filterMap fun column =>
      ((result.columnIndex? column.name).bind (result.columns[·]?)).map fun first =>
        ({ name := column.name, type := first.type } : Column)) = result.columns := by
    refine (List.filterMap_congr fun column member => ?_).trans List.filterMap_some
    obtain ⟨index, atIndex⟩ := List.mem_iff_getElem?.mp member
    simp [distinct.columnIndex? atIndex, atIndex]
  have rows : (result.rows.map fun row => result.columns.filterMap fun column =>
      (result.columnIndex? column.name).bind (row[·]?)) = result.rows := by
    refine (List.map_congr_left fun row member => ?_).trans (List.map_id _)
    exact filterMap_position (aligned row member) fun _ _ => distinct.columnIndex?
  rw [reread, columns, rows]

end QueryResult

/-- What is left of a result once the hidden columns of an order are dropped. -/
def SelectParts.seen (parts : SelectParts) (result : QueryResult) : QueryResult :=
  if parts.part.hidden.isEmpty then result else result.reread

namespace Session

variable {session : Session}

/-! ## Sorting and the second projection -/

theorem Ran.sortBy {keys : List SortKey} {input : Plan} {schema : Schema}
    {runs : List RowRun} (ran : session.Ran (Plan.sortBy keys input) schema runs) :
    ∃ inner, session.Ran input schema inner ∧
      (RowRun.flatten runs).Perm (RowRun.flatten inner) := by
  unfold Plan.sortBy at ran
  split at ran
  · exact ⟨runs, ran, .refl _⟩
  · exact ran.sort

/-- Columns that are passed through are looked up by name. -/
theorem eq_of_resolveNamed_passThrough {source : Schema} {columns : List NamedExpr}
    {next : Nat} {resolved : (List NamedExpr × List Column) × Nat}
    (result : Plan.resolveNamed session.scope source (NamedExpr.passThrough columns) next
      = .ok resolved) :
    resolved.1.1 = NamedExpr.passThrough columns ∧
      resolved.1.2 = columns.filterMap fun column => (source.column? column.name).map fun first =>
        { name := column.name, type := first.type } := by
  induction columns generalizing next resolved with
  | nil =>
      simp only [NamedExpr.passThrough, List.map_nil, Plan.resolveNamed, state_pure_eq_ok]
        at result
      rw [← result]
      exact ⟨rfl, rfl⟩
  | cons column rest ih =>
      simp only [NamedExpr.passThrough, List.map_cons, Plan.resolveNamed, state_bind_eq_ok,
        state_lift_eq_ok, state_pure_eq_ok] at result
      obtain ⟨_, _, columnResult, type, _, ⟨computed, -⟩, _, _, restResult, rfl⟩ := result
      obtain ⟨items, columns⟩ := ih restResult
      obtain ⟨-, resolvedColumn⟩ := Expr.of_resolveColumn columnResult
      dsimp only at resolvedColumn items columns
      rw [resolvedColumn, Expr.dataType] at computed
      cases declared : source.column? column.name with
      | none => simp [declared] at computed
      | some found =>
          simp only [declared, Except.ok.injEq] at computed
          rw [← computed]
          refine ⟨by rw [resolvedColumn, items]; rfl, ?_⟩
          simp only [List.filterMap_cons, declared, Option.map_some, columns]

/-- The value of a column is that at the position of its name. -/
theorem evaluateColumn_eq_ok {context : RowContext} {name : String} {value : Value}
    (evaluated : Expr.evaluateColumn context name = .ok value) :
    (context.schema.indexOf? name).bind (context.row[·]?) = some value := by
  unfold Expr.evaluateColumn at evaluated
  split at evaluated
  · cases evaluated
  · next index position =>
      split at evaluated
      · cases evaluated
      · next atIndex =>
          cases evaluated
          rw [position, Option.bind_some, atIndex]

/-- The values of columns that are passed through. -/
theorem evaluateAll_passThrough {context : RowContext} {columns : List NamedExpr}
    {values : List Value}
    (evaluated : Expr.evaluateAll context ((NamedExpr.passThrough columns).map fun item =>
      session.rewriting item.expr) = .ok values) :
    values = columns.filterMap fun column =>
      (context.schema.indexOf? column.name).bind (context.row[·]?) := by
  have pairs := Expr.evaluateAll_eq_ok.mp evaluated
  rw [NamedExpr.passThrough, List.map_map, List.forall₂_map_left_iff] at pairs
  clear evaluated
  induction pairs with
  | nil => rfl
  | cons here _ ih =>
      simp only [Function.comp_apply, session.rewriter_rewriting.column, Expr.evaluate] at here
      rw [List.filterMap_cons, evaluateColumn_eq_ok here, ← ih]

/-- A projection whose values are a function of the row maps all rows. -/
theorem flatten_of_project {source : Schema} {policy : FailurePolicy} {exprs : List Expr}
    {values : Row → Row}
    (each : ∀ row index result,
      Expr.evaluateAll { schema := source, policy, row, index } exprs = .ok result →
        result = values row)
    {runs results : List RowRun}
    (projected : RowRun.mapEach (fun run =>
      (projectRows source policy exprs run.offset run.rows).map
        fun rows => { run with rows }) runs = .ok results) :
    RowRun.flatten results = (RowRun.flatten runs).map values := by
  have same := (RowRun.forall₂_of_project projected).imp fun row result evaluated =>
    (evaluated.elim fun index evaluated => each row index result evaluated).symm
  rw [← List.forall₂_map_left_iff, List.forall₂_eq_eq_eq] at same
  exact same.symm

/-- **The second projection** looks every visible column up by its name. -/
theorem Ran.passThrough {columns : List NamedExpr} {input : Plan} {schema : Schema}
    {runs : List RowRun} (listed : columns ≠ [])
    (ran : session.Ran (.project (NamedExpr.passThrough columns) input) schema runs) :
    ∃ source inner, session.Ran input source inner ∧
      (schema.columns = columns.filterMap fun column =>
        (source.column? column.name).map fun first =>
          { name := column.name, type := first.type }) ∧
      RowRun.flatten runs = (RowRun.flatten inner).map fun row =>
        columns.filterMap fun column => (source.indexOf? column.name).bind (row[·]?) := by
  obtain ⟨source, inner, _, items, produced, _, innerRan, resolved, projected, rfl⟩ := ran.project
  have some : (NamedExpr.passThrough columns).isEmpty = false := by
    simpa [List.isEmpty_eq_false_iff, NamedExpr.passThrough] using listed
  rw [some, if_neg Bool.false_ne_true] at resolved
  obtain ⟨rfl, rfl⟩ := eq_of_resolveNamed_passThrough resolved
  refine ⟨source, inner, innerRan, rfl, flatten_of_project (fun row index values => ?_) projected⟩
  exact evaluateAll_passThrough

/-- **A projection with hidden columns** next to the same projection without them, over
inputs that agree: the hidden columns come last, in the schema and in every row. -/
theorem Agrees.project {wanted : String → Prop} {left right : Plan}
    (agrees : session.Agrees wanted left right) {shared hidden : List NamedExpr}
    (named : ∀ item ∈ shared, ∀ name ∈ item.expr.columnNames, wanted name)
    (star : shared = [] → hidden = [] ∧ ∀ {first second : Schema} {leftRuns rightRuns},
      session.Ran left first leftRuns → session.Ran right second rightRuns →
        first = second ∧ ∀ name, wanted name)
    {first second : Schema} {leftRuns rightRuns : List RowRun}
    (leftRan : session.Ran (.project (shared ++ hidden) left) first leftRuns)
    (rightRan : session.Ran (.project shared right) second rightRuns) :
    ∃ extra, first.columns = second.columns ++ extra ∧ (hidden = [] → extra = []) ∧
      (shared ≠ [] → second.columns.map Column.name = shared.map NamedExpr.name) ∧
      RowRun.flatten rightRuns
        = (RowRun.flatten leftRuns).map (List.take second.columns.length) ∧
      ∀ row ∈ RowRun.flatten leftRuns, row.length = first.columns.length := by
  obtain ⟨source, inner, _, items, produced, _, leftInner, leftResolved, leftProjected, rfl⟩ :=
    leftRan.project
  obtain ⟨other, others, _, rightItems, rightProduced, _, rightInner, rightResolved,
    rightProjected, rfl⟩ := rightRan.project
  obtain ⟨schemas, runs⟩ := agrees leftInner rightInner
  have written : ∃ front, (if (shared ++ hidden).isEmpty then Plan.allColumns source
        else shared ++ hidden) = front ++ hidden ∧
      (if shared.isEmpty then Plan.allColumns other else shared) = front ∧
      (∀ item ∈ front, ∀ name ∈ item.expr.columnNames, wanted name) ∧
      (shared ≠ [] → front = shared) := by
    cases shared with
    | nil =>
        obtain ⟨rfl, unique⟩ := star rfl
        obtain ⟨rfl, all⟩ := unique leftInner rightInner
        exact ⟨Plan.allColumns source, by simp, rfl, fun _ _ name _ => all name,
          fun listed => absurd rfl listed⟩
    | cons item rest => exact ⟨item :: rest, rfl, rfl, named, fun _ => rfl⟩
  obtain ⟨front, leftWritten, rightWritten, frontNamed, listed⟩ := written
  rw [leftWritten] at leftResolved
  rw [rightWritten] at rightResolved
  obtain ⟨frontItems, frontColumns, _, backItems, backColumns, frontResolved, backResolved,
    same⟩ := Plan.resolveNamed_append leftResolved
  cases same
  obtain ⟨alike, sameColumns⟩ :=
    Plan.resolveNamed_agree schemas frontNamed frontResolved rightResolved
  dsimp only at alike sameColumns
  subst sameColumns
  obtain ⟨frontLength, columnsLength⟩ := Plan.length_of_resolveNamed frontResolved
  have allLengths := Plan.length_of_resolveNamed leftResolved
  dsimp only at frontLength columnsLength allLengths
  rw [List.map_append] at leftProjected
  refine ⟨backColumns, rfl, ?_, ?_, ?_, ?_⟩
  · rintro rfl
    exact List.length_eq_zero_iff.mp (Plan.length_of_resolveNamed backResolved).2
  · intro some
    rw [← listed some]
    exact Plan.names_of_resolveNamed frontResolved
  · have extended := RowRun.flatten_project
      (Plan.alike_map session.rewriter_rewriting alike) runs leftProjected rightProjected
    rwa [List.length_map, frontLength, ← columnsLength] at extended
  · intro row member
    rw [RowRun.length_of_project leftProjected row member, ← List.map_append, List.length_map,
      allLengths.1, allLengths.2]

/-! ## Answers with and without an order -/

/-- What an answered query runs. -/
theorem ran_of_answer_select {query : Syntax.Query} {select : Syntax.Select}
    {parts : SelectParts} {next : Nat} {outcome : QueryResult × Nat}
    (body : query.body = .select select) (unlimited : query.limit = none)
    (whole : query.offset = none)
    (read : Plan.readSelect session.tableColumns select query.order = .ok parts)
    (answered : session.answer (.query query) next = .ok outcome) :
    ∃ schema runs, (parts.grouped = true → parts.part.columns ≠ []) ∧
      session.Ran (Plan.projectSorted parts.above parts.sorting
        (Plan.filterBy parts.above.having parts.below)) schema runs ∧
      outcome.1 = { columns := schema.columns, rows := RowRun.flatten runs } := by
  obtain ⟨draft, schema, runs, planned, ran, made⟩ := ran_of_answer answered
  simp only [Plan.ofStatement, Plan.ofQuery, body, Plan.ofSelect_eq, read, bind_eq_ok]
    at planned
  obtain ⟨plan, ⟨_, same, assembled⟩, limited⟩ := planned
  cases same
  rw [unlimited, whole] at limited
  cases limited
  obtain ⟨rfl, listed⟩ := Plan.eq_of_assemble assembled
  exact ⟨schema, runs, listed, ran, made⟩

/-- The names that the select list and the condition on groups of a grouped query refer
to. -/
theorem names_of_above {parts : SelectParts} (grouped : parts.grouped = true)
    {wanted : String → Prop}
    (named : ∀ reference ∈ parts.unsorted.references, wanted reference.name) :
    (∀ item ∈ parts.above.columns, ∀ name ∈ item.expr.columnNames, wanted name) ∧
      ∀ predicate ∈ parts.above.having, ∀ name ∈ predicate.columnNames, wanted name := by
  have all : ∀ name ∈ parts.unsorted.rewritten.columnNames, wanted name := by
    rw [Plan.columnNames_parts, List.forall_mem_map]
    exact named
  have above : parts.above = parts.rewritten := by rw [SelectParts.above, if_pos grouped]
  rw [above]
  constructor
  · intro item member name inItem
    refine all name (List.mem_append_left _ (List.mem_flatMap.mpr ⟨item, ?_, inItem⟩))
    exact List.mem_append_left _ member
  · intro predicate member name inPredicate
    refine all name (List.mem_append_right _ (List.mem_flatMap.mpr ⟨predicate, ?_, inPredicate⟩))
    exact Option.mem_toList.mpr member

/-- The rows that a query is about agree with those of the query without its order. -/
theorem agrees_below {select : Syntax.Select} {order : List Syntax.OrderItem}
    {parts : SelectParts}
    (read : Plan.readSelect session.tableColumns select order = .ok parts)
    (same : parts.grouped = parts.unsorted.grouped)
    (undisturbed : ∀ reference ∈ parts.unsorted.references,
      SameOutput parts.keys parts.part.aggregateCalls parts.unsorted.part.aggregateCalls
        reference.name) :
    ∃ wanted : String → Prop, session.Agrees wanted parts.below parts.unsorted.below ∧
      (∀ item ∈ parts.above.columns, ∀ name ∈ item.expr.columnNames, wanted name) ∧
      (∀ predicate ∈ parts.above.having, ∀ name ∈ predicate.columnNames, wanted name) ∧
      (parts.grouped = false → (∀ name, wanted name) ∧
        ∀ {first second : Schema} {left right : List RowRun},
          session.Ran parts.below first left → session.Ran parts.unsorted.below second right →
            first = second) := by
  obtain ⟨⟨source, condition, planned, input⟩, -⟩ := Plan.of_readSelect read
  cases grouped : parts.grouped with
  | false =>
      have ungrouped : parts.unsorted.grouped = false := same ▸ grouped
      have left : parts.below = Plan.filterBy condition source := by
        rw [SelectParts.below, grouped, if_neg Bool.false_ne_true, input]
      have right : parts.unsorted.below = Plan.filterBy condition source := by
        rw [SelectParts.below, ungrouped, if_neg Bool.false_ne_true, ← input]
        rfl
      rw [left, right]
      exact ⟨fun _ => True, agrees_input planned condition, fun _ _ _ _ => trivial,
        fun _ _ _ _ => trivial, fun _ => ⟨fun _ => trivial, fun leftRan rightRan =>
          (leftRan.input_unique planned rightRan).1⟩⟩
  | true =>
      have shared : ∀ (calls : List Aggregate) (name : String),
          (addAggregates [] calls).find? (Text.sameName ·.name name)
            = calls.find? (Text.sameName ·.name name) := fun calls name =>
        find?_addAggregates (Text.sameName ·.name name) (fun left right same => by rw [same]) []
          calls
      have outputs : ∀ reference ∈ parts.unsorted.references,
          SameOutput parts.keys parts.aggregates parts.unsorted.aggregates reference.name := by
        intro reference member
        have calls := undisturbed reference member
        rwa [SameOutput, SelectParts.aggregates, SelectParts.aggregates, shared, shared]
      obtain ⟨columnsNamed, havingNamed⟩ := names_of_above grouped outputs
      refine ⟨_, ?_, columnsNamed, havingNamed, fun impossible => Bool.noConfusion impossible⟩
      have stillGrouped : parts.unsorted.grouped = true := same ▸ grouped
      have left : parts.below
          = .aggregate parts.keys parts.aggregates (Plan.filterBy condition source) := by
        rw [SelectParts.below, grouped, if_pos rfl, ← input]
        rfl
      have right : parts.unsorted.below
          = .aggregate parts.keys parts.unsorted.aggregates (Plan.filterBy condition source) := by
        rw [SelectParts.below, stillGrouped, if_pos rfl, ← input]
        rfl
      rw [left, right]
      exact agrees_groupings planned condition parts.keys parts.aggregates
        parts.unsorted.aggregates

/-- A condition does not change the columns of its input. -/
theorem Ran.of_filterBy {condition : Option Expr} {input : Plan} {schema : Schema}
    {runs : List RowRun} (ran : session.Ran (Plan.filterBy condition input) schema runs) :
    ∃ inner, session.Ran input schema inner := by
  cases condition with
  | none => exact ⟨runs, ran⟩
  | some predicate =>
      obtain ⟨inner, _, _, _, innerRan, -⟩ := ran.filter
      exact ⟨inner, innerRan⟩

/-- The projection of a query, under the sort and the second projection. -/
theorem Ran.projectSorted {part : Plan.GroupedPart} {keys : List SortKey} {input : Plan}
    {schema : Schema} {runs : List RowRun} (star : part.columns = [] → part.hidden = [])
    (ran : session.Ran (Plan.projectSorted part keys input) schema runs) :
    ∃ middle inner, session.Ran (.project (part.columns ++ part.hidden) input) middle inner ∧
      ((part.hidden = [] ∧ schema = middle ∧
          (RowRun.flatten runs).Perm (RowRun.flatten inner)) ∨
        (part.hidden ≠ [] ∧ part.columns ≠ [] ∧
          (schema.columns = part.columns.filterMap fun column =>
            (middle.column? column.name).map fun first =>
              { name := column.name, type := first.type }) ∧
          (RowRun.flatten runs).Perm ((RowRun.flatten inner).map fun row =>
            part.columns.filterMap fun column =>
              (middle.indexOf? column.name).bind (row[·]?)))) := by
  unfold Plan.projectSorted at ran
  dsimp only at ran
  split at ran
  · next none =>
      obtain ⟨inner, innerRan, sorted⟩ := ran.sortBy
      exact ⟨schema, inner, innerRan, .inl ⟨List.isEmpty_iff.mp none, rfl, sorted⟩⟩
  · next some =>
      have hidden : part.hidden ≠ [] := fun none => some (List.isEmpty_iff.mpr none)
      have listed : part.columns ≠ [] := fun none => hidden (star none)
      obtain ⟨middle, sortedRuns, sortedRan, columns, rows⟩ := ran.passThrough listed
      obtain ⟨inner, innerRan, sorted⟩ := sortedRan.sortBy
      exact ⟨middle, inner, innerRan, .inr ⟨hidden, listed, columns, rows ▸ sorted.map _⟩⟩

/-- Columns passed through a projection with hidden columns at the end are read again from
the result without them. -/
theorem reread_of_passThrough {source : Schema} {columns extra : List Column}
    {items : List NamedExpr} (declared : source.columns = columns ++ extra)
    (named : columns.map Column.name = items.map NamedExpr.name) (rows : List Row) :
    let result : QueryResult := { columns, rows := rows.map (List.take columns.length) }
    (items.filterMap fun item => (source.column? item.name).map fun first =>
        ({ name := item.name, type := first.type } : Column)) = result.reread.columns ∧
      (rows.map fun row => items.filterMap fun item =>
        (source.indexOf? item.name).bind (row[·]?)) = result.reread.rows := by
  intro result
  have found : ∀ column ∈ columns, ∃ index < columns.length,
      source.indexOf? column.name = some index ∧ result.columnIndex? column.name = some index := by
    intro column member
    cases position : result.columnIndex? column.name with
    | none =>
        have refused := List.findIdx?_eq_none_iff.mp position column member
        rw [Text.sameName_refl] at refused
        cases refused
    | some index =>
        obtain ⟨bound, -⟩ := List.findIdx?_eq_some_iff_getElem.mp position
        refine ⟨index, bound, ?_, rfl⟩
        have inFront : columns.findIdx? (Text.sameName ·.name column.name) = some index := position
        rw [Schema.indexOf?, declared, List.findIdx?_append, inFront]
        rfl
  have byName : ∀ {α : Type} (f : String → Option α),
      items.filterMap (fun item => f item.name)
        = columns.filterMap fun column => f column.name := by
    intro α f
    have names := congrArg (List.filterMap f) named
    rw [List.filterMap_map, List.filterMap_map] at names
    exact names.symm
  constructor
  · rw [byName fun name => (source.column? name).map fun first =>
      ({ name, type := first.type } : Column)]
    refine List.filterMap_congr fun column member => ?_
    obtain ⟨index, bound, inSource, inResult⟩ := found column member
    rw [Schema.column?_eq_bind, inSource, inResult, declared]
    simp only [Option.bind_some, List.getElem?_append_left bound, result]
  · simp only [QueryResult.reread, result, List.map_map]
    refine List.map_congr_left fun row _ => ?_
    rw [byName fun name => (source.indexOf? name).bind (row[·]?)]
    refine List.filterMap_congr fun column member => ?_
    obtain ⟨index, bound, inSource, inResult⟩ := found column member
    have inTake : result.columnIndex? column.name = some index := inResult
    simp only [result] at inTake
    rw [inSource, inTake]
    simp only [Option.bind_some, List.getElem?_take_of_lt bound]

theorem map_take_eq_self {columns : List Column} {rows : List Row}
    (long : ∀ row ∈ rows, row.length = columns.length) :
    rows.map (List.take columns.length) = rows := by
  refine (List.map_congr_left fun row member => ?_).trans (List.map_id _)
  exact List.take_of_length_le (Nat.le_of_eq (long row member))

theorem length_of_mem_map_take {columns extra : List Column} {rows : List Row}
    (long : ∀ row ∈ rows, row.length = (columns ++ extra).length) :
    ∀ row ∈ rows.map (List.take columns.length), row.length = columns.length := by
  intro row member
  obtain ⟨longer, inRows, rfl⟩ := List.mem_map.mp member
  have length := long longer inRows
  rw [List.length_append] at length
  rw [List.length_take]
  omega

/-- The answer with an order is that without it, read again by name if there are hidden
keys; every row of the answer without it has a value for each column. -/
theorem answer_seen {query plain : Syntax.Query} {select : Syntax.Select}
    {parts : SelectParts} {next plainNext : Nat} {ordered unordered : QueryResult × Nat}
    (body : query.body = .select select) (plainBody : plain.body = .select select)
    (noOrder : plain.order = [])
    (unlimited : query.limit = none ∧ query.offset = none)
    (plainUnlimited : plain.limit = none ∧ plain.offset = none)
    (read : Plan.readSelect session.tableColumns select query.order = .ok parts)
    (allowed : parts.unsorted.grouped = true ∨
      NamedExpr.aggregateCalls parts.part.hidden = [])
    (undisturbed : ∀ reference ∈ parts.unsorted.references,
      SameOutput parts.keys parts.part.aggregateCalls parts.unsorted.part.aggregateCalls
        reference.name)
    (answered : session.answer (.query query) next = .ok ordered)
    (plainAnswered : session.answer (.query plain) plainNext = .ok unordered) :
    (ordered.1.columns = (parts.seen unordered.1).columns ∧
        ordered.1.rows.Perm (parts.seen unordered.1).rows) ∧
      ∀ row ∈ unordered.1.rows, row.length = unordered.1.columns.length := by
  have same := SelectParts.grouped_unsorted allowed
  obtain ⟨-, starHidden, plainRead⟩ := Plan.of_readSelect read
  rw [← noOrder] at plainRead
  obtain ⟨schema, runs, listed, ran, made⟩ :=
    ran_of_answer_select body unlimited.1 unlimited.2 read answered
  obtain ⟨plainSchema, plainRuns, -, plainRan, plainMade⟩ :=
    ran_of_answer_select plainBody plainUnlimited.1 plainUnlimited.2 plainRead plainAnswered
  obtain ⟨wanted, below, columnsNamed, havingNamed, all⟩ := agrees_below read same undisturbed
  have star : parts.above.columns = [] → parts.above.hidden = [] := fun none =>
    parts.hidden_above.mpr (starHidden (by simpa [none] using parts.names_above.symm))
  -- Under the sort both queries are projections over two groupings of the same rows.
  rw [SelectParts.above_unsorted same] at plainRan
  obtain ⟨middle, inner, innerRan, shape⟩ := ran.projectSorted star
  obtain ⟨plainMiddle, plainInner, plainInnerRan, plainShape⟩ :=
    plainRan.projectSorted fun _ => rfl
  obtain ⟨-, rfl, plainSorted⟩ := plainShape.resolve_right fun impossible => impossible.1 rfl
  rw [List.append_nil] at plainInnerRan
  have unlisted : parts.above.columns = [] → parts.grouped = false := by
    intro none
    cases grouped : parts.grouped with
    | false => rfl
    | true => exact absurd (by simpa [none] using parts.names_above.symm) (listed grouped)
  obtain ⟨extra, declared, noExtra, named, rows, lengths⟩ :=
    (below.filterBy havingNamed).project columnsNamed (fun none => ⟨star none, by
      intro first second leftRuns rightRuns leftRan rightRan
      obtain ⟨wanted, unique⟩ := all (unlisted none)
      obtain ⟨_, leftBelow⟩ := leftRan.of_filterBy
      obtain ⟨_, rightBelow⟩ := rightRan.of_filterBy
      exact ⟨unique leftBelow rightBelow, wanted⟩⟩) innerRan plainInnerRan
  rw [made, plainMade]
  constructor
  · rcases shape with ⟨hidden, rfl, sorted⟩ | ⟨hidden, columns, sameColumns, sorted⟩
    · -- Without hidden columns there is no second projection.
      have noHidden := parts.hidden_above.mp hidden
      rw [noExtra hidden, List.append_nil] at declared
      have whole : RowRun.flatten plainInner = RowRun.flatten inner :=
        rows.trans (map_take_eq_self (declared ▸ lengths))
      rw [SelectParts.seen, noHidden, List.isEmpty_nil, if_pos rfl]
      exact ⟨declared, (sorted.trans (whole ▸ .refl _)).trans plainSorted.symm⟩
    · have someHidden : parts.part.hidden.isEmpty = false := by
        simpa [List.isEmpty_eq_false_iff] using fun none => hidden (parts.hidden_above.mpr none)
      obtain ⟨rereadColumns, rereadRows⟩ :=
        reread_of_passThrough declared (named columns) (RowRun.flatten inner)
      rw [SelectParts.seen, someHidden, if_neg Bool.false_ne_true]
      refine ⟨sameColumns.trans rereadColumns, sorted.trans ?_⟩
      rw [rereadRows, ← rows]
      exact (plainSorted.map _).symm
  · intro row member
    have inInner := plainSorted.mem_iff.mp member
    rw [rows] at inInner
    exact length_of_mem_map_take (declared ▸ lengths) row inInner

/-- **What an order does to a query.**  A query without limit and offset is answered with
its order and without it.  The order has no aggregate calls among its hidden keys unless
the query groups its rows anyway, and its calls take no name away from an aggregate that
the query without the order refers to.  Then the answer with the order has the columns and,
in some order, the rows of the answer without it, read again by name if there are hidden
keys.

So the order only reorders exactly when reading again keeps the columns and, up to order,
the rows, and in particular if there are no hidden keys or no two columns have the same
name. -/
theorem answer_orderBy (session : Session) (query plain : Syntax.Query)
    (select : Syntax.Select) (parts : SelectParts) (next plainNext : Nat)
    (ordered unordered : QueryResult × Nat)
    (body : query.body = .select select) (plainBody : plain.body = .select select)
    (noOrder : plain.order = [])
    (unlimited : query.limit = none ∧ query.offset = none)
    (plainUnlimited : plain.limit = none ∧ plain.offset = none)
    (read : Plan.readSelect session.tableColumns select query.order = .ok parts)
    (allowed : parts.unsorted.grouped = true ∨
      NamedExpr.aggregateCalls parts.part.hidden = [])
    (undisturbed : ∀ reference ∈ parts.unsorted.references,
      SameOutput parts.keys parts.part.aggregateCalls parts.unsorted.part.aggregateCalls
        reference.name)
    (answered : session.answer (.query query) next = .ok ordered)
    (plainAnswered : session.answer (.query plain) plainNext = .ok unordered) :
    (ordered.1.columns = (parts.seen unordered.1).columns ∧
        ordered.1.rows.Perm (parts.seen unordered.1).rows) ∧
      ((ordered.1.columns = unordered.1.columns ∧ ordered.1.rows.Perm unordered.1.rows) ↔
        (parts.seen unordered.1).columns = unordered.1.columns ∧
          (parts.seen unordered.1).rows.Perm unordered.1.rows) ∧
      (parts.part.hidden = [] ∨ unordered.1.Distinct →
        parts.seen unordered.1 = unordered.1) := by
  obtain ⟨⟨columns, rows⟩, aligned⟩ := answer_seen body plainBody noOrder unlimited plainUnlimited
    read allowed undisturbed answered plainAnswered
  refine ⟨⟨columns, rows⟩, ⟨fun only => ?_, fun unchanged => ?_⟩, fun clear => ?_⟩
  · exact ⟨columns.symm.trans only.1, rows.symm.trans only.2⟩
  · exact ⟨columns.trans unchanged.1, rows.trans unchanged.2⟩
  · rcases clear with noHidden | distinct
    · rw [SelectParts.seen, noHidden, List.isEmpty_nil, if_pos rfl]
    · rw [SelectParts.seen, QueryResult.reread_eq_self distinct aligned, ite_self]

/-- `SELECT a AS x, b AS x FROM t ORDER BY c`: the hidden column for `c` makes both columns
be read from the first one, so that the order does more than reorder. -/
theorem answer_orderBy_of_aliases :
    let name (text : String) : Syntax.Name := ⟨text, none⟩
    let batch : Batch := {
      columns := [("a", .int32), ("b", .int32), ("c", .int32)]
      rows := [[.number 1, .number 10, .number 5], [.number 2, .number 20, .number 4]] }
    let session := match (ofConfig {} {}).registerTable "t" [batch] with
      | .ok made => made
      | .error _ => ofConfig {} {}
    let select : Syntax.Select := {
      distinct := false
      items := [.aliased (.identifier (name "a")) (name "x"),
        .aliased (.identifier (name "b")) (name "x")]
      sources := [⟨.table [name "t"] none, false, "t"⟩]
      condition := none
      grouping := .terms []
      having := none }
    let plain : Syntax.Query :=
      { body := .select select, order := [], limit := none, offset := none, spelling := "" }
    let query : Syntax.Query :=
      { plain with order := [⟨.identifier (name "c"), none, none, ""⟩] }
    let row (left right : Int) : Row :=
      [.int (BoundedInt.wrap left), .int (BoundedInt.wrap right)]
    let ordered : QueryResult :=
      { columns := [⟨"x", .int⟩, ⟨"x", .int⟩], rows := [row 2 2, row 1 1] }
    let unordered : QueryResult :=
      { columns := [⟨"x", .int⟩, ⟨"x", .int⟩], rows := [row 1 10, row 2 20] }
    session.answer (.query query) 0 = .ok (ordered, 0) ∧
      session.answer (.query plain) 0 = .ok (unordered, 0) ∧
      ordered.rows.Perm unordered.reread.rows ∧ ¬ ordered.rows.Perm unordered.rows := by
  intro name batch session select plain query row ordered unordered
  have answered : session.answer (.query query) 0 = .ok (ordered, 0) := by
    subst session query ordered plain select batch row name
    rfl
  have plainAnswered : session.answer (.query plain) 0 = .ok (unordered, 0) := by
    subst session unordered plain select batch row name
    rfl
  let parts : SelectParts :=
    { input := .scan "t" none
      keys := []
      part := {
        columns := [⟨.column "a", "x"⟩, ⟨.column "b", "x"⟩]
        hidden := [⟨.column "c", "__order_0"⟩]
        having := none }
      sorting := [⟨.column "__order_0", true, true⟩] }
  have read : Plan.readSelect session.tableColumns select query.order = .ok parts := by
    subst session query plain select batch row name
    rfl
  obtain ⟨⟨-, rows⟩, -⟩ := answer_orderBy session query plain select parts 0 0 (ordered, 0)
    (unordered, 0) rfl rfl rfl ⟨rfl, rfl⟩ ⟨rfl, rfl⟩ read
    (.inr rfl) (fun _ _ => .inr rfl) answered plainAnswered
  refine ⟨answered, plainAnswered, rows, fun same => ?_⟩
  -- The second column has lost its values.
  have moved : row 1 10 ∈ ordered.rows := same.mem_iff.mpr (List.mem_cons_self ..)
  have different : (BoundedInt.wrap 10 : BoundedInt 32) ≠ BoundedInt.wrap 1 ∧
      (BoundedInt.wrap 10 : BoundedInt 32) ≠ BoundedInt.wrap 2 := by decide
  simp [ordered, row, different] at moved

/-- `SELECT 1 HAVING MAX('A') = 'A' ORDER BY MAX('a')`: the aggregate of the order takes
the name of the other one, and the only group is lost. -/
example :
    let maximum (text : String) : Syntax.Term :=
      .call [⟨"MAX", none⟩] ⟨false, "(", ")"⟩ [.literal (.text text)]
    let plain : Syntax.Query :=
      { body := .select {
          distinct := false
          items := [.bare (.literal (.number "1" false))]
          sources := []
          condition := none
          grouping := .terms []
          having := some (.binary (maximum "A") (Syntax.Term.known (.comparison .eq))
            (.literal (.text "A"))) }
        order := [], limit := none, offset := none, spelling := "" }
    let query : Syntax.Query := { plain with order := [⟨maximum "a", none, none, ""⟩] }
    let result (rows : List Row) : QueryResult := { columns := [⟨"1", .int⟩], rows }
    (ofConfig {} {}).answer (.query query) 0 = .ok (result [], 0) ∧
      (ofConfig {} {}).answer (.query plain) 0
        = .ok (result [[.int (BoundedInt.wrap 1)]], 0) := by
  intro maximum plain query result
  subst query plain maximum result
  exact ⟨rfl, rfl⟩

end Session

end ScalarSql
