import ScalarSql.Plan.Execution
import ScalarSql.Proofs.Computation
import ScalarSql.Proofs.Expr.Operands

/-!
# Executing a plan operator by operator

A plan is run from its table outwards: each operator takes the columns and the runs of rows
of its input and makes new ones of them, `Plan.operate`.  The tables may come from any
`TableSource`; over those of a catalog this is `Plan.run`, `Plan.run_eq_runFrom`.

**Operators and their inputs.**  `Plan.operators` lists a plan and the inputs below it, and
`Plan.Receives` says what comes into one of them.  A proof about a run speaks about one
operator and what it receives, and `Plan.inductionOnInput` carries it along the plan.

**Exchanging expressions.**  `Expr.SameOver` says that two expressions have the same type
over some columns and the same outcome on each of some rows.  A plan whose expressions are
exchanged for such ones, each over the rows that its operator receives, has the same
outcome, `Plan.runFrom_mapExprs`.
-/

set_option autoImplicit false

namespace ScalarSql

/-! ## Tables from anywhere -/

/-- Where tables come from: the columns of a table, given its name and its alias, and its
batches. -/
structure TableSource where
  scan : String → Option String → Except Error (Schema × List Batch)

/-- The tables of a catalog. -/
def Catalog.source (catalog : Catalog) : TableSource where
  scan name aliasName := do
    let schema ← catalog.scanSchema name aliasName
    let table ← catalog.table name
    .ok (schema, table.batches)

/-- The source has the columns that the catalog announces for a table. -/
def TableSource.Serves (source : TableSource) (catalog : Catalog) : Prop :=
  ∀ ⦃name aliasName schema batches⦄, source.scan name aliasName = .ok (schema, batches) →
    catalog.scanSchema name aliasName = .ok schema

theorem Catalog.source_serves (catalog : Catalog) : catalog.source.Serves catalog := by
  intro name aliasName schema batches scanned
  simp only [source, bind_eq_ok, Except.ok.injEq, Prod.mk.injEq] at scanned
  obtain ⟨_, stored, _, _, rfl, -⟩ := scanned
  exact stored

namespace Plan

/-! ## One operator -/

/-- The input of the outermost operator. -/
def input? : Plan → Option Plan
  | .oneRow | .scan .. => none
  | .filter _ input | .project _ input | .aggregate _ _ input | .sort _ input
  | .limit _ _ input => some input

/-- What the outermost operator makes of the columns and runs that come in. -/
def operate (policy : FailurePolicy) (schema : Schema) (runs : List RowRun) :
    Plan → Except Error (Schema × List RowRun)
  | .oneRow | .scan .. => .ok (schema, runs)
  | .filter predicate _ => do
      let kept ← RowRun.mapEach
        (fun run => filterRows schema policy predicate run.offset run.rows) runs
      .ok (schema, RowRun.number 0 kept)
  | .project items _ => do
      let columns ← NamedExpr.columns schema items
      let projected ← RowRun.mapEach
        (fun run => (projectRows schema policy (items.map NamedExpr.expr) run.offset run.rows).map
          fun rows => { run with rows }) runs
      .ok ({ columns }, projected)
  | .aggregate keys aggregates _ => do
      let keyColumns ← NamedExpr.columns schema keys
      let typed ← TypedAggregate.ofAggregates schema aggregates
      let rows ← groupRows schema policy (keys.map NamedExpr.expr) typed (RowRun.flatten runs)
      .ok ({ columns := keyColumns ++ typed.map TypedAggregate.column }, RowRun.number 0 [rows])
  | .sort keys _ => do
      let rows := RowRun.flatten runs
      let values ← projectRows schema policy (keys.map SortKey.expr) 0 rows
      let sorted ← SortKey.sortRows keys (values.zip rows)
      .ok (schema, RowRun.number 0 [sorted])
  | .limit count offset _ =>
      .ok (schema, RowRun.number 0 [((RowRun.flatten runs).drop offset).take count])

/-! ## The whole plan -/

/-- The columns and the runs of rows that a plan produces from the tables of a source. -/
def runFrom (source : TableSource) (policy : FailurePolicy) :
    Plan → Except Error (Schema × List RowRun)
  | .oneRow => .ok ({}, [{ offset := 0, rows := [[]] }])
  | .scan name aliasName => do
      let (schema, batches) ← source.scan name aliasName
      let lists ← readBatches batches
      .ok (schema, RowRun.number 0 lists)
  | .filter predicate input => do
      let (schema, runs) ← input.runFrom source policy
      operate policy schema runs (.filter predicate input)
  | .project items input => do
      let (schema, runs) ← input.runFrom source policy
      operate policy schema runs (.project items input)
  | .aggregate keys aggregates input => do
      let (schema, runs) ← input.runFrom source policy
      operate policy schema runs (.aggregate keys aggregates input)
  | .sort keys input => do
      let (schema, runs) ← input.runFrom source policy
      operate policy schema runs (.sort keys input)
  | .limit count offset input => do
      let (schema, runs) ← input.runFrom source policy
      operate policy schema runs (.limit count offset input)

/-- The result of a plan over the tables of a source. -/
def executeFrom (source : TableSource) (policy : FailurePolicy) (plan : Plan) :
    Except Error QueryResult := do
  let (schema, runs) ← plan.runFrom source policy
  .ok { columns := schema.columns, rows := RowRun.flatten runs }

variable {source : TableSource} {policy : FailurePolicy} {plan input : Plan}

/-- Over the tables of a catalog, a plan is run as from any source. -/
theorem run_eq_runFrom (catalog : Catalog) (policy : FailurePolicy) (plan : Plan) :
    plan.run catalog policy = plan.runFrom catalog.source policy := by
  induction plan with
  | oneRow => rfl
  | scan name aliasName =>
      simp only [run, runFrom, Catalog.source]
      cases catalog.scanSchema name aliasName with
      | error _ => rfl
      | ok schema => cases catalog.table name <;> rfl
  | filter _ _ ih | project _ _ ih | aggregate _ _ _ ih | sort _ _ ih | limit _ _ _ ih =>
      simp only [run, runFrom, ih]
      rfl

theorem execute_eq_executeFrom (catalog : Catalog) (policy : FailurePolicy) (plan : Plan) :
    plan.execute catalog policy = plan.executeFrom catalog.source policy := by
  rw [execute, executeFrom, run_eq_runFrom]

/-- An operator with an input is applied to what its input produces. -/
theorem runFrom_of_input (isInput : plan.input? = some input) :
    plan.runFrom source policy = (do
      let (schema, runs) ← input.runFrom source policy
      operate policy schema runs plan) := by
  cases plan <;> cases isInput <;> rfl

/-! ## Operators and what they receive -/

/-- A property that a plan has if its input has it holds of every plan. -/
theorem inductionOnInput {motive : Plan → Prop}
    (step : ∀ plan : Plan, (∀ input, plan.input? = some input → motive input) → motive plan)
    (plan : Plan) : motive plan := by
  induction plan with
  | oneRow => exact step _ nofun
  | scan _ _ => exact step _ nofun
  | filter _ _ ih | project _ _ ih | aggregate _ _ _ ih | sort _ _ ih | limit _ _ _ ih =>
      refine step _ fun input isInput => ?_
      cases isInput
      exact ih

/-- The plan and the plans below it, each of which stands for its outermost operator. -/
def operators : Plan → List Plan
  | .oneRow => [.oneRow]
  | .scan name aliasName => [.scan name aliasName]
  | .filter predicate input => .filter predicate input :: input.operators
  | .project items input => .project items input :: input.operators
  | .aggregate keys aggregates input => .aggregate keys aggregates input :: input.operators
  | .sort keys input => .sort keys input :: input.operators
  | .limit count offset input => .limit count offset input :: input.operators

/-- An operator of a plan is the outermost one or belongs to the input. -/
theorem mem_operators_iff {operator : Plan} : operator ∈ plan.operators ↔
    operator = plan ∨ ∃ input, plan.input? = some input ∧ operator ∈ input.operators := by
  cases plan <;> simp [operators, input?]

/-- The expressions of a plan are those of its operators. -/
theorem exprs_eq (plan : Plan) : plan.exprs = plan.operators.flatMap ownExprs := by
  induction plan <;> simp_all [exprs, operators, ownExprs]

theorem mem_operators_self (plan : Plan) : plan ∈ plan.operators :=
  mem_operators_iff.mpr (.inl rfl)

theorem mem_operators_of_input (isInput : plan.input? = some input) {operator : Plan}
    (member : operator ∈ input.operators) : operator ∈ plan.operators :=
  mem_operators_iff.mpr (.inr ⟨input, isInput, member⟩)

/-- The operators of an operator of a plan are operators of the plan. -/
theorem operators_subset {operator : Plan} (member : operator ∈ plan.operators) :
    operator.operators ⊆ plan.operators := by
  induction plan using inductionOnInput with
  | step plan ih =>
      rcases mem_operators_iff.mp member with rfl | ⟨input, isInput, inInput⟩
      · exact List.Subset.refl _
      · exact fun _ below => mem_operators_of_input isInput (ih input isInput inInput below)

/-- The columns and runs that come into the outermost operator of a plan. -/
def Receives (source : TableSource) (policy : FailurePolicy) (plan : Plan) (schema : Schema)
    (runs : List RowRun) : Prop :=
  ∃ input, plan.input? = some input ∧ input.runFrom source policy = .ok (schema, runs)

theorem input?_mapExprs (f : Expr → Expr) (plan : Plan) :
    (plan.mapExprs f).input? = plan.input?.map (mapExprs f) := by
  cases plan <;> rfl

/-- An operator without an input has no expressions. -/
theorem ownExprs_of_input?_eq_none (leaf : plan.input? = none) : plan.ownExprs = [] := by
  cases plan <;> first | rfl | cases leaf

theorem mapExprs_of_input?_eq_none {f : Expr → Expr} (leaf : plan.input? = none) :
    plan.mapExprs f = plan := by
  cases plan <;> first | rfl | cases leaf

end Plan

/-! ## Exchanging expressions -/

/-- The two expressions have the same type, and the same value or error on each of the rows
at whatever position. -/
structure Expr.SameOver (schema : Schema) (policy : FailurePolicy) (rows : List Row)
    (left right : Expr) : Prop where
  dataType : left.dataType schema = right.dataType schema
  evaluate : ∀ row ∈ rows, ∀ index,
    left.evaluate { schema, policy, row, index } = right.evaluate { schema, policy, row, index }

section Rows

variable {schema : Schema} {policy : FailurePolicy} {rows : List Row}

theorem Expr.SameOver.mono {left right : Expr} {fewer : List Row}
    (same : SameOver schema policy rows left right) (fewerRows : fewer ⊆ rows) :
    SameOver schema policy fewer left right :=
  ⟨same.dataType, fun row member => same.evaluate row (fewerRows member)⟩

theorem Expr.evaluateAll_sameOver {f : Expr → Expr} {exprs : List Expr}
    (same : ∀ expr ∈ exprs, SameOver schema policy rows (f expr) expr) :
    ∀ row ∈ rows, ∀ index, evaluateAll { schema, policy, row, index } (exprs.map f)
      = evaluateAll { schema, policy, row, index } exprs := by
  intro row member index
  exact Expr.evaluateAll_map fun expr isExpr => (same expr isExpr).evaluate row member index

theorem filterRows_congr {left right : Expr} (index : Nat)
    (same : ∀ row ∈ rows, ∀ index, left.evaluate { schema, policy, row, index }
      = right.evaluate { schema, policy, row, index }) :
    filterRows schema policy left index rows = filterRows schema policy right index rows := by
  induction rows generalizing index with
  | nil => rfl
  | cons row rest ih =>
      obtain ⟨here, later⟩ := List.forall_mem_cons.mp same
      simp only [filterRows, Expr.holds, here, ih (index + 1) later]

theorem projectRows_congr {left right : List Expr} (index : Nat)
    (same : ∀ row ∈ rows, ∀ index, Expr.evaluateAll { schema, policy, row, index } left
      = Expr.evaluateAll { schema, policy, row, index } right) :
    projectRows schema policy left index rows = projectRows schema policy right index rows := by
  induction rows generalizing index with
  | nil => rfl
  | cons row rest ih =>
      obtain ⟨here, later⟩ := List.forall_mem_cons.mp same
      simp only [projectRows, here, ih (index + 1) later]

/-- Computations that agree on every run agree on all of them. -/
theorem RowRun.mapEach_congr {α : Type} {f g : RowRun → Except Error α} {runs : List RowRun}
    (same : ∀ run ∈ runs, f run = g run) : mapEach f runs = mapEach g runs := by
  induction runs with
  | nil => rfl
  | cons run rest ih =>
      obtain ⟨here, later⟩ := List.forall_mem_cons.mp same
      simp only [mapEach, here, ih later]

theorem RowRun.rows_subset_flatten {runs : List RowRun} {run : RowRun} (member : run ∈ runs) :
    run.rows ⊆ flatten runs :=
  fun _ inRun => List.mem_flatMap.mpr ⟨run, member, inRun⟩

/-! ### Columns and groups -/

theorem NamedExpr.map_expr (f : Expr → Expr) (items : List NamedExpr) :
    (items.map fun item => { item with expr := f item.expr }).map NamedExpr.expr
      = (items.map NamedExpr.expr).map f := by
  simp only [List.map_map, Function.comp_def]

theorem NamedExpr.columns_congr {f : Expr → Expr} {items : List NamedExpr}
    (same : ∀ item ∈ items, (f item.expr).dataType schema = item.expr.dataType schema) :
    columns schema (items.map fun item => { item with expr := f item.expr })
      = columns schema items := by
  induction items with
  | nil => rfl
  | cons item rest ih =>
      obtain ⟨here, later⟩ := List.forall_mem_cons.mp same
      simp only [List.map_cons, columns, here, ih later]

namespace TypedAggregate

/-- The aggregate with another expression. -/
def mapExpr (f : Expr → Expr) (typed : TypedAggregate) : TypedAggregate :=
  { typed with aggregate := { typed.aggregate with expr := f typed.aggregate.expr } }

theorem ofAggregates_map {f : Expr → Expr} {aggregates : List Aggregate}
    (same : ∀ aggregate ∈ aggregates,
      (f aggregate.expr).dataType schema = aggregate.expr.dataType schema) :
    ofAggregates schema (aggregates.map fun item => { item with expr := f item.expr })
      = (ofAggregates schema aggregates).map (List.map (mapExpr f)) := by
  induction aggregates with
  | nil => rfl
  | cons aggregate rest ih =>
      obtain ⟨here, later⟩ := List.forall_mem_cons.mp same
      have sameOutput : Aggregate.outputType { aggregate with expr := f aggregate.expr } schema
          = aggregate.outputType schema := by
        simp only [Aggregate.outputType, here]
      simp only [List.map_cons, ofAggregates, sameOutput, ih later]
      cases aggregate.outputType schema with
      | error _ => rfl
      | ok output => cases ofAggregates schema rest <;> rfl

/-- The expressions of typed aggregates are those of the aggregates. -/
theorem exprs_of_ofAggregates {aggregates : List Aggregate} {typed : List TypedAggregate}
    (made : ofAggregates schema aggregates = .ok typed) :
    typed.map aggregate = aggregates := by
  induction aggregates generalizing typed with
  | nil =>
      cases made
      rfl
  | cons aggregate rest ih =>
      simp only [ofAggregates] at made
      split at made
      · cases made
      · obtain ⟨_, later, rfl⟩ := map_eq_ok.mp made
        rw [List.map_cons, ih later]

end TypedAggregate

namespace Group

variable {f : Expr → Expr} {aggregates : List TypedAggregate} {context : RowContext}

theorem takeRow_map {states : List Accumulator}
    (same : ∀ typed ∈ aggregates, (f typed.aggregate.expr).evaluate context
      = typed.aggregate.expr.evaluate context) :
    takeRow context (aggregates.map (.mapExpr f)) states = takeRow context aggregates states := by
  induction aggregates generalizing states with
  | nil => rfl
  | cons typed rest ih =>
      obtain ⟨here, later⟩ := List.forall_mem_cons.mp same
      cases states with
      | nil => rfl
      | cons state others =>
          simp only [List.map_cons, takeRow, TypedAggregate.mapExpr, here, ih later]
          rfl

theorem fresh_map (key : List Value) :
    fresh (aggregates.map (.mapExpr f)) key = fresh aggregates key := by
  simp only [fresh, List.map_map, TypedAggregate.mapExpr, Function.comp_def]

theorem insertRow_map {key : List Value} {groups : List Group}
    (same : ∀ typed ∈ aggregates, (f typed.aggregate.expr).evaluate context
      = typed.aggregate.expr.evaluate context) :
    insertRow context (aggregates.map (.mapExpr f)) key groups
      = insertRow context aggregates key groups := by
  induction groups with
  | nil => rw [insertRow, insertRow, fresh_map, takeRow_map same]
  | cons group rest ih => rw [insertRow, insertRow, takeRow_map same, ih]

theorem insertRows_map {keys : List Expr} {groups : List Group} {index : Nat}
    (sameKeys : ∀ expr ∈ keys, Expr.SameOver schema policy rows (f expr) expr)
    (sameValues : ∀ typed ∈ aggregates,
      Expr.SameOver schema policy rows (f typed.aggregate.expr) typed.aggregate.expr) :
    insertRows schema policy (keys.map f) (aggregates.map (.mapExpr f)) groups index rows
      = insertRows schema policy keys aggregates groups index rows := by
  induction rows generalizing groups index with
  | nil => rfl
  | cons row rest ih =>
      have here : row ∈ row :: rest := List.mem_cons_self
      have later : rest ⊆ row :: rest := List.subset_cons_self row rest
      simp only [insertRows, Expr.evaluateAll_sameOver sameKeys row here,
        insertRow_map fun typed member => (sameValues typed member).evaluate row here index,
        ih (fun expr member => (sameKeys expr member).mono later)
          fun typed member => (sameValues typed member).mono later]

end Group

/-- Grouping rows by exchanged keys and aggregates gives the same groups. -/
theorem groupRows_map {f : Expr → Expr} {keys : List Expr} {aggregates : List TypedAggregate}
    (sameKeys : ∀ expr ∈ keys, Expr.SameOver schema policy rows (f expr) expr)
    (sameValues : ∀ typed ∈ aggregates,
      Expr.SameOver schema policy rows (f typed.aggregate.expr) typed.aggregate.expr) :
    groupRows schema policy (keys.map f) (aggregates.map (.mapExpr f)) rows
      = groupRows schema policy keys aggregates rows := by
  simp only [groupRows, Group.insertRows_map sameKeys sameValues, Group.fresh_map,
    List.isEmpty_map]

end Rows

namespace SortKey

/-- Two keys of one direction, whatever they are sorted by. -/
structure SameDirection (left right : SortKey) : Prop where
  ascending : left.ascending = right.ascending
  nullsFirst : left.nullsFirst = right.nullsFirst

/-- **The order of rows** depends on the directions of the keys and on their values, not on the
expressions. -/
theorem sortRows_congr {keys others : List SortKey}
    (directions : List.Forall₂ SameDirection keys others) (keyed : List (List Value × Row)) :
    sortRows keys keyed = sortRows others keyed := by
  have sameOrder : ∀ left right, orderAll keys left right = orderAll others left right := by
    induction directions with
    | nil => exact fun _ _ => rfl
    | @cons key other keys others here _ ih =>
        have single : key.order = other.order := by
          funext left right
          simp only [order, here.ascending, here.nullsFirst]
        intro left right
        cases left with
        | nil => rfl
        | cons left lefts =>
            cases right with
            | nil => rfl
            | cons right rights => simp only [orderAll, single, ih]
  simp only [sortRows, below, sameOrder]

theorem sortRows_map (f : Expr → Expr) (keys : List SortKey) (keyed : List (List Value × Row)) :
    sortRows (keys.map fun key => { key with expr := f key.expr }) keyed
      = sortRows keys keyed := by
  refine sortRows_congr ?_ keyed
  rw [List.forall₂_map_left_iff, List.forall₂_same]
  exact fun _ _ => ⟨rfl, rfl⟩

end SortKey

namespace Plan

variable {source : TableSource} {policy : FailurePolicy} {f : Expr → Expr}

/-- **One operator** makes the same of what comes in when its expressions are exchanged for
ones that are the same over the incoming rows. -/
theorem operate_mapExprs {schema : Schema} {runs : List RowRun} {plan : Plan}
    (same : ∀ expr ∈ plan.ownExprs,
      Expr.SameOver schema policy (RowRun.flatten runs) (f expr) expr) :
    operate policy schema runs (plan.mapExprs f) = operate policy schema runs plan := by
  cases plan with
  | oneRow => rfl
  | scan name aliasName => rfl
  | limit count offset input => rfl
  | filter predicate input =>
      have samePredicate := same predicate (List.mem_singleton_self predicate)
      have sameRuns : ∀ run ∈ runs,
          filterRows schema policy (f predicate) run.offset run.rows
            = filterRows schema policy predicate run.offset run.rows := fun run member =>
        filterRows_congr run.offset fun row inRun =>
          samePredicate.evaluate row (RowRun.rows_subset_flatten member inRun)
      simp only [mapExprs, operate, RowRun.mapEach_congr sameRuns]
  | project items input =>
      have sameColumns : ∀ item ∈ items, (f item.expr).dataType schema
          = item.expr.dataType schema := fun item member =>
        (same item.expr (List.mem_map_of_mem member)).dataType
      have sameRuns : ∀ run ∈ runs,
          (projectRows schema policy ((items.map NamedExpr.expr).map f) run.offset run.rows).map
              (fun rows => { run with rows })
            = (projectRows schema policy (items.map NamedExpr.expr) run.offset run.rows).map
              fun rows => { run with rows } := fun run member =>
        congrArg _ (projectRows_congr run.offset fun row inRun =>
          Expr.evaluateAll_sameOver same row (RowRun.rows_subset_flatten member inRun))
      simp only [mapExprs, operate, NamedExpr.columns_congr sameColumns, NamedExpr.map_expr,
        RowRun.mapEach_congr sameRuns]
  | aggregate keys aggregates input =>
      have sameKeys : ∀ expr ∈ keys.map NamedExpr.expr,
          Expr.SameOver schema policy (RowRun.flatten runs) (f expr) expr := fun expr member =>
        same expr (List.mem_append_left _ member)
      have sameAggregates : ∀ aggregate ∈ aggregates,
          Expr.SameOver schema policy (RowRun.flatten runs) (f aggregate.expr) aggregate.expr :=
        fun aggregate member =>
          same aggregate.expr (List.mem_append_right _ (List.mem_map_of_mem member))
      have sameColumns : ∀ key ∈ keys, (f key.expr).dataType schema = key.expr.dataType schema :=
        fun key member => (sameKeys key.expr (List.mem_map_of_mem member)).dataType
      simp only [mapExprs, operate, NamedExpr.columns_congr sameColumns, NamedExpr.map_expr,
        TypedAggregate.ofAggregates_map fun aggregate member =>
          (sameAggregates aggregate member).dataType]
      cases made : TypedAggregate.ofAggregates schema aggregates with
      | error _ => rfl
      | ok typed =>
          have sameValues : ∀ item ∈ typed, Expr.SameOver schema policy (RowRun.flatten runs)
              (f item.aggregate.expr) item.aggregate.expr := fun item member =>
            sameAggregates item.aggregate
              (TypedAggregate.exprs_of_ofAggregates made ▸ List.mem_map_of_mem member)
          have sameOutputs : (typed.map (TypedAggregate.mapExpr f)).map TypedAggregate.column
              = typed.map TypedAggregate.column := by
            rw [List.map_map]
            rfl
          have sameGroups := groupRows_map sameKeys sameValues
          simp only [Except.map, bind, Except.bind, sameGroups, sameOutputs]
  | sort keys input =>
      have exprs : (keys.map fun key => { key with expr := f key.expr }).map SortKey.expr
          = (keys.map SortKey.expr).map f := by
        simp only [List.map_map, Function.comp_def]
      have sameValues : projectRows schema policy ((keys.map SortKey.expr).map f) 0
          (RowRun.flatten runs) = projectRows schema policy (keys.map SortKey.expr) 0
            (RowRun.flatten runs) :=
        projectRows_congr 0 (Expr.evaluateAll_sameOver same)
      simp only [mapExprs, operate, exprs, sameValues, SortKey.sortRows_map]

/-- **A plan with exchanged expressions** has the same outcome if each expression is
exchanged for one that is the same over the rows that its operator receives. -/
theorem runFrom_mapExprs {plan : Plan}
    (same : ∀ operator ∈ plan.operators, ∀ schema runs,
      operator.Receives source policy schema runs → ∀ expr ∈ operator.ownExprs,
        Expr.SameOver schema policy (RowRun.flatten runs) (f expr) expr) :
    (plan.mapExprs f).runFrom source policy = plan.runFrom source policy := by
  induction plan using inductionOnInput with
  | step plan ih =>
      cases isInput : plan.input? with
      | none => rw [mapExprs_of_input?_eq_none isInput]
      | some input =>
          have mapped : (plan.mapExprs f).input? = some (input.mapExprs f) := by
            rw [input?_mapExprs, isInput, Option.map_some]
          have below := ih input isInput fun operator member =>
            same operator (mem_operators_of_input isInput member)
          rw [runFrom_of_input mapped, runFrom_of_input isInput, below]
          cases ran : input.runFrom source policy with
          | error _ => rfl
          | ok result =>
              exact operate_mapExprs fun expr member =>
                same plan plan.mem_operators_self _ _ ⟨input, isInput, ran⟩ expr member

end Plan

end ScalarSql
