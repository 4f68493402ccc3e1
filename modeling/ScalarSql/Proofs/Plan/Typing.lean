import ScalarSql.Plan.Analysis
import ScalarSql.Proofs.Aggregate.Typing
import ScalarSql.Proofs.Expr.Resolution
import ScalarSql.Proofs.Plan.Operators

/-!
# Typed plans

`Plan.HasSchema` says of an analysed plan which columns it produces over a catalog.  There
is one rule for each operator, and each rule asks for the types of the expressions of the
operator over the columns of its input.

**Analysis.**  What analysis returns is typed, with the columns that it reports,
`Plan.hasSchema_of_analyzeNode`.  A typed plan is analysed already: analysing it again
returns it as it is, `Plan.HasSchema.analyzeNode`, so the columns that it produces can be
asked for at any time.

**Regular plans.**  Literals that fit and functions that are checked survive analysis,
`Plan.regular_of_analyzeNode`.
-/

set_option autoImplicit false

namespace ScalarSql

/-! ## Named expressions -/

/-- The column of a named expression over rows of a schema. -/
def NamedExpr.HasColumn (schema : Schema) (item : NamedExpr) (column : Column) : Prop :=
  item.name = column.name ∧ Expr.HasType schema item.expr column.type

namespace Plan

variable {scope : FunctionScope} {catalog : Catalog} {schema : Schema}

theorem hasColumns_of_resolveNamed {written : List NamedExpr} {next : Nat}
    {resolved : (List NamedExpr × List Column) × Nat}
    (result : resolveNamed scope schema written next = .ok resolved) :
    List.Forall₂ (NamedExpr.HasColumn schema) resolved.1.1 resolved.1.2 := by
  induction written generalizing next resolved with
  | nil =>
      simp only [resolveNamed, state_pure_eq_ok] at result
      rw [← result]
      exact .nil
  | cons item rest ih =>
      simp only [resolveNamed, state_bind_eq_ok, state_lift_eq_ok, state_pure_eq_ok] at result
      obtain ⟨expr, _, exprResult, type, _, ⟨computed, -⟩, _, _, restResult, rfl⟩ := result
      obtain ⟨exprType, typed⟩ := Expr.typed_of_resolve exprResult
      obtain rfl := typed.unique computed
      exact .cons ⟨rfl, typed⟩ (ih restResult)

theorem names_of_resolveNamed {written : List NamedExpr} {next : Nat}
    {resolved : (List NamedExpr × List Column) × Nat}
    (result : resolveNamed scope schema written next = .ok resolved) :
    resolved.1.2.map Column.name = written.map NamedExpr.name := by
  induction written generalizing next resolved with
  | nil =>
      simp only [resolveNamed, state_pure_eq_ok] at result
      rw [← result]
      rfl
  | cons item rest ih =>
      simp only [resolveNamed, state_bind_eq_ok, state_pure_eq_ok] at result
      obtain ⟨_, _, _, _, _, _, _, _, restResult, rfl⟩ := result
      simp only [List.map_cons, ih restResult]

theorem resolveNamed_eq_self {items : List NamedExpr} {columns : List Column}
    (typed : List.Forall₂ (NamedExpr.HasColumn schema) items columns) (next : Nat) :
    resolveNamed scope schema items next = .ok ((items, columns), next) := by
  induction typed with
  | nil => rfl
  | @cons item column _ _ itemTyped _ ih =>
      obtain ⟨name, type⟩ := column
      obtain ⟨rfl, exprTyped⟩ := itemTyped
      simp only [resolveNamed, state_bind_eq_ok, state_lift_eq_ok, state_pure_eq_ok]
      exact ⟨item.expr, next, exprTyped.resolve scope next, type, next,
        ⟨exprTyped.dataType, rfl⟩, _, next, ih, rfl⟩

theorem regular_of_resolveNamed {written : List NamedExpr} {next : Nat}
    {resolved : (List NamedExpr × List Column) × Nat} (scalar : scope.Scalar)
    (regular : ∀ item ∈ written, item.expr.All Expr.Regular)
    (result : resolveNamed scope schema written next = .ok resolved) :
    ∀ item ∈ resolved.1.1, item.expr.All Expr.Regular := by
  induction written generalizing next resolved with
  | nil =>
      simp only [resolveNamed, state_pure_eq_ok] at result
      rw [← result]
      exact fun _ member => nomatch member
  | cons item rest ih =>
      obtain ⟨here, later⟩ := List.forall_mem_cons.mp regular
      simp only [resolveNamed, state_bind_eq_ok, state_lift_eq_ok, state_pure_eq_ok] at result
      obtain ⟨expr, _, exprResult, type, _, -, _, _, restResult, rfl⟩ := result
      exact List.forall_mem_cons.mpr
        ⟨Expr.regular_of_resolve scalar here exprResult, ih later restResult⟩

/-! ## Aggregates and sort keys -/

theorem Aggregate.outputType_eq_ok {aggregate : Aggregate} {type : DataType} :
    aggregate.outputType schema = .ok type ↔
      ∃ argument, aggregate.expr.dataType schema = .ok argument ∧
        aggregate.function.outputType? argument = some type := by
  unfold Aggregate.outputType
  cases aggregate.expr.dataType schema with
  | error error => simp
  | ok argument => cases found : aggregate.function.outputType? argument <;> simp [found]

theorem hasColumns_of_resolveAggregates {written : List Aggregate} {next : Nat}
    {resolved : (List Aggregate × List Column) × Nat}
    (result : resolveAggregates scope schema written next = .ok resolved) :
    List.Forall₂ (Aggregate.HasColumn schema) resolved.1.1 resolved.1.2 := by
  induction written generalizing next resolved with
  | nil =>
      simp only [resolveAggregates, state_pure_eq_ok] at result
      rw [← result]
      exact .nil
  | cons item rest ih =>
      simp only [resolveAggregates, state_bind_eq_ok, state_lift_eq_ok, state_pure_eq_ok]
        at result
      obtain ⟨expr, _, exprResult, type, _, ⟨computed, -⟩, _, _, restResult, rfl⟩ := result
      obtain ⟨argument, argumentType, output⟩ := Aggregate.outputType_eq_ok.mp computed
      obtain ⟨exprType, typed⟩ := Expr.typed_of_resolve exprResult
      obtain rfl := typed.unique argumentType
      exact .cons ⟨rfl, exprType, typed, output⟩ (ih restResult)

theorem names_of_resolveAggregates {written : List Aggregate} {next : Nat}
    {resolved : (List Aggregate × List Column) × Nat}
    (result : resolveAggregates scope schema written next = .ok resolved) :
    resolved.1.2.map Column.name = written.map Aggregate.name := by
  induction written generalizing next resolved with
  | nil =>
      simp only [resolveAggregates, state_pure_eq_ok] at result
      rw [← result]
      rfl
  | cons item rest ih =>
      simp only [resolveAggregates, state_bind_eq_ok, state_pure_eq_ok] at result
      obtain ⟨_, _, _, _, _, _, _, _, restResult, rfl⟩ := result
      simp only [List.map_cons, ih restResult]

theorem resolveAggregates_eq_self {aggregates : List Aggregate} {columns : List Column}
    (typed : List.Forall₂ (Aggregate.HasColumn schema) aggregates columns) (next : Nat) :
    resolveAggregates scope schema aggregates next = .ok ((aggregates, columns), next) := by
  induction typed with
  | nil => rfl
  | @cons item column _ _ itemTyped _ ih =>
      obtain ⟨name, type⟩ := column
      obtain ⟨rfl, argument, exprTyped, output⟩ := itemTyped
      simp only [resolveAggregates, state_bind_eq_ok, state_lift_eq_ok, state_pure_eq_ok]
      exact ⟨item.expr, next, exprTyped.resolve scope next, type, next,
        ⟨Aggregate.outputType_eq_ok.mpr ⟨argument, exprTyped.dataType, output⟩, rfl⟩,
        _, next, ih, rfl⟩

theorem regular_of_resolveAggregates {written : List Aggregate} {next : Nat}
    {resolved : (List Aggregate × List Column) × Nat} (scalar : scope.Scalar)
    (regular : ∀ item ∈ written, item.expr.All Expr.Regular)
    (result : resolveAggregates scope schema written next = .ok resolved) :
    ∀ item ∈ resolved.1.1, item.expr.All Expr.Regular := by
  induction written generalizing next resolved with
  | nil =>
      simp only [resolveAggregates, state_pure_eq_ok] at result
      rw [← result]
      exact fun _ member => nomatch member
  | cons item rest ih =>
      obtain ⟨here, later⟩ := List.forall_mem_cons.mp regular
      simp only [resolveAggregates, state_bind_eq_ok, state_lift_eq_ok, state_pure_eq_ok]
        at result
      obtain ⟨expr, _, exprResult, type, _, -, _, _, restResult, rfl⟩ := result
      exact List.forall_mem_cons.mpr
        ⟨Expr.regular_of_resolve scalar here exprResult, ih later restResult⟩

theorem typed_of_resolveKeys {written : List SortKey} {next : Nat}
    {resolved : List SortKey × Nat}
    (result : resolveKeys scope schema written next = .ok resolved) :
    ∀ key ∈ resolved.1, Expr.Typed schema key.expr := by
  induction written generalizing next resolved with
  | nil =>
      simp only [resolveKeys, state_pure_eq_ok] at result
      rw [← result]
      exact fun _ member => nomatch member
  | cons key rest ih =>
      simp only [resolveKeys, state_bind_eq_ok, state_pure_eq_ok] at result
      obtain ⟨expr, _, exprResult, keys, _, restResult, rfl⟩ := result
      exact List.forall_mem_cons.mpr ⟨Expr.typed_of_resolve exprResult, ih restResult⟩

theorem resolveKeys_eq_self {keys : List SortKey}
    (typed : ∀ key ∈ keys, Expr.Typed schema key.expr) (next : Nat) :
    resolveKeys scope schema keys next = .ok (keys, next) := by
  induction keys with
  | nil => rfl
  | cons key rest ih =>
      obtain ⟨⟨type, keyTyped⟩, later⟩ := List.forall_mem_cons.mp typed
      simp only [resolveKeys, state_bind_eq_ok, state_pure_eq_ok]
      exact ⟨key.expr, next, keyTyped.resolve scope next, rest, next, ih later, rfl⟩

theorem regular_of_resolveKeys {written : List SortKey} {next : Nat}
    {resolved : List SortKey × Nat} (scalar : scope.Scalar)
    (regular : ∀ key ∈ written, key.expr.All Expr.Regular)
    (result : resolveKeys scope schema written next = .ok resolved) :
    ∀ key ∈ resolved.1, key.expr.All Expr.Regular := by
  induction written generalizing next resolved with
  | nil =>
      simp only [resolveKeys, state_pure_eq_ok] at result
      rw [← result]
      exact fun _ member => nomatch member
  | cons key rest ih =>
      obtain ⟨here, later⟩ := List.forall_mem_cons.mp regular
      simp only [resolveKeys, state_bind_eq_ok, state_pure_eq_ok] at result
      obtain ⟨expr, _, exprResult, keys, _, restResult, rfl⟩ := result
      exact List.forall_mem_cons.mpr
        ⟨Expr.regular_of_resolve scalar here exprResult, ih later restResult⟩

/-! ## The typing relation -/

/-- The analysed plans over a catalog, with the columns that they produce. -/
inductive HasSchema (catalog : Catalog) : Plan → Schema → Prop
  | oneRow : HasSchema catalog .oneRow {}
  | scan {table : String} {aliasName : Option String} {schema : Schema}
      (stored : catalog.scanSchema table aliasName = .ok schema) :
      HasSchema catalog (.scan table aliasName) schema
  | filter {predicate : Expr} {input : Plan} {schema : Schema} {type : DataType}
      (inputTyped : HasSchema catalog input schema)
      (typed : Expr.HasType schema predicate type) (accepted : Connective.accepts type = true) :
      HasSchema catalog (.filter predicate input) schema
  | project {items : List NamedExpr} {input : Plan} {schema : Schema} {columns : List Column}
      (inputTyped : HasSchema catalog input schema)
      (typed : List.Forall₂ (NamedExpr.HasColumn schema) items columns)
      (empty : items = [] → schema.columns = []) :
      HasSchema catalog (.project items input) { columns }
  | aggregate {keys : List NamedExpr} {aggregates : List Aggregate} {input : Plan}
      {schema : Schema} {keyColumns aggregateColumns : List Column}
      (inputTyped : HasSchema catalog input schema)
      (keysTyped : List.Forall₂ (NamedExpr.HasColumn schema) keys keyColumns)
      (aggregatesTyped :
        List.Forall₂ (Aggregate.HasColumn schema) aggregates aggregateColumns) :
      HasSchema catalog (.aggregate keys aggregates input)
        { columns := keyColumns ++ aggregateColumns }
  | sort {keys : List SortKey} {input : Plan} {schema : Schema}
      (inputTyped : HasSchema catalog input schema)
      (typed : ∀ key ∈ keys, Expr.Typed schema key.expr) :
      HasSchema catalog (.sort keys input) schema
  | limit {count offset : Nat} {input : Plan} {schema : Schema}
      (inputTyped : HasSchema catalog input schema) :
      HasSchema catalog (.limit count offset input) schema

theorem checkPredicate_eq_ok {clause : String} {type : DataType} :
    checkPredicate clause type = .ok () ↔ Connective.accepts type = true := by
  unfold checkPredicate
  split <;> simp_all

/-- A projection without columns stands for all columns, of which there are none if none
come out. -/
theorem columns_eq_nil_of_resolveNamed {written : List NamedExpr} {next : Nat}
    {resolved : (List NamedExpr × List Column) × Nat}
    (result : resolveNamed scope schema
      (if written.isEmpty then allColumns schema else written) next = .ok resolved)
    (empty : resolved.1.1 = []) : schema.columns = [] := by
  have none : (if written.isEmpty then allColumns schema else written) = [] := by
    generalize (if written.isEmpty then allColumns schema else written) = items at result
    cases items with
    | nil => rfl
    | cons item rest =>
        simp only [resolveNamed, state_bind_eq_ok, state_pure_eq_ok] at result
        obtain ⟨_, _, _, _, _, _, _, _, _, rfl⟩ := result
        cases empty
  split at none
  · simpa [allColumns] using none
  · simp_all

/-- **Analysis gives typed plans**, with the columns that it reports. -/
theorem hasSchema_of_analyzeNode {plan : Plan} {next : Nat} {analyzed : (Plan × Schema) × Nat}
    (result : plan.analyzeNode scope catalog next = .ok analyzed) :
    HasSchema catalog analyzed.1.1 analyzed.1.2 := by
  induction plan generalizing next analyzed with
  | oneRow =>
      simp only [analyzeNode, state_pure_eq_ok] at result
      rw [← result]
      exact .oneRow
  | scan table aliasName =>
      simp only [analyzeNode, state_bind_eq_ok, state_lift_eq_ok, state_pure_eq_ok] at result
      obtain ⟨schema, _, ⟨stored, -⟩, rfl⟩ := result
      exact .scan stored
  | filter predicate input ih =>
      simp only [analyzeNode, state_bind_eq_ok, state_lift_eq_ok, state_pure_eq_ok] at result
      obtain ⟨⟨inner, schema⟩, _, innerResult, expr, _, exprResult, type, _, ⟨computed, -⟩,
        _, _, ⟨accepted, -⟩, rfl⟩ := result
      obtain ⟨exprType, typed⟩ := Expr.typed_of_resolve exprResult
      obtain rfl := typed.unique computed
      exact .filter (ih innerResult) typed (checkPredicate_eq_ok.mp accepted)
  | project columns input ih =>
      simp only [analyzeNode, state_bind_eq_ok, state_pure_eq_ok] at result
      obtain ⟨⟨inner, schema⟩, _, innerResult, ⟨items, produced⟩, _, itemsResult, rfl⟩ := result
      exact .project (ih innerResult) (hasColumns_of_resolveNamed itemsResult)
        (columns_eq_nil_of_resolveNamed itemsResult)
  | aggregate keys aggregates input ih =>
      simp only [analyzeNode, state_bind_eq_ok, state_pure_eq_ok] at result
      obtain ⟨⟨inner, schema⟩, _, innerResult, ⟨keys, keyColumns⟩, _, keysResult,
        ⟨aggregates, aggregateColumns⟩, _, aggregatesResult, rfl⟩ := result
      exact .aggregate (ih innerResult) (hasColumns_of_resolveNamed keysResult)
        (hasColumns_of_resolveAggregates aggregatesResult)
  | sort keys input ih =>
      simp only [analyzeNode, state_bind_eq_ok, state_pure_eq_ok] at result
      obtain ⟨⟨inner, schema⟩, _, innerResult, keys, _, keysResult, rfl⟩ := result
      exact .sort (ih innerResult) (typed_of_resolveKeys keysResult)
  | limit count offset input ih =>
      simp only [analyzeNode, state_bind_eq_ok, state_pure_eq_ok] at result
      obtain ⟨⟨inner, schema⟩, _, innerResult, rfl⟩ := result
      exact .limit (ih innerResult)

/-- **Analysing a typed plan changes nothing** and numbers no invocation. -/
theorem HasSchema.analyzeNode {plan : Plan} (typed : HasSchema catalog plan schema)
    (scope : FunctionScope) (next : Nat) :
    plan.analyzeNode scope catalog next = .ok ((plan, schema), next) := by
  induction typed with
  | oneRow => rfl
  | scan stored =>
      simp only [Plan.analyzeNode, state_bind_eq_ok, state_lift_eq_ok, state_pure_eq_ok]
      exact ⟨_, next, ⟨stored, rfl⟩, rfl⟩
  | @filter predicate input schema type _ typed accepted ih =>
      simp only [Plan.analyzeNode, state_bind_eq_ok, state_lift_eq_ok, state_pure_eq_ok]
      exact ⟨_, next, ih, predicate, next, typed.resolve scope next, type, next,
        ⟨typed.dataType, rfl⟩, (), next, ⟨checkPredicate_eq_ok.mpr accepted, rfl⟩, rfl⟩
  | @project items input schema columns _ typed empty ih =>
      simp only [Plan.analyzeNode, state_bind_eq_ok, state_pure_eq_ok]
      refine ⟨_, next, ih, (items, columns), next, ?_, rfl⟩
      have written : (if items.isEmpty then allColumns schema else items) = items := by
        split
        · next none =>
            have none := List.isEmpty_iff.mp none
            simp [none, allColumns, empty none]
        · rfl
      rw [written]
      exact resolveNamed_eq_self typed next
  | @aggregate keys aggregates input schema keyColumns aggregateColumns _ keysTyped
      aggregatesTyped ih =>
      simp only [Plan.analyzeNode, state_bind_eq_ok, state_pure_eq_ok]
      exact ⟨_, next, ih, _, next, resolveNamed_eq_self keysTyped next, _, next,
        resolveAggregates_eq_self aggregatesTyped next, rfl⟩
  | @sort keys input schema _ typed ih =>
      simp only [Plan.analyzeNode, state_bind_eq_ok, state_pure_eq_ok]
      exact ⟨_, next, ih, keys, next, resolveKeys_eq_self typed next, rfl⟩
  | limit _ ih =>
      simp only [Plan.analyzeNode, state_bind_eq_ok, state_pure_eq_ok]
      exact ⟨_, next, ih, rfl⟩

/-- The columns that a typed plan produces. -/
theorem HasSchema.schemaOf {plan : Plan} (typed : HasSchema catalog plan schema)
    (scope : FunctionScope) (next : Nat) :
    plan.schemaOf scope catalog next = .ok (schema, next) := by
  simp only [Plan.schemaOf, state_bind_eq_ok, state_pure_eq_ok]
  exact ⟨_, next, typed.analyzeNode scope next, rfl⟩

theorem HasSchema.analyze {plan : Plan} (typed : HasSchema catalog plan schema)
    (scope : FunctionScope) (next : Nat) :
    plan.analyze scope catalog next = .ok (plan, next) := by
  simp only [Plan.analyze, state_bind_eq_ok, state_pure_eq_ok]
  exact ⟨_, next, typed.analyzeNode scope next, rfl⟩

/-- What is analysed has columns. -/
theorem exists_hasSchema_of_analyze {plan : Plan} {next : Nat} {analyzed : Plan × Nat}
    (result : plan.analyze scope catalog next = .ok analyzed) :
    ∃ schema, HasSchema catalog analyzed.1 schema := by
  simp only [analyze, state_bind_eq_ok, state_pure_eq_ok] at result
  obtain ⟨⟨_, schema⟩, _, nodeResult, rfl⟩ := result
  exact ⟨schema, hasSchema_of_analyzeNode nodeResult⟩

theorem typed_of_hasColumns {items : List NamedExpr} {columns : List Column}
    (typed : List.Forall₂ (NamedExpr.HasColumn schema) items columns) :
    ∀ item ∈ items, Expr.Typed schema item.expr :=
  ((List.forall₂_and_left _ _).mp (typed.imp fun _ _ found => ⟨⟨_, found.2⟩, found⟩)).1

theorem typed_of_aggregateColumns {aggregates : List Aggregate} {columns : List Column}
    (typed : List.Forall₂ (Aggregate.HasColumn schema) aggregates columns) :
    ∀ aggregate ∈ aggregates, Expr.Typed schema aggregate.expr :=
  ((List.forall₂_and_left _ _).mp
    (typed.imp fun _ _ found => ⟨⟨found.2.choose, found.2.choose_spec.1⟩, found⟩)).1

/-- The input of a typed plan is typed, and over its columns so are the expressions of the
outermost operator. -/
theorem HasSchema.of_input {plan input : Plan} (typed : HasSchema catalog plan schema)
    (isInput : plan.input? = some input) :
    ∃ below, HasSchema catalog input below ∧ ∀ expr ∈ plan.ownExprs, Expr.Typed below expr := by
  cases typed with
  | oneRow | scan _ => cases isInput
  | filter inputTyped typed _ =>
      cases isInput
      exact ⟨_, inputTyped, List.forall_mem_singleton.mpr ⟨_, typed⟩⟩
  | project inputTyped typed _ =>
      cases isInput
      exact ⟨_, inputTyped, List.forall_mem_map.mpr (typed_of_hasColumns typed)⟩
  | aggregate inputTyped keysTyped aggregatesTyped =>
      cases isInput
      exact ⟨_, inputTyped, List.forall_mem_append.mpr
        ⟨List.forall_mem_map.mpr (typed_of_hasColumns keysTyped),
          List.forall_mem_map.mpr (typed_of_aggregateColumns aggregatesTyped)⟩⟩
  | sort inputTyped typed =>
      cases isInput
      exact ⟨_, inputTyped, List.forall_mem_map.mpr typed⟩
  | limit inputTyped =>
      cases isInput
      exact ⟨_, inputTyped, nofun⟩

/-- In a typed plan the input of every operator is typed, and over its columns so are the
expressions of the operator. -/
theorem HasSchema.operators_typed {plan : Plan} (typed : HasSchema catalog plan schema) :
    ∀ operator ∈ plan.operators, ∀ input, operator.input? = some input →
      ∃ below, HasSchema catalog input below ∧
        ∀ expr ∈ operator.ownExprs, Expr.Typed below expr := by
  induction plan using inductionOnInput generalizing schema with
  | step plan ih =>
      intro operator member input isInput
      rcases mem_operators_iff.mp member with rfl | ⟨next, isNext, inNext⟩
      · exact typed.of_input isInput
      · obtain ⟨_, nextTyped, -⟩ := typed.of_input isNext
        exact ih next isNext nextTyped operator inNext input isInput

/-- Every expression of a typed plan has a type over the columns of its input. -/
theorem HasSchema.exprs_typed {plan : Plan} (typed : HasSchema catalog plan schema) :
    ∀ expr ∈ plan.exprs, ∃ input, Expr.Typed input expr := by
  intro expr member
  rw [exprs_eq] at member
  obtain ⟨operator, isOperator, own⟩ := List.mem_flatMap.mp member
  cases isInput : operator.input? with
  | none =>
      rw [ownExprs_of_input?_eq_none isInput] at own
      cases own
  | some input =>
      obtain ⟨below, -, ownTyped⟩ := typed.operators_typed operator isOperator input isInput
      exact ⟨below, ownTyped expr own⟩

/-- **Typed plans are resolved.** -/
theorem HasSchema.ensureResolved {plan : Plan} (typed : HasSchema catalog plan schema) :
    plan.ensureResolved = .ok () := by
  have resolved : ∀ expr ∈ plan.exprs, expr.unresolvedCall? = none := by
    intro expr member
    obtain ⟨input, type, exprTyped⟩ := typed.exprs_typed expr member
    exact exprTyped.unresolvedCall?_eq_none
  simp only [Plan.ensureResolved, unresolvedCall?, List.findSome?_eq_none_iff.mpr resolved]

/-! ## Regular plans -/

/-- All literals of the plan fit and all its invocations are of checked functions. -/
def Regular (plan : Plan) : Prop := ∀ expr ∈ plan.exprs, expr.All Expr.Regular

theorem regular_filter {predicate : Expr} {input : Plan} :
    (Plan.filter predicate input).Regular ↔ predicate.All Expr.Regular ∧ input.Regular := by
  simp only [Regular, exprs, ownExprs, List.forall_mem_append, List.forall_mem_singleton]

theorem regular_project {items : List NamedExpr} {input : Plan} :
    (Plan.project items input).Regular ↔
      (∀ item ∈ items, item.expr.All Expr.Regular) ∧ input.Regular := by
  simp only [Regular, exprs, ownExprs, List.forall_mem_append, List.forall_mem_map]

theorem regular_aggregate {keys : List NamedExpr} {aggregates : List Aggregate}
    {input : Plan} :
    (Plan.aggregate keys aggregates input).Regular ↔
      ((∀ key ∈ keys, key.expr.All Expr.Regular) ∧
        ∀ aggregate ∈ aggregates, aggregate.expr.All Expr.Regular) ∧ input.Regular := by
  simp only [Regular, exprs, ownExprs, List.forall_mem_append, List.forall_mem_map]

theorem regular_sort {keys : List SortKey} {input : Plan} :
    (Plan.sort keys input).Regular ↔
      (∀ key ∈ keys, key.expr.All Expr.Regular) ∧ input.Regular := by
  simp only [Regular, exprs, ownExprs, List.forall_mem_append, List.forall_mem_map]

theorem Regular.of_mem_operators {plan operator : Plan} (regular : plan.Regular)
    (member : operator ∈ plan.operators) : operator.Regular := by
  rw [Regular, exprs_eq] at regular ⊢
  intro expr inOperator
  obtain ⟨below, isBelow, own⟩ := List.mem_flatMap.mp inOperator
  exact regular expr (List.mem_flatMap.mpr ⟨below, operators_subset member isBelow, own⟩)

/-- Analysis keeps literals that fit and only calls checked functions. -/
theorem regular_of_analyzeNode {plan : Plan} {next : Nat} {analyzed : (Plan × Schema) × Nat}
    (scalar : scope.Scalar) (regular : plan.Regular)
    (result : plan.analyzeNode scope catalog next = .ok analyzed) :
    analyzed.1.1.Regular := by
  induction plan generalizing next analyzed with
  | oneRow =>
      simp only [analyzeNode, state_pure_eq_ok] at result
      rw [← result]
      exact regular
  | scan table aliasName =>
      simp only [analyzeNode, state_bind_eq_ok, state_pure_eq_ok] at result
      obtain ⟨schema, _, -, rfl⟩ := result
      exact regular
  | filter predicate input ih =>
      rw [regular_filter] at regular
      simp only [analyzeNode, state_bind_eq_ok, state_pure_eq_ok] at result
      obtain ⟨_, _, innerResult, expr, _, exprResult, _, _, -, _, _, -, rfl⟩ := result
      exact regular_filter.mpr
        ⟨Expr.regular_of_resolve scalar regular.1 exprResult, ih regular.2 innerResult⟩
  | project columns input ih =>
      rw [regular_project] at regular
      simp only [analyzeNode, state_bind_eq_ok, state_pure_eq_ok] at result
      obtain ⟨⟨inner, schema⟩, _, innerResult, _, _, itemsResult, rfl⟩ := result
      refine regular_project.mpr
        ⟨regular_of_resolveNamed scalar ?_ itemsResult, ih regular.2 innerResult⟩
      split
      · simp only [allColumns, List.forall_mem_map]
        exact fun column _ => Expr.all_column.mpr trivial
      · exact regular.1
  | aggregate keys aggregates input ih =>
      rw [regular_aggregate] at regular
      simp only [analyzeNode, state_bind_eq_ok, state_pure_eq_ok] at result
      obtain ⟨_, _, innerResult, _, _, keysResult, _, _, aggregatesResult, rfl⟩ := result
      exact regular_aggregate.mpr
        ⟨⟨regular_of_resolveNamed scalar regular.1.1 keysResult,
          regular_of_resolveAggregates scalar regular.1.2 aggregatesResult⟩,
          ih regular.2 innerResult⟩
  | sort keys input ih =>
      rw [regular_sort] at regular
      simp only [analyzeNode, state_bind_eq_ok, state_pure_eq_ok] at result
      obtain ⟨_, _, innerResult, keys, _, keysResult, rfl⟩ := result
      exact regular_sort.mpr
        ⟨regular_of_resolveKeys scalar regular.1 keysResult, ih regular.2 innerResult⟩
  | limit count offset input ih =>
      simp only [analyzeNode, state_bind_eq_ok, state_pure_eq_ok] at result
      obtain ⟨_, _, innerResult, rfl⟩ := result
      have inner := ih regular innerResult
      exact inner

end Plan

end ScalarSql
