import ScalarSql.Proofs.Catalog
import ScalarSql.Proofs.Plan.SortOrder
import ScalarSql.Proofs.Plan.Typing

/-!
# Analysed plans run soundly

Analysis and execution compute the columns of every operator on their own.  Here they are
shown to agree, by one statement per operator and an induction over the typed plan: the
runs of rows that an operator produces fit the columns that analysis found for it.

**Runs.**  `RowRun.AllFit` is the invariant that travels through the plan.  Numbering the
runs anew, filtering, projecting, grouping, sorting and limiting keep it.

**Sorts that give up.**  Rows are sorted as if the values of their keys were totally ordered.
They need not be: a `NaN` ties with all doubles, and so does a structure with a missing member
with others.  A sort that finds this out gives up, `Plan.MeetsDisorder`.  It takes a key whose
type is not sorted totally, `Plan.HasSchema.exists_of_meetsDisorder`.

**Main result.**  `Plan.analyze_executeResolved_sound`: over registered tables an analysed
plan is resolved, and executing it gives the columns that `Plan.schemaOf` announces and
rows that fit them, or fails because of the data, or gives up a sort of such keys.
-/

set_option autoImplicit false

namespace ScalarSql

/-! ## Runs of rows -/

namespace RowRun

/-- All rows of all runs fit the columns. -/
def AllFit (columns : List Column) (runs : List RowRun) : Prop :=
  ∀ run ∈ runs, ∀ row ∈ run.rows, Row.Fits columns row

theorem allFit_number {columns : List Column} {lists : List (List Row)}
    (fit : ∀ rows ∈ lists, ∀ row ∈ rows, Row.Fits columns row) (offset : Nat) :
    AllFit columns (number offset lists) := by
  induction lists generalizing offset with
  | nil => exact fun _ member => nomatch member
  | cons rows rest ih =>
      obtain ⟨here, later⟩ := List.forall_mem_cons.mp fit
      exact List.forall_mem_cons.mpr ⟨here, ih later _⟩

theorem allFit_number_single {columns : List Column} {rows : List Row}
    (fit : ∀ row ∈ rows, Row.Fits columns row) : AllFit columns (number 0 [rows]) :=
  allFit_number (List.forall_mem_singleton.mpr fit) 0

theorem AllFit.flatten {columns : List Column} {runs : List RowRun}
    (fit : AllFit columns runs) : ∀ row ∈ flatten runs, Row.Fits columns row := by
  intro row member
  obtain ⟨run, inRuns, inRun⟩ := List.mem_flatMap.mp member
  exact fit run inRuns row inRun

theorem mapEach_sound {α : Type} {good : α → Prop} {f : RowRun → Except Error α}
    {runs : List RowRun} (each : ∀ run ∈ runs, Sound good (f run)) :
    Sound (∀ result ∈ ·, good result) (mapEach f runs) := by
  induction runs with
  | nil => exact fun _ member => nomatch member
  | cons run rest ih =>
      obtain ⟨here, later⟩ := List.forall_mem_cons.mp each
      simp only [mapEach]
      cases first : f run with
      | error error => rwa [first] at here
      | ok result =>
          rw [first] at here
          exact (ih later).map fun results good => List.forall_mem_cons.mpr ⟨here, good⟩

theorem forall₂_of_mapEach {α : Type} {f : RowRun → Except Error α} {runs : List RowRun}
    {results : List α} (mapped : mapEach f runs = .ok results) :
    List.Forall₂ (fun run result => f run = .ok result) runs results := by
  induction runs generalizing results with
  | nil =>
      cases mapped
      exact .nil
  | cons run rest ih =>
      simp only [mapEach] at mapped
      split at mapped
      · cases mapped
      · next first =>
          obtain ⟨_, later, rfl⟩ := map_eq_ok.mp mapped
          exact .cons first (ih later)

end RowRun

/-! ## Rows of one operator -/

/-- A predicate holds, does not hold, or fails because of the data. -/
theorem Expr.holds_sound {context : RowContext} {predicate : Expr} {type : DataType}
    (typed : HasType context.schema predicate type) (accepted : Connective.accepts type = true)
    (regular : predicate.All Regular) (fits : Row.Fits context.schema.columns context.row) :
    Sound (fun _ => True) (predicate.holds context) := by
  have sound := typed.evaluate_sound regular fits
  unfold holds
  cases value : predicate.evaluate context with
  | error error => rwa [value] at sound
  | ok result =>
      rw [value] at sound
      have truth : result.hasType .boolean = true := by
        cases type <;> cases accepted
        · exact sound
        · rw [Value.eq_null_of_hasType_unresolved sound]
          rfl
      rcases Value.boolean_cases truth with rfl | ⟨_, rfl⟩ <;> trivial

section Rows

variable {schema : Schema} {policy : FailurePolicy} {rows : List Row}
  (fit : ∀ row ∈ rows, Row.Fits schema.columns row)

include fit

theorem filterRows_sound {predicate : Expr} {type : DataType} (index : Nat)
    (typed : Expr.HasType schema predicate type) (accepted : Connective.accepts type = true)
    (regular : predicate.All Expr.Regular) :
    Sound (∀ row ∈ ·, Row.Fits schema.columns row)
      (filterRows schema policy predicate index rows) := by
  induction rows generalizing index with
  | nil => exact fun _ member => nomatch member
  | cons row rest ih =>
      obtain ⟨here, later⟩ := List.forall_mem_cons.mp fit
      have sound : Sound (fun _ => True) (predicate.holds { schema, policy, row, index }) :=
        Expr.holds_sound typed accepted regular here
      simp only [filterRows]
      cases kept : predicate.holds { schema, policy, row, index } with
      | error error => rwa [kept] at sound
      | ok keep =>
          refine (ih later (index + 1)).map fun rows restFit => ?_
          split
          · exact List.forall_mem_cons.mpr ⟨here, restFit⟩
          · exact restFit

theorem projectRows_sound {good : Row → Prop} {exprs : List Expr} (index : Nat)
    (each : ∀ row index, Row.Fits schema.columns row →
      Sound good (Expr.evaluateAll { schema, policy, row, index } exprs)) :
    Sound (∀ row ∈ ·, good row) (projectRows schema policy exprs index rows) := by
  induction rows generalizing index with
  | nil => exact fun _ member => nomatch member
  | cons row rest ih =>
      obtain ⟨here, later⟩ := List.forall_mem_cons.mp fit
      have sound := each row index here
      simp only [projectRows]
      cases values : Expr.evaluateAll { schema, policy, row, index } exprs with
      | error error => rwa [values] at sound
      | ok values' =>
          rw [values] at sound
          exact (ih later (index + 1)).map fun rows restFit =>
            List.forall_mem_cons.mpr ⟨sound, restFit⟩

end Rows

/-- Named expressions give a row that fits their columns. -/
theorem evaluateAll_hasColumns {context : RowContext} {items : List NamedExpr}
    {columns : List Column}
    (typed : List.Forall₂ (NamedExpr.HasColumn context.schema) items columns)
    (regular : ∀ item ∈ items, item.expr.All Expr.Regular)
    (fits : Row.Fits context.schema.columns context.row) :
    Sound (Row.Fits columns) (Expr.evaluateAll context (items.map NamedExpr.expr)) := by
  induction typed with
  | nil => exact .nil
  | @cons item column _ _ itemTyped _ ih =>
      obtain ⟨itemRegular, restRegular⟩ := List.forall_mem_cons.mp regular
      have here := itemTyped.2.evaluate_sound itemRegular fits
      simp only [List.map_cons, Expr.evaluateAll]
      cases value : item.expr.evaluate context with
      | error error => rwa [value] at here
      | ok result =>
          rw [value] at here
          have later := ih restRegular
          dsimp only
          cases values : Expr.evaluateAll context (List.map NamedExpr.expr _) with
          | error error => rwa [values] at later
          | ok results =>
              rw [values] at later
              exact .cons here later

/-- Typed expressions give values or fail because of the data. -/
theorem evaluateAll_typed {context : RowContext} {exprs : List Expr}
    (typed : ∀ expr ∈ exprs, Expr.Typed context.schema expr)
    (regular : ∀ expr ∈ exprs, expr.All Expr.Regular)
    (fits : Row.Fits context.schema.columns context.row) :
    Sound (fun _ => True) (Expr.evaluateAll context exprs) := by
  choose! types hasTypes using typed
  have values := Expr.evaluateAll_sound fun expr member =>
    (hasTypes expr member).evaluate_sound (regular expr member) fits
  exact values.mono fun _ _ => trivial

/-- The columns of typed named expressions are computed without an error. -/
theorem NamedExpr.columns_eq_ok {schema : Schema} {items : List NamedExpr}
    {columns : List Column} (typed : List.Forall₂ (NamedExpr.HasColumn schema) items columns) :
    NamedExpr.columns schema items = .ok columns := by
  induction typed with
  | nil => rfl
  | @cons item column _ _ itemTyped _ ih =>
      obtain ⟨name, type⟩ := column
      obtain ⟨rfl, exprTyped⟩ := itemTyped
      simp only [NamedExpr.columns, exprTyped.dataType, ih]
      rfl

/-- The types of aggregate columns are computed without an error. -/
theorem TypedAggregate.ofAggregates_eq_ok {schema : Schema} {aggregates : List Aggregate}
    {columns : List Column}
    (typed : List.Forall₂ (Aggregate.HasColumn schema) aggregates columns)
    (regular : ∀ aggregate ∈ aggregates, aggregate.expr.All Expr.Regular) :
    ∃ paired, TypedAggregate.ofAggregates schema aggregates = .ok paired ∧
      paired.map TypedAggregate.column = columns ∧ ∀ pair ∈ paired, pair.Fits schema := by
  induction typed with
  | nil => exact ⟨[], rfl, rfl, fun _ member => nomatch member⟩
  | @cons aggregate column _ _ itemTyped _ ih =>
      obtain ⟨here, later⟩ := List.forall_mem_cons.mp regular
      obtain ⟨paired, made, named, fit⟩ := ih later
      obtain ⟨name, type⟩ := column
      obtain ⟨rfl, argument, exprTyped, output⟩ := itemTyped
      have typed := Plan.Aggregate.outputType_eq_ok.mpr ⟨argument, exprTyped.dataType, output⟩
      refine ⟨{ aggregate, output := type } :: paired, ?_, ?_, ?_⟩
      · simp only [TypedAggregate.ofAggregates, typed, made]
        rfl
      · simp only [List.map_cons, named]
        rfl
      · exact List.forall_mem_cons.mpr ⟨⟨here, argument, exprTyped, output⟩, fit⟩

/-- Typed aggregates are paired with the types of their columns. -/
theorem TypedAggregate.map_column_ofAggregates {schema : Schema} {aggregates : List Aggregate}
    {columns : List Column} {paired : List TypedAggregate}
    (typed : List.Forall₂ (Aggregate.HasColumn schema) aggregates columns)
    (made : TypedAggregate.ofAggregates schema aggregates = .ok paired) :
    paired.map TypedAggregate.column = columns := by
  induction typed generalizing paired with
  | nil =>
      cases made
      rfl
  | @cons aggregate column _ _ itemTyped _ ih =>
      obtain ⟨name, type⟩ := column
      obtain ⟨rfl, argument, exprTyped, output⟩ := itemTyped
      have computed := Plan.Aggregate.outputType_eq_ok.mpr ⟨argument, exprTyped.dataType, output⟩
      simp only [TypedAggregate.ofAggregates, computed] at made
      obtain ⟨rest, restMade, rfl⟩ := map_eq_ok.mp made
      rw [List.map_cons, ih restMade]
      rfl

/-! ## Projected rows -/

/-- A projection evaluates its expressions on every row. -/
theorem forall₂_of_projectRows {schema : Schema} {policy : FailurePolicy} {exprs : List Expr}
    {rows results : List Row} {index : Nat}
    (projected : projectRows schema policy exprs index rows = .ok results) :
    List.Forall₂ (fun row values => ∃ index,
      Expr.evaluateAll { schema, policy, row, index } exprs = .ok values) rows results := by
  induction rows generalizing index results with
  | nil =>
      cases projected
      exact .nil
  | cons row rest ih =>
      simp only [projectRows] at projected
      split at projected
      · cases projected
      · next evaluated =>
          obtain ⟨_, restProjected, rfl⟩ := map_eq_ok.mp projected
          exact .cons ⟨index, evaluated⟩ (ih restProjected)

theorem RowRun.forall₂_of_project {schema : Schema} {policy : FailurePolicy}
    {exprs : List Expr} {runs results : List RowRun}
    (projected : mapEach (fun run => (projectRows schema policy exprs run.offset run.rows).map
      fun rows => { run with rows }) runs = .ok results) :
    List.Forall₂ (fun row values => ∃ index,
      Expr.evaluateAll { schema, policy, row, index } exprs = .ok values)
      (flatten runs) (flatten results) := by
  have pairs := forall₂_of_mapEach projected
  clear projected
  induction pairs with
  | nil => exact .nil
  | cons first _ ih =>
      obtain ⟨_, rows, rfl⟩ := map_eq_ok.mp first
      simp only [flatten, List.flatMap_cons] at ih ⊢
      exact List.rel_append (forall₂_of_projectRows rows) ih

/-! ## Plans -/

namespace Plan

/-- A sort of the plan comes upon more than 20 rows, among whose values of the keys the order of
the keys is not consistent. -/
def MeetsDisorder (catalog : Catalog) (policy : FailurePolicy) (plan : Plan) : Prop :=
  ∃ keys input schema runs values, Plan.sort keys input ∈ plan.operators ∧
    input.run catalog policy = .ok (schema, runs) ∧
    projectRows schema policy (keys.map SortKey.expr) 0 (RowRun.flatten runs) = .ok values ∧
    20 < values.length ∧ ¬ IsConsistentOn (SortKey.below keys) values

theorem MeetsDisorder.of_input {catalog : Catalog} {policy : FailurePolicy} {plan input : Plan}
    (isInput : plan.input? = some input) (meets : input.MeetsDisorder catalog policy) :
    plan.MeetsDisorder catalog policy := by
  obtain ⟨keys, below, schema, runs, values, member, found⟩ := meets
  exact ⟨keys, below, schema, runs, values, mem_operators_of_input isInput member, found⟩

/-- A computation that ends with a result of the given kind, fails because of the data, or gives
up a sort in the given case. -/
def SoundUnless {α : Type} (disorder : Prop) (good : α → Prop) : Except Error α → Prop
  | .ok result => good result
  | .error error => error.IsDataFault ∨ error = .inconsistentOrder ∧ disorder

section SoundUnless

variable {α β : Type} {disorder more : Prop} {good : α → Prop} {better : β → Prop}
  {outcome : Except Error α}

theorem soundUnless_of_sound (sound : Sound good outcome) : SoundUnless disorder good outcome := by
  cases outcome with
  | ok result => exact sound
  | error error => exact .inl sound

theorem SoundUnless.mono (sound : SoundUnless disorder good outcome) (cases : disorder → more) :
    SoundUnless more good outcome := by
  cases outcome with
  | ok result => exact sound
  | error error => exact sound.imp_right (And.imp_right cases)

theorem SoundUnless.bind {next : α → Except Error β} (sound : SoundUnless disorder good outcome)
    (goesOn : ∀ result, outcome = .ok result → good result →
      SoundUnless disorder better (next result)) :
    SoundUnless disorder better (outcome >>= next) := by
  cases outcome with
  | ok result => exact goesOn result rfl sound
  | error error => exact sound

end SoundUnless

/-- The rows of a sort fit the columns, or it has come upon disorder. -/
theorem sort_sound {catalog : Catalog} {policy : FailurePolicy} {keys : List SortKey}
    {input : Plan} {schema : Schema} {runs : List RowRun} {values : List (List Value)}
    (ran : input.run catalog policy = .ok (schema, runs)) (fit : RowRun.AllFit schema.columns runs)
    (projected : projectRows schema policy (keys.map SortKey.expr) 0 (RowRun.flatten runs)
      = .ok values) :
    SoundUnless ((Plan.sort keys input).MeetsDisorder catalog policy)
      (∀ row ∈ ·, Row.Fits schema.columns row)
      (SortKey.sortRows keys (values.zip (RowRun.flatten runs))) := by
  have aligned := (forall₂_of_projectRows projected).length_eq
  cases sorts : SortKey.sortRows keys (values.zip (RowRun.flatten runs)) with
  | ok sorted =>
      intro row member
      exact fit.flatten row ((SortKey.sortRows_perm aligned.symm sorts).mem_iff.mp member)
  | error error =>
      obtain ⟨gaveUp, many, disorder⟩ := SortKey.of_sortRows_eq_error sorts
      exact .inr ⟨gaveUp, keys, input, schema, runs, values, mem_operators_self _, ran, projected,
        aligned ▸ many, disorder⟩

/-- **Typed plans run soundly**: the columns are the ones that analysis found, and all rows
fit them, unless the data causes a failure or a sort comes upon disorder. -/
theorem HasSchema.run_sound {catalog : Catalog} {policy : FailurePolicy} {plan : Plan}
    {schema : Schema} (registered : catalog.Registered) (typed : HasSchema catalog plan schema)
    (regular : plan.Regular) :
    SoundUnless (plan.MeetsDisorder catalog policy)
      (fun result => result.1 = schema ∧ RowRun.AllFit schema.columns result.2)
      (plan.run catalog policy) := by
  induction typed with
  | oneRow =>
      refine ⟨rfl, ?_⟩
      simp only [RowRun.AllFit, List.forall_mem_singleton]
      exact .nil
  | @scan name aliasName schema stored =>
      obtain ⟨table, found, rfl⟩ := map_eq_ok.mp stored
      have rowsSound := readBatches_sound (registered.table_consistent found)
      simp only [run, stored, found]
      exact soundUnless_of_sound
        (rowsSound.bind fun lists fit => ⟨rfl, RowRun.allFit_number fit 0⟩)
  | @filter predicate input schema type _ typed accepted ih =>
      rw [regular_filter] at regular
      simp only [run]
      refine ((ih regular.2).mono (.of_input rfl)).bind ?_
      rintro ⟨_, runs⟩ - ⟨rfl, fit⟩
      exact soundUnless_of_sound ((RowRun.mapEach_sound fun run member =>
        filterRows_sound (fit run member) run.offset typed accepted regular.1).bind
          fun lists listsFit => ⟨rfl, RowRun.allFit_number listsFit 0⟩)
  | @project items input schema columns _ typed _ ih =>
      rw [regular_project] at regular
      simp only [run]
      refine ((ih regular.2).mono (.of_input rfl)).bind ?_
      rintro ⟨_, runs⟩ - ⟨rfl, fit⟩
      simp only [NamedExpr.columns_eq_ok typed]
      have projected : Sound (RowRun.AllFit columns) (RowRun.mapEach (fun run =>
          (projectRows _ policy (items.map NamedExpr.expr) run.offset run.rows).map
            fun rows => { run with rows }) runs) :=
        RowRun.mapEach_sound fun run member =>
          (projectRows_sound (fit run member) run.offset fun row index rowFits =>
            evaluateAll_hasColumns typed regular.1 rowFits).map fun _ rowsFit => rowsFit
      exact soundUnless_of_sound (projected.bind fun runs runsFit => ⟨rfl, runsFit⟩)
  | @aggregate keys aggregates input schema keyColumns aggregateColumns _ keysTyped
      aggregatesTyped ih =>
      rw [regular_aggregate] at regular
      simp only [run]
      refine ((ih regular.2).mono (.of_input rfl)).bind ?_
      rintro ⟨_, runs⟩ - ⟨rfl, fit⟩
      obtain ⟨paired, made, rfl, pairedFit⟩ :=
        TypedAggregate.ofAggregates_eq_ok aggregatesTyped regular.1.2
      simp only [NamedExpr.columns_eq_ok keysTyped, made]
      have keyless : keys.map NamedExpr.expr = [] → keyColumns = [] := by
        intro none
        rw [List.map_eq_nil_iff.mp none] at keysTyped
        exact List.forall₂_nil_left_iff.mp keysTyped
      exact soundUnless_of_sound ((groupRows_sound pairedFit fit.flatten keyless
        fun row index rowFits => evaluateAll_hasColumns keysTyped regular.1.1 rowFits).bind
          fun rows rowsFit => ⟨rfl, RowRun.allFit_number_single rowsFit⟩)
  | @sort keys input schema _ typed ih =>
      rw [regular_sort] at regular
      simp only [run]
      refine ((ih regular.2).mono (.of_input rfl)).bind ?_
      rintro ⟨_, runs⟩ ran ⟨rfl, fit⟩
      have valuesSound : Sound (fun _ => True)
          (projectRows _ policy (keys.map SortKey.expr) 0 (RowRun.flatten runs)) :=
        (projectRows_sound fit.flatten 0 fun _ _ rowFits => evaluateAll_typed
          (List.forall_mem_map.mpr typed) (List.forall_mem_map.mpr regular.1) rowFits).mono
          fun _ _ => trivial
      exact (soundUnless_of_sound valuesSound).bind fun values projected _ =>
        (sort_sound ran fit projected).bind fun sorted _ sortedFit =>
          ⟨rfl, RowRun.allFit_number_single sortedFit⟩
  | @limit count offset input schema _ ih =>
      simp only [run]
      refine ((ih regular).mono (.of_input rfl)).bind ?_
      rintro ⟨_, runs⟩ - ⟨rfl, fit⟩
      exact ⟨rfl, RowRun.allFit_number_single fun row member =>
        fit.flatten row (List.mem_of_mem_drop (List.mem_of_mem_take member))⟩

/-- **A typed plan that runs has the columns of its type**, over every source that has the
columns of the catalog. -/
theorem HasSchema.eq_of_runFrom {catalog : Catalog} {source : TableSource}
    {policy : FailurePolicy} {plan : Plan} {schema : Schema} (serves : source.Serves catalog)
    (typed : HasSchema catalog plan schema) {result : Schema × List RowRun}
    (ran : plan.runFrom source policy = .ok result) : result.1 = schema := by
  induction typed generalizing result with
  | oneRow =>
      cases ran
      rfl
  | scan stored =>
      simp only [runFrom, bind_eq_ok] at ran
      obtain ⟨_, scanned, _, _, made⟩ := ran
      cases made
      exact Except.ok.inj ((serves scanned).symm.trans stored)
  | filter _ _ _ ih =>
      simp only [runFrom, operate, bind_eq_ok] at ran
      obtain ⟨_, innerRan, _, _, made⟩ := ran
      cases made
      have same := ih innerRan
      exact same
  | sort _ _ ih =>
      simp only [runFrom, operate, bind_eq_ok] at ran
      obtain ⟨_, innerRan, _, _, _, _, made⟩ := ran
      cases made
      have same := ih innerRan
      exact same
  | project _ typed _ ih =>
      simp only [runFrom, operate, bind_eq_ok] at ran
      obtain ⟨_, innerRan, _, columns, _, _, made⟩ := ran
      cases made
      rw [ih innerRan, NamedExpr.columns_eq_ok typed] at columns
      cases columns
      rfl
  | aggregate _ keysTyped aggregatesTyped ih =>
      simp only [runFrom, operate, bind_eq_ok] at ran
      obtain ⟨_, innerRan, _, columns, _, paired, _, _, made⟩ := ran
      cases made
      rw [ih innerRan, NamedExpr.columns_eq_ok keysTyped] at columns
      rw [ih innerRan] at paired
      cases columns
      rw [TypedAggregate.map_column_ofAggregates aggregatesTyped paired]
  | limit _ ih =>
      simp only [runFrom, operate, bind_eq_ok] at ran
      obtain ⟨_, innerRan, made⟩ := ran
      cases made
      have same := ih innerRan
      exact same

theorem HasSchema.eq_of_run {catalog : Catalog} {policy : FailurePolicy} {plan : Plan}
    {schema : Schema} (typed : HasSchema catalog plan schema) {result : Schema × List RowRun}
    (ran : plan.run catalog policy = .ok result) : result.1 = schema :=
  typed.eq_of_runFrom catalog.source_serves (run_eq_runFrom catalog policy plan ▸ ran)

/-- A result with the columns of a schema and rows that fit them. -/
def ResultFits (schema : Schema) (result : QueryResult) : Prop :=
  result.columns = schema.columns ∧ ∀ row ∈ result.rows, Row.Fits schema.columns row

/-- Executing a typed plan gives its columns and rows that fit them. -/
theorem HasSchema.executeResolved_sound {catalog : Catalog} {policy : FailurePolicy}
    {plan : Plan} {schema : Schema} (registered : catalog.Registered)
    (typed : HasSchema catalog plan schema) (regular : plan.Regular) :
    SoundUnless (plan.MeetsDisorder catalog policy) (ResultFits schema)
      (plan.executeResolved catalog policy) := by
  simp only [executeResolved, typed.ensureResolved, execute]
  refine (typed.run_sound registered regular).bind ?_
  rintro ⟨_, runs⟩ - ⟨rfl, fit⟩
  exact ⟨rfl, fit.flatten⟩

/-- **Disorder needs a key of a type that is not sorted totally.**  The values of the other keys
are sorted by total preorders, and so are the rows by all of them together. -/
theorem HasSchema.exists_of_meetsDisorder {catalog : Catalog} {policy : FailurePolicy}
    {plan : Plan} {schema : Schema} (registered : catalog.Registered)
    (typed : HasSchema catalog plan schema) (regular : plan.Regular)
    (meets : plan.MeetsDisorder catalog policy) :
    ∃ keys input below, Plan.sort keys input ∈ plan.operators ∧ HasSchema catalog input below ∧
      ∃ key ∈ keys, ∃ type, Expr.HasType below key.expr type ∧ ¬ type.SortsTotally := by
  obtain ⟨keys, input, produced, runs, values, member, ran, projected, -, disorder⟩ := meets
  obtain ⟨below, inputTyped, keysTyped⟩ := typed.operators_typed _ member input rfl
  obtain ⟨keysRegular, inputRegular⟩ := regular_sort.mp (regular.of_mem_operators member)
  obtain ⟨rfl, fit⟩ : produced = below ∧ RowRun.AllFit below.columns runs := by
    have sound := @HasSchema.run_sound _ policy _ _ registered inputTyped inputRegular
    rwa [ran] at sound
  refine ⟨keys, input, produced, member, inputTyped, ?_⟩
  by_contra none
  choose! types hasTypes using keysTyped
  have keyTypes := List.forall_mem_map.mp hasTypes
  have composes : ∀ kept ∈ (keys.map SortKey.expr).map fun expr (value : Value) =>
      value.hasType (types expr) = true, Value.Composes kept := by
    simp only [List.forall_mem_map]
    intro key isKey
    have total : (types key.expr).SortsTotally := by
      by_contra notTotal
      exact none ⟨key, isKey, _, keyTypes key isKey, notTotal⟩
    exact total.composes
  have valuesTyped : Sound (∀ rowValues ∈ ·, List.Forall₂ (fun value expr =>
        value.hasType (types expr) = true) rowValues (keys.map SortKey.expr))
      (projectRows produced policy (keys.map SortKey.expr) 0 (RowRun.flatten runs)) :=
    projectRows_sound fit.flatten 0 fun _ _ rowFits => Expr.evaluateAll_sound fun expr isExpr =>
      (hasTypes expr isExpr).evaluate_sound (List.forall_mem_map.mpr keysRegular expr isExpr)
        rowFits
  rw [projected] at valuesTyped
  exact disorder (SortKey.isConsistentOn_below composes fun rowValues member =>
    List.forall₂_map_right_iff.mpr (valuesTyped rowValues member))

/-- **Analysed plans run soundly.**  Over registered tables, with literals that fit and
functions that are checked, what analysis returns is resolved.  Executing it gives the
columns that the plan is said to produce, with a value of the right type in each of them
in every row, or fails because of the data: in a function, in a stored decimal, or in an
overflow, a cast or a narrowing.

There is one more way to end.  A sort of more than 20 rows gives up if it finds that the order of
the values of its keys contradicts itself.  For this a key has to be a `DOUBLE`, or a structure
whose fields tell values apart: all other types are sorted totally. -/
theorem analyze_executeResolved_sound (scope : FunctionScope) (catalog : Catalog)
    (plan analyzed : Plan) (next after : Nat) (registered : catalog.Registered)
    (scalar : scope.Scalar) (regular : plan.Regular)
    (result : plan.analyze scope catalog next = .ok (analyzed, after)) :
    analyzed.ensureResolved = .ok () ∧
      ∃ schema, (∀ next, analyzed.schemaOf scope catalog next = .ok (schema, next)) ∧
        ∀ policy,
          SoundUnless (analyzed.MeetsDisorder catalog policy) (ResultFits schema)
            (analyzed.executeResolved catalog policy) ∧
          (analyzed.MeetsDisorder catalog policy →
            ∃ keys input below, Plan.sort keys input ∈ analyzed.operators ∧
              (∀ next, input.schemaOf scope catalog next = .ok (below, next)) ∧
              ∃ key ∈ keys, ∃ type, key.expr.dataType below = .ok type ∧
                ¬ type.SortsTotally) := by
  simp only [analyze, state_bind_eq_ok, state_pure_eq_ok] at result
  obtain ⟨⟨inner, schema⟩, _, innerResult, same⟩ := result
  cases same
  have typed := hasSchema_of_analyzeNode innerResult
  have stillRegular := regular_of_analyzeNode scalar regular innerResult
  refine ⟨typed.ensureResolved, schema, fun next => typed.schemaOf scope next,
    fun policy => ⟨typed.executeResolved_sound registered stillRegular, fun meets => ?_⟩⟩
  obtain ⟨keys, input, below, member, inputTyped, key, isKey, type, keyTyped, notTotal⟩ :=
    typed.exists_of_meetsDisorder registered stillRegular meets
  exact ⟨keys, input, below, member, fun next => inputTyped.schemaOf scope next, key, isKey, type,
    keyTyped.dataType, notTotal⟩

/-- Sums of `v` by `k` over a stored table: the plan is analysed, and its result has a row
with an `INT` and a `BIGINT`.  A sort of 21 doubles, one of them not a number, is analysed as well,
but it comes upon disorder and gives up. -/
theorem analyze_executeResolved_sound_of_tables :
    let sums : Batch := {
      columns := [("k", .int32), ("v", .int32)]
      rows := [[.number 7, .number 2], [.number 7, .number 3]] }
    let double (n : Int) : List Cell := [.real (.ofInt n)]
    let doubles : Batch := {
      columns := [("x", .float64)]
      rows := [12, 6, 18, 20, 10, 1, 17, 2, 16, 7, 11, 14, 15, 13].map double ++ [.real .nan]
        :: [8, 4, 9, 3, 19, 5].map double }
    let scope : FunctionScope := { registered := {}, builtin := {}, narrowing := .exact }
    let plan : Plan :=
      .aggregate [⟨.column "K", "k"⟩] [⟨.sum, .column "v", "SUM(v)"⟩] (.scan "t" none)
    let sorting : Plan := .sort [⟨.column "x", true, true⟩] (.scan "t" none)
    (∃ catalog, Catalog.register {} "T" [sums] = .ok catalog ∧
      plan.analyze scope catalog 0 = .ok (plan, 0) ∧
      ∃ result, plan.executeResolved catalog .abort = .ok result ∧
        result.rows.length = 1 ∧
        ResultFits { columns := [⟨"k", .int⟩, ⟨"SUM(v)", .long⟩] } result) ∧
    ∃ catalog, Catalog.register {} "T" [doubles] = .ok catalog ∧
      sorting.analyze scope catalog 0 = .ok (sorting, 0) ∧
      sorting.executeResolved catalog .abort = .error .inconsistentOrder ∧
      sorting.MeetsDisorder catalog .abort := by
  intro sums double doubles scope plan sorting
  have scalar : scope.Scalar := by
    intro _ _ found
    cases found
  constructor
  · refine ⟨_, rfl, rfl, _, rfl, rfl, ?_⟩
    have wellFormed : ∀ part ∈ [sums], part.WellFormed := by
      simp only [List.forall_mem_singleton, Batch.WellFormed, sums, List.forall_mem_cons]
      exact ⟨rfl, rfl⟩
    have regular : plan.Regular := by
      simp [plan, Regular, exprs, ownExprs, Expr.Regular]
    have stored : Catalog.register {} "T" [sums] = .ok _ := rfl
    obtain ⟨-, schema, columns, sound⟩ := analyze_executeResolved_sound scope _ plan plan 0 0
      (.register .empty wellFormed stored) scalar regular rfl
    cases columns 0
    exact (sound .abort).1
  · let catalog : Catalog := { tables := [("t", {
      columns := [⟨"x", .double⟩], batches := [doubles] })] }
    let value (n : Int) : List Value := [.double (.ofInt n)]
    let values := [12, 6, 18, 20, 10, 1, 17, 2, 16, 7, 11, 14, 15, 13].map value
      ++ [.double .nan] :: [8, 4, 9, 3, 19, 5].map value
    have found : adaptiveSort (fun left right : List Value × Row =>
        SortKey.below [⟨.column "x", true, true⟩] left.1 right.1) (values.zip values) = none :=
      Option.isNone_iff_eq_none.mp (by decide +kernel)
    have stored : Catalog.register {} "T" [doubles] = .ok catalog := rfl
    have ran : (Plan.scan "t" none).run catalog .abort
        = .ok ({ columns := [⟨"x", .double⟩], qualifiers := ["t"] }, RowRun.number 0 [values]) :=
      rfl
    have sorts : sorting.run catalog .abort = .error .inconsistentOrder := by
      rw [show sorting = .sort [⟨.column "x", true, true⟩] (.scan "t" none) from rfl, run, ran]
      change SortKey.sortRows [⟨.column "x", true, true⟩] (values.zip values) >>= _ = _
      rw [SortKey.sortRows, found]
      rfl
    have gaveUp : sorting.executeResolved catalog .abort = .error .inconsistentOrder := by
      rw [executeResolved, execute, sorts]
      rfl
    have wellFormed : ∀ part ∈ [doubles], part.WellFormed := by
      simp only [List.forall_mem_singleton, Batch.WellFormed]
      decide
    have regular : sorting.Regular := by
      simp [sorting, Regular, exprs, ownExprs, Expr.Regular]
    obtain ⟨-, schema, -, sound⟩ := analyze_executeResolved_sound scope _ sorting sorting 0 0
      (.register .empty wellFormed stored) scalar regular rfl
    have outcome := (sound .abort).1
    rw [gaveUp] at outcome
    exact ⟨catalog, stored, rfl, gaveUp, (outcome.resolve_left id).2⟩

end Plan

end ScalarSql
