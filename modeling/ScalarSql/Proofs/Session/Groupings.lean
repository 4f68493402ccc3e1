import ScalarSql.Proofs.Plan.Agreement
import ScalarSql.Proofs.Plan.References
import ScalarSql.Proofs.Session

/-!
# Two groupings of the same rows

What stands above a grouping reads its output columns by name.  Two groupings of the same
input by the same keys may list different aggregates.  `SameOutput` says when this makes no
difference for a name: a key has the name, or the first aggregates of the name compute the
same.

**Main result.**  `Session.agrees_groupings`: over such names the outputs of the two
groupings have the same types and, row by row, the same values.  A filter over two plans
that agree keeps them in agreement, `Session.Agrees.filterBy`.
-/

set_option autoImplicit false

namespace ScalarSql

/-- What an aggregate computes, whatever its column is called. -/
def Aggregate.computes (aggregate : Aggregate) : AggregateFunction × Expr :=
  (aggregate.function, aggregate.expr)

/-- Groupings by the same keys have the same first output of a name: a key, or aggregates
that compute the same. -/
def SameOutput (keys : List NamedExpr) (left right : List Aggregate) (name : String) : Prop :=
  (∃ key ∈ keys, Text.sameName key.name name = true) ∨
    (left.find? (Text.sameName ·.name name)).map Aggregate.computes
      = (right.find? (Text.sameName ·.name name)).map Aggregate.computes

/-- The indices of the first outputs of a name. -/
theorem SameOutput.cases {keys : List NamedExpr} {left right : List Aggregate} {name : String}
    (same : SameOutput keys left right name) :
    (Reference.indexIn keys left name = none ∧ Reference.indexIn keys right name = none) ∨
      (∃ i < keys.length, Reference.indexIn keys left name = some i ∧
        Reference.indexIn keys right name = some i) ∨
      ∃ i j first second, left[i]? = some first ∧ right[j]? = some second ∧
        first.computes = second.computes ∧
        Reference.indexIn keys left name = some (i + keys.length) ∧
        Reference.indexIn keys right name = some (j + keys.length) := by
  simp only [Reference.indexIn_eq]
  cases inKeys : keys.findIdx? (Text.sameName ·.name name) with
  | some i =>
      obtain ⟨bound, -, -⟩ := List.findIdx?_eq_some_iff_getElem.mp inKeys
      exact .inr (.inl ⟨i, bound, rfl, rfl⟩)
  | none =>
      have noKey := List.findIdx?_eq_none_iff.mp inKeys
      rcases same with ⟨key, member, named⟩ | same
      · rw [noKey key member] at named
        cases named
      · rcases Reference.findIdx?_of_map_find? same with ⟨inLeft, inRight⟩ |
          ⟨i, j, first, second, inLeft, inRight, atLeft, atRight, computes⟩
        · exact .inl ⟨by rw [inLeft]; rfl, by rw [inRight]; rfl⟩
        · refine .inr (.inr ⟨i, j, first, second, atLeft, atRight, computes, ?_, ?_⟩)
          · rw [inLeft]
            rfl
          · rw [inRight]
            rfl

/-- Looking up a column finds its index first. -/
theorem Schema.column?_eq_bind (schema : Schema) (name : String) :
    schema.column? name = (schema.indexOf? name).bind (schema.columns[·]?) :=
  List.find?_eq_bind_findIdx?_getElem?

namespace Session

variable {session : Session}

/-! ## The inputs of groupings -/

/-- Expressions that one expression resolves to always have the same value, also after they
are rewritten. -/
theorem evaluate_rewriting {left right : Expr} {wanted : String → Prop}
    (alike : Expr.Alike wanted left right) (context : RowContext) :
    (session.rewriting left).evaluate context = (session.rewriting right).evaluate context := by
  rw [← Expr.evaluate_eraseIds context, (alike.map session.rewriter_rewriting).erased,
    Expr.evaluate_eraseIds]

/-- A source without expressions gives the same rows whenever it is run. -/
theorem Ran.source_unique {items : List Syntax.FromItem} {source : Plan}
    (planned : Plan.ofSources items = .ok source) {first second : Schema}
    {left right : List RowRun} (leftRan : session.Ran source first left)
    (rightRan : session.Ran source second right) : first = second ∧ left = right := by
  obtain ⟨_, leftPlan, _, leftAccepted, leftRun⟩ := leftRan
  obtain ⟨_, rightPlan, _, rightAccepted, rightRun⟩ := rightRan
  have samePlan : leftPlan = rightPlan := by
    unfold Plan.ofSources at planned
    split at planned
    · cases planned
      cases leftAccepted
      cases rightAccepted
      rfl
    · split at planned
      · cases planned
      · split at planned
        · cases planned
          simp only [Plan.analyzeNode, state_bind_eq_ok, state_pure_eq_ok]
            at leftAccepted rightAccepted
          obtain ⟨_, _, _, leftSame⟩ := leftAccepted
          obtain ⟨_, _, _, rightSame⟩ := rightAccepted
          cases leftSame
          cases rightSame
          rfl
        · cases planned
    · cases planned
  rw [samePlan, rightRun] at leftRun
  cases leftRun
  exact ⟨rfl, rfl⟩

/-- The rows of a source that satisfy a condition are the same whenever they are
computed. -/
theorem Ran.input_unique {items : List Syntax.FromItem} {source : Plan}
    (planned : Plan.ofSources items = .ok source) {condition : Option Expr}
    {first second : Schema} {left right : List RowRun}
    (leftRan : session.Ran (Plan.filterBy condition source) first left)
    (rightRan : session.Ran (Plan.filterBy condition source) second right) :
    first = second ∧ left = right := by
  cases condition with
  | none => exact leftRan.source_unique planned rightRan
  | some predicate =>
      obtain ⟨_, _, _, _, leftInner, leftResult, leftFiltered, rfl⟩ := leftRan.filter
      obtain ⟨_, _, _, _, rightInner, rightResult, rightFiltered, rfl⟩ := rightRan.filter
      obtain ⟨rfl, rfl⟩ := leftInner.source_unique planned rightInner
      have alike := Expr.alike_of_resolve (Schema.agree_refl first) (fun _ _ => trivial)
        leftResult rightResult
      have sameFilter : ∀ run : RowRun, filterRows first session.config.onError
          (session.rewriting _) run.offset run.rows = filterRows first session.config.onError
            (session.rewriting _) run.offset run.rows := fun run =>
        filterRows_congr run.offset fun _ _ _ => evaluate_rewriting alike _
      simp only [sameFilter, rightFiltered, Except.ok.injEq] at leftFiltered
      exact ⟨rfl, by rw [leftFiltered]⟩

/-! ## The outputs of groupings -/

/-- The output columns of a grouping are found by name like its keys and aggregates. -/
theorem indexOf?_outputs {source : Schema} {keys items : List NamedExpr}
    {aggregates computed : List Aggregate} {produced outputs : List Column}
    {next after aggregatesNext aggregatesAfter : Nat}
    (keysResolved : Plan.resolveNamed session.scope source keys next
      = .ok ((items, produced), after))
    (resolved : Plan.resolveAggregates session.scope source aggregates aggregatesNext
      = .ok ((computed, outputs), aggregatesAfter)) (name : String) :
    Schema.indexOf? { columns := produced ++ outputs } name
      = Reference.indexIn keys aggregates name := by
  rw [Schema.indexOf?_eq_names, Schema.names, List.map_append,
    Plan.names_of_resolveNamed keysResolved, Plan.names_of_resolveAggregates resolved]
  rfl

section Outputs

variable {source : Schema} {left right : List Aggregate} {leftNext rightNext : Nat}
  {leftComputed rightComputed : List Aggregate} {leftOutputs rightOutputs : List Column}
  {leftAfter rightAfter : Nat} {leftPaired rightPaired : List TypedAggregate}
  (leftResolved : Plan.resolveAggregates session.scope source left leftNext
    = .ok ((leftComputed, leftOutputs), leftAfter))
  (rightResolved : Plan.resolveAggregates session.scope source right rightNext
    = .ok ((rightComputed, rightOutputs), rightAfter))
  (leftMade : TypedAggregate.ofAggregates source (leftComputed.map fun aggregate =>
    { aggregate with expr := session.rewriting aggregate.expr }) = .ok leftPaired)
  (rightMade : TypedAggregate.ofAggregates source (rightComputed.map fun aggregate =>
    { aggregate with expr := session.rewriting aggregate.expr }) = .ok rightPaired)

include leftResolved rightResolved leftMade rightMade

/-- Aggregates that compute the same have columns of one type and are alike once they are
resolved and rewritten. -/
theorem alike_of_computes {i j : Nat} {first second : Aggregate}
    (atLeft : left[i]? = some first) (atRight : right[j]? = some second)
    (same : first.computes = second.computes) :
    ∃ type firstTyped secondTyped, leftOutputs[i]? = some { name := first.name, type } ∧
      rightOutputs[j]? = some { name := second.name, type } ∧
      leftPaired[i]? = some firstTyped ∧ rightPaired[j]? = some secondTyped ∧
      firstTyped.Alike secondTyped := by
  have function : first.function = second.function := congrArg Prod.fst same
  have argument : first.expr = second.expr := congrArg Prod.snd same
  obtain ⟨_, leftOutcome, leftType, leftResult, leftAt, leftComputes, leftColumn⟩ :=
    Plan.getElem?_of_resolveAggregates leftResolved atLeft
  obtain ⟨_, rightOutcome, rightType, rightResult, rightAt, rightComputes, rightColumn⟩ :=
    Plan.getElem?_of_resolveAggregates rightResolved atRight
  rw [← argument] at rightResult
  obtain ⟨-, sameType⟩ :=
    Expr.resolve_agree (Schema.agree_refl source) (fun _ _ => trivial) leftResult rightResult
  have alike := Expr.alike_of_resolve (Schema.agree_refl source) (fun _ _ => trivial)
    leftResult rightResult
  obtain rfl := Aggregate.outputType_congr leftComputes rightComputes function sameType
  obtain ⟨leftOutput, leftTyped, leftPair⟩ :=
    TypedAggregate.getElem?_of_ofAggregates leftMade
      ((List.getElem?_map ..).trans (congrArg _ leftAt))
  obtain ⟨rightOutput, rightTyped, rightPair⟩ :=
    TypedAggregate.getElem?_of_ofAggregates rightMade
      ((List.getElem?_map ..).trans (congrArg _ rightAt))
  have stillSame : (session.rewriting leftOutcome.1).dataType source
      = (session.rewriting rightOutcome.1).dataType source := by
    rw [← Expr.dataType_eraseIds, (alike.map session.rewriter_rewriting).erased,
      Expr.dataType_eraseIds]
  have sameOutput := Aggregate.outputType_congr leftTyped rightTyped function stillSame
  exact ⟨leftType, _, _, leftColumn, rightColumn, leftPair, rightPair,
    ⟨function, sameOutput, evaluate_rewriting alike⟩⟩

end Outputs

/-! ## Plans that agree -/

/-- Whenever the two plans run, their outputs have the same types and, row by row, the same
values under the wanted names. -/
def Agrees (session : Session) (wanted : String → Prop) (left right : Plan) : Prop :=
  ∀ ⦃first second : Schema⦄ ⦃leftRuns rightRuns : List RowRun⦄,
    session.Ran left first leftRuns → session.Ran right second rightRuns →
      Schema.Agree wanted first second ∧
        List.Forall₂ (RowRun.Agree wanted first second) leftRuns rightRuns

/-- The input of a query agrees with itself on all names. -/
theorem agrees_input {items : List Syntax.FromItem} {source : Plan}
    (planned : Plan.ofSources items = .ok source) (condition : Option Expr) :
    session.Agrees (fun _ => True) (Plan.filterBy condition source)
      (Plan.filterBy condition source) := by
  intro first second leftRuns rightRuns leftRan rightRan
  obtain ⟨rfl, rfl⟩ := leftRan.input_unique planned rightRan
  exact ⟨Schema.agree_refl first, RowRun.agree_refl _ first leftRuns⟩

/-- **Two groupings of the same rows by the same keys** agree on every name under which
they have the same first output. -/
theorem agrees_groupings {items : List Syntax.FromItem} {origin : Plan}
    (planned : Plan.ofSources items = .ok origin) (condition : Option Expr)
    (keys : List NamedExpr) (left right : List Aggregate) :
    session.Agrees (SameOutput keys left right)
      (.aggregate keys left (Plan.filterBy condition origin))
      (.aggregate keys right (Plan.filterBy condition origin)) := by
  intro first second leftRuns rightRuns leftRan rightRan
  obtain ⟨source, inner, _, items, produced, _, leftComputed, leftOutputs, _, leftPaired,
    leftRows, leftInner, leftKeys, leftResolved, leftMade, leftGrouped, rfl, rfl⟩ :=
    leftRan.aggregate
  obtain ⟨_, _, _, _, _, _, rightComputed, rightOutputs, _, rightPaired,
    rightRows, rightInner, rightKeys, rightResolved, rightMade, rightGrouped, rfl, rfl⟩ :=
    rightRan.aggregate
  -- Both group the rows of one input, but their keys are resolved separately.
  obtain ⟨rfl, rfl⟩ := leftInner.input_unique planned rightInner
  obtain ⟨keysAlike, rfl⟩ := Plan.resolveNamed_agree (Schema.agree_refl source)
    (fun _ _ _ _ => trivial) leftKeys rightKeys
  have size : produced.length = keys.length := (Plan.length_of_resolveNamed leftKeys).2
  have leftIndex := indexOf?_outputs leftKeys leftResolved
  have rightIndex := indexOf?_outputs leftKeys rightResolved
  constructor
  · refine .inr ⟨rfl, rfl, fun name same => ?_⟩
    rw [Schema.column?_eq_bind, Schema.column?_eq_bind, leftIndex, rightIndex]
    rcases same.cases with ⟨atLeft, atRight⟩ | ⟨i, bound, atLeft, atRight⟩ |
      ⟨i, j, _, _, inLeft, inRight, computes, atLeft, atRight⟩
    · rw [atLeft, atRight]
      rfl
    · rw [atLeft, atRight]
      simp only [Option.bind_some, List.getElem?_append_left (size ▸ bound)]
    · obtain ⟨type, _, _, leftColumn, rightColumn, -⟩ := alike_of_computes leftResolved
        rightResolved leftMade rightMade inLeft inRight computes
      rw [atLeft, atRight, ← size]
      simp [List.getElem?_append_right, leftColumn, rightColumn]
  · refine .cons ⟨rfl, ?_⟩ .nil
    have keysSame : ∀ context : RowContext,
        Expr.evaluateAll context (items.map fun item => session.rewriting item.expr)
          = Expr.evaluateAll context (_ : List Expr) := fun context =>
      Expr.evaluateAll_alike ⟨rfl, rfl, fun _ _ => rfl⟩
        (Plan.alike_map session.rewriter_rewriting keysAlike)
    have matched := groupRows_matched
      (Plan.alike_map session.rewriter_rewriting keysAlike).length_eq keysSame
      leftGrouped rightGrouped
    refine matched.imp fun leftRow rightRow rows policy index =>
      ⟨rfl, rfl, fun name same => ?_⟩
    obtain ⟨key, leftValues, rightValues, rfl, rfl, keyLength, values⟩ := rows
    rw [List.length_map, (Plan.length_of_resolveNamed leftKeys).1] at keyLength
    simp only [Expr.evaluateColumn, leftIndex, rightIndex]
    rcases same.cases with ⟨atLeft, atRight⟩ | ⟨i, bound, atLeft, atRight⟩ |
      ⟨i, j, _, _, inLeft, inRight, computes, atLeft, atRight⟩
    · rw [atLeft, atRight]
    · have inKey : i < key.length := by omega
      simp only [atLeft, atRight, List.getElem?_append_left inKey,
        List.getElem?_eq_getElem inKey]
    · obtain ⟨_, _, _, -, -, leftPair, rightPair, alike⟩ := alike_of_computes leftResolved
        rightResolved leftMade rightMade inLeft inRight computes
      obtain ⟨value, leftValue, rightValue⟩ := values.get leftPair rightPair alike
      rw [atLeft, atRight, ← keyLength]
      simp [List.getElem?_append_right, leftValue, rightValue]

/-- A condition over plans that agree on its columns keeps them in agreement. -/
theorem Agrees.filterBy {wanted : String → Prop} {left right : Plan}
    (agrees : session.Agrees wanted left right) {condition : Option Expr}
    (named : ∀ predicate ∈ condition, ∀ name ∈ predicate.columnNames, wanted name) :
    session.Agrees wanted (Plan.filterBy condition left) (Plan.filterBy condition right) := by
  intro first second leftRuns rightRuns leftRan rightRan
  cases condition with
  | none => exact agrees leftRan rightRan
  | some predicate =>
      obtain ⟨_, _, _, _, leftInner, leftResult, leftFiltered, rfl⟩ := leftRan.filter
      obtain ⟨_, _, _, _, rightInner, rightResult, rightFiltered, rfl⟩ := rightRan.filter
      obtain ⟨schemas, runs⟩ := agrees leftInner rightInner
      have alike := Expr.alike_of_resolve schemas (named predicate rfl) leftResult rightResult
      exact ⟨schemas, RowRun.agree_filter (alike.map session.rewriter_rewriting) runs
        leftFiltered rightFiltered⟩

end Session

end ScalarSql
