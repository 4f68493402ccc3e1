import ScalarSql.Proofs.Expr.Invocations
import ScalarSql.Proofs.Plan.Preservation

/-!
# Rewriting keeps every call and every type

**Calls.**  A pass keeps the invocations of a plan and rewrites their arguments, so that the
functions, the identities of the calls and the numbers of arguments stay as they are,
`Plan.invocations_optimize`.  `Plan.optimize?` is the pass that checks the number of
arguments at every invocation that it puts together.  In a plan whose invocations have once
passed the check none fails.

**Operators.**  One pass drops the filters whose predicate folds to a true literal and
rewrites every other operator where it stands, `Plan.operators_optimize`.  The operators of
an analysed plan produce the same columns as before, and over the columns that come in every
argument of an invocation has the same type as before, `Plan.Kept`.

**Main result.**  `Plan.optimize_invocations`.
-/

set_option autoImplicit false

namespace ScalarSql

/-- A pass keeps every invocation and rewrites its arguments as it rewrites expressions. -/
theorem Expr.invocations_settled (expr : Expr) :
    expr.settled.invocations.Perm (expr.invocations.map (.mapArguments settled)) := by
  have normalized := expr.fold.invocations_applyRule .normalization
  have folded := (expr.invocations_applyRule .folding).map (Invocation.mapArguments normalize)
  have both : Invocation.mapArguments normalize ∘ Invocation.mapArguments fold
      = Invocation.mapArguments settled :=
    funext fun invocation => invocation.mapArguments_mapArguments fold normalize
  rw [List.map_map] at folded
  rw [← both]
  exact normalized.trans folded

/-- Whether an expression is a true literal. -/
def Expr.isTrue : Expr → Bool
  | .literal (.boolean true) => true
  | _ => false

theorem Expr.isTrue_iff {expr : Expr} :
    expr.isTrue = true ↔ expr = .literal (.boolean true) := by
  constructor
  · intro isTrue
    cases expr with
    | literal value =>
        cases value with
        | boolean truth =>
            cases truth with
            | true => rfl
            | false => cases isTrue
        | _ => cases isTrue
    | _ => cases isTrue
  · rintro rfl
    rfl

namespace Plan

/-! ## Invocations -/

/-- The invocations in the expressions of the outermost operator. -/
def ownInvocations (plan : Plan) : List Invocation := plan.ownExprs.flatMap Expr.invocations

/-- The invocations in all expressions of a plan. -/
def invocations (plan : Plan) : List Invocation := plan.exprs.flatMap Expr.invocations

/-- All functions that are invoked accept the numbers of their arguments. -/
def Accepted (plan : Plan) : Prop := ∀ invocation ∈ plan.invocations, invocation.Accepted

/-- Nothing is invoked in a filter that is literally true. -/
theorem invocations_dropTrueFilters (plan : Plan) :
    plan.dropTrueFilters.invocations = plan.invocations := by
  simp only [invocations]
  induction plan with
  | oneRow => rfl
  | scan name aliasName => rfl
  | filter predicate input ih =>
      by_cases isTrue : predicate = .literal (.boolean true)
      · rw [isTrue, dropTrueFilters, ih]
        rfl
      · simp only [dropTrueFilters_filter isTrue, exprs, ownExprs, List.flatMap_append, ih]
  | project _ _ ih | aggregate _ _ _ ih | sort _ _ ih =>
      simp only [dropTrueFilters, exprs, ownExprs, List.flatMap_append, ih]
  | limit _ _ _ ih => simp only [dropTrueFilters, exprs, ih]

theorem invocations_mapExprs {f : Expr → Expr}
    (keeps : ∀ expr, (f expr).invocations.Perm (expr.invocations.map (.mapArguments f)))
    (plan : Plan) :
    (plan.mapExprs f).invocations.Perm (plan.invocations.map (.mapArguments f)) := by
  rw [invocations, exprs_mapExprs, List.flatMap_map, invocations, List.map_flatMap]
  exact List.Perm.flatMap_left _ fun expr _ => keeps expr

theorem invocations_applyRule (rule : RewriteRule) (plan : Plan) :
    (plan.applyRule rule).invocations.Perm
      (plan.invocations.map (.mapArguments (Expr.applyRule · rule))) := by
  cases rule with
  | folding =>
      rw [applyRule, invocations_dropTrueFilters]
      exact invocations_mapExprs (Expr.invocations_applyRule .folding) plan
  | normalization => exact invocations_mapExprs (Expr.invocations_applyRule .normalization) plan

/-- **A pass keeps every invocation** of a plan and rewrites its arguments. -/
theorem invocations_optimize (plan : Plan) :
    plan.optimize.invocations.Perm (plan.invocations.map (.mapArguments Expr.settled)) := by
  rw [optimize_eq, invocations_dropTrueFilters]
  exact invocations_mapExprs Expr.invocations_settled plan

/-- The functions, the identities of the calls and the numbers of arguments stay. -/
theorem shapes_optimize (plan : Plan) :
    (plan.optimize.invocations.map Invocation.shape).Perm
      (plan.invocations.map Invocation.shape) := by
  have kept := (invocations_optimize plan).map Invocation.shape
  have same : Invocation.shape ∘ Invocation.mapArguments Expr.settled = Invocation.shape :=
    funext fun invocation => invocation.shape_mapArguments _
  rwa [List.map_map, same] at kept

/-! ## Checks -/

/-- Rewrites every expression by a rewriting that may refuse one. -/
def mapExprs? (f : Expr → Except AnalysisError Expr) : Plan → Except AnalysisError Plan
  | .oneRow => .ok .oneRow
  | .scan table aliasName => .ok (.scan table aliasName)
  | .filter predicate input => do
      let input ← input.mapExprs? f
      let predicate ← f predicate
      .ok (.filter predicate input)
  | .project columns input => do
      let input ← input.mapExprs? f
      let columns ← columns.mapM fun column => (f column.expr).map ({ column with expr := · })
      .ok (.project columns input)
  | .aggregate keys aggregates input => do
      let input ← input.mapExprs? f
      let keys ← keys.mapM fun key => (f key.expr).map ({ key with expr := · })
      let aggregates ← aggregates.mapM fun aggregate =>
        (f aggregate.expr).map ({ aggregate with expr := · })
      .ok (.aggregate keys aggregates input)
  | .sort keys input => do
      let input ← input.mapExprs? f
      let keys ← keys.mapM fun key => (f key.expr).map ({ key with expr := · })
      .ok (.sort keys input)
  | .limit count offset input => do
      let input ← input.mapExprs? f
      .ok (.limit count offset input)

/-- The plan after one rule that checks every invocation it puts together. -/
def applyRule? (plan : Plan) : RewriteRule → Except AnalysisError Plan
  | .folding => (plan.mapExprs? (Expr.rewrite? Expr.foldStep)).map dropTrueFilters
  | .normalization => plan.mapExprs? (Expr.rewrite? Expr.normalizeStep)

/-- The plan after one pass over all rules with checks. -/
def optimize? (plan : Plan) : Except AnalysisError Plan :=
  RewriteRule.defaults.foldlM applyRule? plan

theorem mapM_map_eq_ok {α : Type} {items : List α} {expr : α → Expr} {put : α → Expr → α}
    {f? : Expr → Except AnalysisError Expr} {f : Expr → Expr}
    (each : ∀ item ∈ items, f? (expr item) = .ok (f (expr item))) :
    (items.mapM fun item => (f? (expr item)).map (put item))
      = .ok (items.map fun item => put item (f (expr item))) := by
  induction items with
  | nil => rfl
  | cons item rest ih =>
      obtain ⟨here, later⟩ := List.forall_mem_cons.mp each
      rw [List.mapM_cons, here, ih later]
      rfl

theorem mapExprs?_eq_ok {f? : Expr → Except AnalysisError Expr} {f : Expr → Expr} {plan : Plan}
    (each : ∀ expr ∈ plan.exprs, f? expr = .ok (f expr)) :
    plan.mapExprs? f? = .ok (plan.mapExprs f) := by
  induction plan with
  | oneRow => rfl
  | scan name aliasName => rfl
  | filter predicate input ih =>
      simp only [exprs, ownExprs, List.forall_mem_append, List.forall_mem_singleton] at each
      obtain ⟨here, below⟩ := each
      rw [mapExprs?, ih below, here]
      rfl
  | project columns input ih =>
      simp only [exprs, ownExprs, List.forall_mem_append, List.forall_mem_map] at each
      obtain ⟨here, below⟩ := each
      rw [mapExprs?, ih below, mapM_map_eq_ok here]
      rfl
  | aggregate keys aggregates input ih =>
      simp only [exprs, ownExprs, List.forall_mem_append, List.forall_mem_map] at each
      obtain ⟨⟨keysHere, aggregatesHere⟩, below⟩ := each
      rw [mapExprs?, ih below, mapM_map_eq_ok keysHere, mapM_map_eq_ok aggregatesHere]
      rfl
  | sort keys input ih =>
      simp only [exprs, ownExprs, List.forall_mem_append, List.forall_mem_map] at each
      obtain ⟨here, below⟩ := each
      rw [mapExprs?, ih below, mapM_map_eq_ok here]
      rfl
  | limit count offset input ih =>
      rw [mapExprs?, ih each]
      rfl

theorem Accepted.exprs {plan : Plan} (accepted : plan.Accepted) :
    ∀ expr ∈ plan.exprs, expr.Accepted := fun expr isExpr invocation member =>
  accepted invocation (List.mem_flatMap.mpr ⟨expr, isExpr, member⟩)

/-- Rules keep invocations accepted. -/
theorem Accepted.applyRule {plan : Plan} (accepted : plan.Accepted) (rule : RewriteRule) :
    (plan.applyRule rule).Accepted := by
  intro invocation member
  obtain ⟨before, isBefore, rfl⟩ :=
    List.mem_map.mp ((invocations_applyRule rule plan).mem_iff.mp member)
  exact Invocation.accepted_mapArguments.mpr (accepted before isBefore)

theorem applyRule?_eq_ok {plan : Plan} (accepted : plan.Accepted) (rule : RewriteRule) :
    plan.applyRule? rule = .ok (plan.applyRule rule) := by
  cases rule with
  | folding =>
      have folded : plan.mapExprs? (Expr.rewrite? Expr.foldStep) = .ok (plan.mapExprs Expr.fold) :=
        mapExprs?_eq_ok fun expr member => Expr.rewrite?_eq_ok (accepted.exprs expr member)
      rw [applyRule?, folded]
      rfl
  | normalization =>
      exact mapExprs?_eq_ok fun expr member => Expr.rewrite?_eq_ok (accepted.exprs expr member)

/-- **A pass succeeds**: no check fails in a plan whose invocations are accepted. -/
theorem optimize?_eq_ok {plan : Plan} (accepted : plan.Accepted) :
    plan.optimize? = .ok plan.optimize := by
  have pass : ∀ (rules : List RewriteRule) (plan : Plan), plan.Accepted →
      rules.foldlM applyRule? plan = .ok (plan.applyRules rules) := by
    intro rules
    induction rules with
    | nil => exact fun plan _ => rfl
    | cons rule rest ih =>
        intro plan accepted
        rw [List.foldlM_cons, applyRule?_eq_ok accepted rule]
        exact ih (plan.applyRule rule) (accepted.applyRule rule)
  exact pass RewriteRule.defaults plan accepted

/-! ## Operators -/

/-- Whether a pass keeps the outermost operator: it drops the filters whose predicate folds
to a true literal. -/
def survives : Plan → Bool
  | .filter predicate _ => !predicate.fold.isTrue
  | _ => true

theorem survives_filter {predicate : Expr} {input : Plan} :
    (Plan.filter predicate input).survives = false ↔
      predicate.settled = .literal (.boolean true) := by
  rw [Expr.settled, Expr.normalize_eq_literal, survives, Bool.not_eq_false', Expr.isTrue_iff]

/-- A dropped filter leaves what a pass makes of its input. -/
theorem optimize_of_dropped {plan : Plan} (dropped : plan.survives = false) :
    ∃ input, plan.input? = some input ∧ plan.optimize = input.optimize := by
  cases plan with
  | filter predicate input =>
      refine ⟨input, rfl, ?_⟩
      rw [optimize_eq, optimize_eq, mapExprs, survives_filter.mp dropped, dropTrueFilters]
  | _ => cases dropped

/-- Any other operator stays, with its expressions rewritten, over what a pass makes of its
input. -/
theorem optimize_of_survives {plan : Plan} (stays : plan.survives = true) :
    plan.optimize.input? = plan.input?.map optimize ∧
      plan.optimize.ownExprs = plan.ownExprs.map Expr.settled := by
  have pass : optimize = fun plan => (plan.mapExprs Expr.settled).dropTrueFilters :=
    funext optimize_eq
  cases plan with
  | filter predicate input =>
      have notTrue : predicate.settled ≠ .literal (.boolean true) := by
        intro isTrue
        rw [survives_filter.mpr isTrue] at stays
        cases stays
      rw [pass]
      simp only [mapExprs, dropTrueFilters_filter notTrue, input?, ownExprs, Option.map_some,
        List.map_cons, List.map_nil, and_self]
  | _ => simp [pass, mapExprs, dropTrueFilters, input?, ownExprs, Function.comp_def]

theorem operators_of_input {plan input : Plan} (isInput : plan.input? = some input) :
    plan.operators = plan :: input.operators := by
  cases plan <;> cases isInput <;> rfl

theorem operators_of_leaf {plan : Plan} (leaf : plan.input? = none) :
    plan.operators = [plan] := by
  cases plan <;> first | rfl | cases leaf

/-- **A pass drops and rewrites operators** and leaves them in their order. -/
theorem operators_optimize (plan : Plan) :
    plan.optimize.operators = (plan.operators.filter survives).map optimize := by
  induction plan using inductionOnInput with
  | step plan ih =>
      cases stays : plan.survives with
      | false =>
          obtain ⟨input, isInput, same⟩ := optimize_of_dropped stays
          rw [same, operators_of_input isInput, List.filter_cons, stays, ih input isInput]
          rfl
      | true =>
          have inputs := (optimize_of_survives stays).1
          cases isInput : plan.input? with
          | none =>
              rw [isInput] at inputs
              rw [operators_of_leaf inputs, operators_of_leaf isInput, List.filter_cons, stays]
              rfl
          | some input =>
              rw [isInput] at inputs
              rw [operators_of_input inputs, operators_of_input isInput, List.filter_cons, stays,
                ih input isInput]
              rfl

/-- What a pass keeps of an operator of an analysed plan: the columns that it produces, and,
over the columns that come in, the types of all arguments.  Unless the operator is dropped,
it invokes the same functions with rewritten arguments. -/
structure Kept (scope : FunctionScope) (catalog : Catalog) (operator : Plan) : Prop where
  columns : ∃ schema, ∀ next,
    operator.schemaOf scope catalog next = .ok (schema, next) ∧
      operator.optimize.schemaOf scope catalog next = .ok (schema, next)
  invocations : operator.survives = true → operator.optimize.ownInvocations.Perm
    (operator.ownInvocations.map (.mapArguments Expr.settled))
  arguments : ∀ input, operator.input? = some input → ∃ schema,
    (∀ next, input.schemaOf scope catalog next = .ok (schema, next) ∧
      input.optimize.schemaOf scope catalog next = .ok (schema, next)) ∧
    ∀ invocation ∈ operator.ownInvocations, ∀ argument ∈ invocation.arguments, ∃ type,
      argument.dataType schema = .ok type ∧ argument.settled.dataType schema = .ok type

theorem HasSchema.exists_of_mem_operators {catalog : Catalog} {plan : Plan} {schema : Schema}
    (typed : HasSchema catalog plan schema) :
    ∀ operator ∈ plan.operators, ∃ produced, HasSchema catalog operator produced := by
  induction plan using inductionOnInput generalizing schema with
  | step plan ih =>
      intro operator member
      rcases mem_operators_iff.mp member with rfl | ⟨input, isInput, inInput⟩
      · exact ⟨schema, typed⟩
      · obtain ⟨_, inputTyped, -⟩ := typed.of_input isInput
        exact ih input isInput inputTyped operator inInput

theorem HasSchema.kept {catalog : Catalog} {operator : Plan} {schema : Schema}
    (typed : HasSchema catalog operator schema) (scope : FunctionScope) :
    Kept scope catalog operator where
  columns := ⟨schema, fun next => ⟨typed.schemaOf scope next, typed.optimize.schemaOf scope next⟩⟩
  invocations stays := by
    rw [ownInvocations, (optimize_of_survives stays).2, List.flatMap_map, ownInvocations,
      List.map_flatMap]
    exact List.Perm.flatMap_left _ fun expr _ => expr.invocations_settled
  arguments input isInput := by
    obtain ⟨below, inputTyped, ownTyped⟩ := typed.of_input isInput
    refine ⟨below, fun next => ⟨inputTyped.schemaOf scope next,
      inputTyped.optimize.schemaOf scope next⟩, ?_⟩
    intro invocation member argument isArgument
    obtain ⟨expr, isOwn, inExpr⟩ := List.mem_flatMap.mp member
    obtain ⟨type, argumentTyped⟩ := (ownTyped expr isOwn).of_mem_invocations inExpr argument
      isArgument
    exact ⟨type, argumentTyped.dataType,
      (Expr.rewriter_settled.hasType argumentTyped).dataType⟩

/-- **A pass keeps every call and every type.**  It succeeds for every plan, and the calls of
the plan, each with its function, its identity and the number of its arguments, are those of
the rewritten plan.  In an analysed plan the operators that are not dropped stay in their
order; all operators produce the columns that they produced before, and every argument of
every invocation keeps its type. -/
theorem optimize_invocations (plan : Plan) :
    (plan.Accepted → plan.optimize? = .ok plan.optimize) ∧
    (plan.optimize.invocations.map Invocation.shape).Perm
      (plan.invocations.map Invocation.shape) ∧
    ∀ scope catalog start analyzed after,
      plan.analyze scope catalog start = .ok (analyzed, after) →
        analyzed.optimize.operators = (analyzed.operators.filter survives).map optimize ∧
        ∀ operator ∈ analyzed.operators, Kept scope catalog operator := by
  refine ⟨optimize?_eq_ok, shapes_optimize plan, ?_⟩
  intro scope catalog start analyzed after result
  obtain ⟨schema, typed⟩ := exists_hasSchema_of_analyze result
  refine ⟨operators_optimize analyzed, fun operator member => ?_⟩
  obtain ⟨produced, operatorTyped⟩ := typed.exists_of_mem_operators operator member
  exact operatorTyped.kept scope

/-- Of the filters `1 < 2` and `0 < near(1 + 1, a)` one is dropped; in the other one the call
moves to the left of its comparison and keeps its identity. -/
theorem optimize_invocations_of_filters :
    let near : Callable := .scalar (.dynamic
      { name := "near", parameters := [.int, .int], returnType := .int, arity := .fixed 2 }
      fun _ => .ok .null)
    let scope : FunctionScope := {
      registered := { caseSensitive := true, entries := [("near", [near])] }
      builtin := {}
      narrowing := .exact }
    let catalog : Catalog := { tables := [("t", { columns := [⟨"a", .int⟩], batches := [] })] }
    let number : Int → Expr := fun value => .literal (.int (.wrap value))
    let plan : Expr → Expr → Plan := fun first second =>
      .project [⟨.column "a", "a"⟩] (.filter (.binary (.comparison .lt) (number 0) second)
        (.filter first (.scan "t" none)))
    let less : Expr := .binary (.comparison .lt) (number 1) (number 2)
    let sum : Expr := .binary (.arithmetic .add) (number 1) (number 1)
    let analyzed : Plan := plan less (.invocation ⟨5, near⟩ [sum, .column "a"])
    let rewritten : Plan := .project [⟨.column "a", "a"⟩]
      (.filter (.binary (.comparison .gt) (.invocation ⟨5, near⟩ [number 2, .column "a"])
        (number 0)) (.scan "t" none))
    (plan less (.call "near" [sum, .column "a"])).analyze scope catalog 5 = .ok (analyzed, 6) ∧
      analyzed.Accepted ∧ analyzed.optimize? = .ok rewritten ∧
      rewritten.invocations.map Invocation.shape = [(⟨5, near⟩, 2)] ∧
      analyzed.operators.map survives = [true, true, false, true] ∧
      ∀ operator ∈ analyzed.operators, Kept scope catalog operator := by
  intro near scope catalog number plan less sum analyzed rewritten
  have result : (plan less (.call "near" [sum, .column "a"])).analyze scope catalog 5
      = .ok (analyzed, 6) := rfl
  have accepted : analyzed.Accepted := List.forall_mem_singleton.mpr rfl
  obtain ⟨succeeds, -, -⟩ := optimize_invocations analyzed
  obtain ⟨-, -, kept⟩ := optimize_invocations (plan less (.call "near" [sum, .column "a"]))
  exact ⟨result, accepted, succeeds accepted, rfl, rfl, (kept _ _ _ _ _ result).2⟩

end Plan

end ScalarSql
