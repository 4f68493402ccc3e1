import ScalarSql.Proofs.Expr.Coercion

/-!
# Calls that evaluation makes

`Expr.calls` lists the calls that evaluating an expression on a row makes: the function and
the values of the arguments of every invocation that evaluation gets to, in order.  It goes
the way of `Expr.evaluate`: the right operand of a connective is only looked at if the left
one does not decide, and nothing is called after an error.

**Nothing else is called.**  What the functions of an expression do on other arguments than
those listed makes no difference, `Expr.evaluate_rewrite_replaceCallable`.

**Coerced arguments.**  On a row that fits, every call of a coerced expression has a number
of arguments that the signature accepts, each `NULL` or of the type of its parameter,
`Expr.Coerced.calls_fit`.  With the resolver and the rewriting rules this is the contract of
functions, `Expr.resolve_calls_fit`.
-/

set_option autoImplicit false

namespace ScalarSql

/-- A function and the arguments that it is called with. -/
structure Call where
  callable : Callable
  arguments : List Value

/-- The arguments are as many as the signature accepts, and each belongs to the type of its
parameter, as `NULL` does to every type. -/
def Call.Fits (call : Call) : Prop :=
  call.callable.signature.Takes (fun value type => value.hasType type = true) call.arguments

/-- The other function gives the same result for the arguments of the call. -/
def Call.AgreesUnder (replace : Callable → Callable) (call : Call) : Prop :=
  (replace call.callable).invoke call.arguments = call.callable.invoke call.arguments

namespace Expr

/-! ## The calls of an expression -/

mutual

/-- The calls that evaluating the expression makes, in order. -/
def calls (context : RowContext) : Expr → List Call
  | .column _ | .literal _ | .call _ _ => []
  | .binary op left right =>
      left.calls context ++
        match left.evaluate context with
        | .error _ => []
        | .ok leftValue =>
            match shortcut? op leftValue with
            | some _ => []
            | none => right.calls context
  | .not operand | .negate operand | .isNull operand | .isNotNull operand
  | .cast operand _ _ | .field operand _ => operand.calls context
  | .invocation function arguments =>
      callsOfAll context arguments ++
        match evaluateAll context arguments with
        | .error _ => []
        | .ok values => [{ callable := function.callable, arguments := values }]

/-- The calls that evaluating several expressions makes, in order. -/
def callsOfAll (context : RowContext) : List Expr → List Call
  | [] => []
  | expr :: rest =>
      expr.calls context ++
        match expr.evaluate context with
        | .error _ => []
        | .ok _ => callsOfAll context rest

end

variable {context : RowContext}

theorem mem_callsOfAll {call : Call} {arguments : List Expr}
    (member : call ∈ callsOfAll context arguments) :
    ∃ argument ∈ arguments, call ∈ argument.calls context := by
  induction arguments with
  | nil => cases member
  | cons first rest ih =>
      simp only [callsOfAll, List.mem_append] at member
      rcases member with here | later
      · exact ⟨first, List.mem_cons_self, here⟩
      · split at later
        · cases later
        · obtain ⟨argument, inRest, isCall⟩ := ih later
          exact ⟨argument, List.mem_cons_of_mem _ inRest, isCall⟩

/-- A call of an expression is one of an operand, or calls the function of the expression
with the values of its arguments. -/
theorem mem_calls {call : Call} {expr : Expr} (member : call ∈ expr.calls context) :
    (∃ operand ∈ expr.operands, call ∈ operand.calls context) ∨
      ∃ function arguments, expr = .invocation function arguments ∧
        call.callable = function.callable ∧
        evaluateAll context arguments = .ok call.arguments := by
  cases expr with
  | column _ | literal _ | call _ _ => cases member
  | binary op left right =>
      simp only [calls, List.mem_append] at member
      rcases member with inLeft | inRight
      · exact .inl ⟨left, by simp [operands], inLeft⟩
      · split at inRight
        · cases inRight
        · split at inRight
          · cases inRight
          · exact .inl ⟨right, by simp [operands], inRight⟩
  | not operand | negate operand | isNull operand | isNotNull operand | cast operand _ _
  | field operand _ => exact .inl ⟨operand, by simp [operands], member⟩
  | invocation function arguments =>
      simp only [calls, List.mem_append] at member
      rcases member with inArguments | isCall
      · exact .inl (mem_callsOfAll inArguments)
      · split at isCall
        · cases isCall
        · next values evaluated =>
            obtain rfl := List.mem_singleton.mp isCall
            exact .inr ⟨function, arguments, rfl, rfl, evaluated⟩

/-- Every call is one of the invocations in the expression, with the values of its
arguments. -/
theorem invocation_of_mem_calls {call : Call} {expr : Expr}
    (member : call ∈ expr.calls context) :
    ∃ function arguments, .invocation function arguments ∈ expr.parts ∧
      call.callable = function.callable ∧
      evaluateAll context arguments = .ok call.arguments := by
  induction expr using inductionOnOperands with
  | step expr ih =>
      rw [parts_eq_cons]
      rcases mem_calls member with ⟨operand, isOperand, inOperand⟩ |
        ⟨function, arguments, rfl, sameFunction, evaluated⟩
      · obtain ⟨function, arguments, isPart, found⟩ := ih operand isOperand inOperand
        exact ⟨function, arguments,
          List.mem_cons_of_mem _ (List.mem_flatMap.mpr ⟨operand, isOperand, isPart⟩), found⟩
      · exact ⟨function, arguments, List.mem_cons_self, sameFunction, evaluated⟩

/-! ## Nothing else is called -/

/-- The expression with another function in place of the one it invokes. -/
def replaceCallable (replace : Callable → Callable) : Expr → Expr
  | .invocation function arguments =>
      .invocation { function with callable := replace function.callable } arguments
  | other => other

theorem evaluateAll_rewrite {step : Expr → Expr} {good : Call → Prop} {arguments : List Expr}
    (each : ∀ argument ∈ arguments, (∀ call ∈ argument.calls context, good call) →
      (argument.rewrite step).evaluate context = argument.evaluate context)
    (all : ∀ call ∈ callsOfAll context arguments, good call) :
    evaluateAll context (rewriteAll step arguments) = evaluateAll context arguments := by
  induction arguments with
  | nil => rfl
  | cons first rest ih =>
      obtain ⟨here, later⟩ := List.forall_mem_cons.mp each
      simp only [callsOfAll, List.forall_mem_append] at all
      rw [rewriteAll, evaluateAll, evaluateAll, here all.1]
      cases evaluated : first.evaluate context with
      | error error => rfl
      | ok value =>
          simp only [evaluated] at all
          rw [ih later all.2]

/-- **Only the listed calls are made.**  Evaluation gives the same value or error with other
functions that agree with those of the expression on the calls that are listed. -/
theorem evaluate_rewrite_replaceCallable {replace : Callable → Callable} {expr : Expr}
    (agree : ∀ call ∈ expr.calls context, Call.AgreesUnder replace call) :
    (expr.rewrite (replaceCallable replace)).evaluate context = expr.evaluate context := by
  induction expr using inductionOn with
  | column _ | literal _ | call _ _ _ => rfl
  | binary op left right leftSame rightSame =>
      simp only [calls, List.forall_mem_append] at agree
      simp only [rewrite, replaceCallable, evaluate, leftSame agree.1]
      cases evaluated : left.evaluate context with
      | error error => rfl
      | ok leftValue =>
          simp only [evaluated] at agree
          cases decided : shortcut? op leftValue with
          | some value => simp only [decided]
          | none =>
              simp only [decided] at agree ⊢
              rw [rightSame agree.2]
  | not operand same | negate operand same | isNull operand same | isNotNull operand same
  | cast operand _ _ same | field operand _ same =>
      simp only [calls] at agree
      simp only [rewrite, replaceCallable, evaluate, same agree]
  | invocation function arguments each =>
      simp only [calls, List.forall_mem_append] at agree
      have values := evaluateAll_rewrite each agree.1
      simp only [rewrite, replaceCallable, evaluate, values]
      cases evaluated : evaluateAll context arguments with
      | error error => rfl
      | ok values =>
          simp only [evaluated, List.forall_mem_singleton, Call.AgreesUnder] at agree
          simp only [agree.2]

/-! ## Coerced arguments -/

/-- The arguments of an invocation in a typed expression are typed. -/
theorem Typed.arguments {schema : Schema} {function : ResolvedFunction} {arguments : List Expr}
    (typed : Typed schema (.invocation function arguments)) :
    ∀ argument ∈ arguments, Typed schema argument := by
  obtain ⟨_, hasType⟩ := typed
  cases hasType with
  | invocation types each => exact fun argument member => ⟨types argument, each argument member⟩

namespace Coerced

variable {expr : Expr}

/-- **Functions are called with coerced arguments** on every row that fits. -/
theorem calls_fit (coerced : Coerced context.schema expr)
    (fits : Row.Fits context.schema.columns context.row) :
    ∀ call ∈ expr.calls context, call.Fits := by
  intro call member
  obtain ⟨function, arguments, isPart, sameFunction, evaluated⟩ := invocation_of_mem_calls member
  obtain ⟨⟨_, typed⟩, regular, calls⟩ := coerced
  have takes : function.callable.signature.Takes _ arguments := calls _ isPart
  have typedArguments := (typed.all_typed _ isPart).arguments
  have regularArguments := (all_invocation.mp (regular.of_mem_parts isPart)).2
  have values := (List.forall₂_and_left _ _).mpr
    ⟨fun _ isArgument => isArgument, evaluateAll_eq_ok.mp evaluated⟩
  rw [Call.Fits, sameFunction]
  refine takes.of_forall₂ values fun argument value type ⟨isArgument, evaluated⟩ computed => ?_
  obtain ⟨_, argumentTyped⟩ := typedArguments argument isArgument
  obtain rfl := argumentTyped.unique computed
  have sound : Sound (Value.hasType · _) (argument.evaluate context) :=
    argumentTyped.evaluate_sound (regularArguments argument isArgument) fits
  rwa [evaluated] at sound

/-- What functions do with arguments that do not fit cannot matter. -/
theorem evaluate_replaceCallable (coerced : Coerced context.schema expr)
    (fits : Row.Fits context.schema.columns context.row) {replace : Callable → Callable}
    (agree : ∀ call : Call, call.Fits → call.AgreesUnder replace) :
    (expr.rewrite (replaceCallable replace)).evaluate context = expr.evaluate context :=
  evaluate_rewrite_replaceCallable fun call member =>
    agree call (coerced.calls_fit fits call member)

end Coerced

/-- **The contract of functions.**  An expression is written without invocations, with
literals that fit, and resolved among functions with checked signatures.  However the rules
rewrite what it resolves to, every invocation has as many arguments as its signature
accepts, each with exactly the type of its parameter.  So on every row that fits, every call
that evaluation makes has an accepted number of arguments, each `NULL` or of the type of its
parameter, and evaluation does not depend on what functions do with any others. -/
theorem resolve_calls_fit (scope : FunctionScope) (schema : Schema) (written resolved : Expr)
    (next after : Nat) (rules : List RewriteRule) (declared : scope.Declared)
    (plain : written.All Written) (regular : written.All Regular)
    (result : written.resolve scope schema next = .ok (resolved, after)) :
    ∃ rewritten : Expr,
      (∀ name input, (Plan.project [⟨resolved, name⟩] input).applyRules rules
        = .project [⟨rewritten, name⟩] (input.applyRules rules)) ∧
      rewritten.All (CallFits schema) ∧
      ∀ context : RowContext, context.schema = schema → Row.Fits schema.columns context.row →
        (∀ call ∈ rewritten.calls context, call.Fits) ∧
        ∀ replace : Callable → Callable, (∀ call : Call, call.Fits → call.AgreesUnder replace) →
          (rewritten.rewrite (replaceCallable replace)).evaluate context
            = rewritten.evaluate context := by
  have coerced : Coerced schema (resolved.applyRules rules) :=
    (coerced_of_resolve declared plain regular result).applyRules rules
  refine ⟨resolved.applyRules rules, fun name input => ?_, coerced.calls, ?_⟩
  · exact Plan.applyRules_project rules [⟨resolved, name⟩] input
  · rintro context rfl fits
    exact ⟨coerced.calls_fit fits, fun _ agree => coerced.evaluate_replaceCallable fits agree⟩

/-- The call `most(a, 1 + 2, NULL)` of a function of any number of `BIGINT`s: after resolution
and rewriting it is called with the column widened, the sum folded to a `BIGINT`, and a
`NULL`. -/
theorem resolve_calls_fit_of_call :
    let most : Callable := .scalar (.dynamic
      { name := "most", parameters := [.long], returnType := .long, arity := .variadic 1 }
      fun _ => .ok .null)
    let scope : FunctionScope := {
      registered := { caseSensitive := true, entries := [("most", [most])] }
      builtin := {}
      narrowing := .exact }
    let schema : Schema := { columns := [⟨"a", .int⟩] }
    let int := fun number => Value.int (BoundedInt.wrap number)
    let long := fun number => Value.long (BoundedInt.wrap number)
    let sum : Expr := .binary (.arithmetic .add) (.literal (int 1)) (.literal (int 2))
    let resolved : Expr := .invocation ⟨0, most⟩
      [.cast (.column "a") .long false, .cast sum .long false, .cast (.literal .null) .long false]
    let rewritten : Expr := .invocation ⟨0, most⟩
      [.cast (.column "a") .long false, .literal (long 3), .cast (.literal .null) .long false]
    let call : Call := { callable := most, arguments := [long 7, long 3, .null] }
    resolve scope schema (.call "most" [.column "a", sum, .literal .null]) 0
        = .ok (resolved, 1) ∧
      (Plan.project [⟨resolved, "m"⟩] .oneRow).applyRules RewriteRule.defaults
        = .project [⟨rewritten, "m"⟩] .oneRow ∧
      rewritten.calls { schema, policy := .abort, row := [int 7], index := 0 } = [call] ∧
      call.Fits := by
  intro most scope schema int long sum resolved rewritten call
  have declared : scope.Declared := by
    intro name callables found callable member
    simp only [FunctionScope.lookup, Registry.lookup, scope, List.lookup_cons,
      List.lookup_nil, Option.or_none] at found
    split at found
    · cases found
      obtain rfl := List.mem_singleton.mp member
      exact ⟨_, rfl, rfl⟩
    · cases found
  have plain : (Expr.call "most" [.column "a", sum, .literal .null]).All Written := by
    simp [sum, Written]
  have regular : (Expr.call "most" [.column "a", sum, .literal .null]).All Regular := by
    simp [sum, int, Regular, Value.ownType, Value.hasType]
  have result : resolve scope schema (.call "most" [.column "a", sum, .literal .null]) 0
      = .ok (resolved, 1) := rfl
  have fits : Row.Fits schema.columns [int 7] := .cons rfl .nil
  obtain ⟨other, optimized, -, calls⟩ := resolve_calls_fit scope schema _ resolved 0 1
    RewriteRule.defaults declared plain regular result
  have same : other = rewritten := by
    have made := (optimized "m" .oneRow).symm
    cases made
    rfl
  subst same
  let context : RowContext := { schema, policy := .abort, row := [int 7], index := 0 }
  have made : rewritten.calls context = [call] := rfl
  exact ⟨result, rfl, made, (calls context rfl fits).1 call (made ▸ List.mem_cons_self)⟩

end Expr

end ScalarSql
