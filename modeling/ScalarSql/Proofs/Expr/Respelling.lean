import ScalarSql.Proofs.Expr.LetterCase

/-!
# Resolving respelled expressions

Two expressions are respelled if they are the same up to case.  Over tables that match, both
are resolved or neither is, to expressions that are respelled again, `resolve_congr`.

The choice of a function goes by the types of the arguments, and it wraps the arguments in
casts; as no type depends on the case of a name, both calls choose the same function and the
same casts (`selectFunction_congr`).  A scope has to ignore case for this, by a registry that
does: one that tells names apart by case finds different functions.
-/

set_option autoImplicit false

namespace ScalarSql

open Text (small)

/-- Functions are looked up without regard to case. -/
structure FunctionScope.IgnoresCase (scope : FunctionScope) : Prop where
  registered : scope.registered.caseSensitive = false
  builtin : scope.builtin.caseSensitive = false

theorem FunctionScope.lookup_congr {scope : FunctionScope} (ignores : scope.IgnoresCase)
    {left right : String} (same : small left = small right) :
    scope.lookup left = scope.lookup right := by
  rw [lookup, lookup, Registry.lookup_congr ignores.registered same,
    Registry.lookup_congr ignores.builtin same]

theorem Schema.Matches.isNone_indexOf? {first second : Schema} (alike : first.Matches second)
    {left right : String} (same : small left = small right) :
    (first.indexOf? left).isNone = (second.indexOf? right).isNone := by
  have none : ∀ (schema : Schema) (name : String),
      (schema.indexOf? name).isNone = ((schema.column? name).map Column.type).isNone := by
    intro schema name
    rw [Bool.eq_iff_iff, Option.isNone_iff_eq_none, Option.isNone_iff_eq_none,
      Option.map_eq_none_iff]
    exact List.findIdx?_eq_none_iff.trans (by simp [column?])
  rw [second.indexOf?_congr same.symm, none, none, alike.types]

namespace Expr

/-- Expressions that only differ in the case of names and in the numbers of invocations. -/
def Respelled (left right : Expr) : Prop := left.caseless = right.caseless

variable {scope : FunctionScope} {first second : Schema}

/-! ## The choice of a function -/

theorem dataTypes_map_caseless (alike : first.Matches second) (arguments : List Expr) :
    SucceedAlike Eq (dataTypes first arguments) (dataTypes second (arguments.map caseless)) := by
  induction arguments with
  | nil => exact .refl _
  | cons argument rest ih =>
      simp only [List.map_cons, dataTypes]
      refine (dataType_caseless alike argument).elim (fun type _ same => ?_) fun _ _ => .error _ _
      subst same
      refine ih.elim (fun types _ same => ?_) fun _ _ => .error _ _
      subst same
      exact .refl _

/-- Which function is chosen does not depend on the error for there being none. -/
theorem choose_caseless (policy : Narrowing) (arguments : List Expr) (types : List DataType)
    (missing other : AnalysisError) (candidates : List Callable) :
    SucceedAlike (fun choice respelled => respelled = Prod.map id (List.map caseless) choice)
      (choose policy arguments types missing candidates)
      (choose policy (arguments.map caseless) types other candidates) := by
  induction candidates with
  | nil => exact .error _ _
  | cons callable rest ih =>
      simp only [choose, coerceArguments_map throughCasts_caseless]
      cases coerceArguments policy callable.signature 0 arguments types with
      | ok converted => exact .ok _ _ rfl
      | error fault => exact ih.elim (fun _ _ same => .ok _ _ same) fun _ _ => .error _ _

/-- **The choice of a function** depends on the types of the arguments. -/
theorem selectFunction_caseless (ignores : scope.IgnoresCase) (alike : first.Matches second)
    (name : String) (arguments : List Expr) :
    SucceedAlike (fun choice respelled => respelled = Prod.map id (List.map caseless) choice)
      (selectFunction scope first name arguments)
      (selectFunction scope second (small name) (arguments.map caseless)) := by
  unfold selectFunction
  rw [scope.lookup_congr ignores (Text.small_small name)]
  cases scope.lookup name with
  | none => exact .error _ _
  | some candidates =>
      dsimp only
      rw [List.length_map]
      split
      · exact .error _ _
      · refine (dataTypes_map_caseless alike arguments).elim (fun types _ same => ?_)
          fun _ _ => .error _ _
        subst same
        exact (choose_caseless ..).mapError

theorem selectFunction_congr (ignores : scope.IgnoresCase) (alike : first.Matches second)
    {name other : String} (sameName : small name = small other) {left right : List Expr}
    (same : left.map caseless = right.map caseless) :
    SucceedAlike (fun choice respelled => choice.1 = respelled.1 ∧
        choice.2.map caseless = respelled.2.map caseless)
      (selectFunction scope first name left) (selectFunction scope second other right) := by
  have leftAlike := selectFunction_caseless ignores alike name left
  have rightAlike := selectFunction_caseless ignores (.refl second) other right
  rw [← sameName, ← same] at rightAlike
  refine leftAlike.trans rightAlike.symm ?_
  rintro ⟨callable, converted⟩ _ ⟨other, otherConverted⟩ rfl equal
  exact Prod.mk.inj equal

theorem length_of_map_caseless {left right : List Expr}
    (same : left.map caseless = right.map caseless) : left.length = right.length := by
  simpa using congrArg List.length same

/-- A call of a respelled function with respelled arguments. -/
theorem resolveCall_congr (ignores : scope.IgnoresCase) (alike : first.Matches second)
    {name other : String} (sameName : small name = small other) {left right : List Expr}
    (same : left.map caseless = right.map caseless) :
    RunAlike Respelled (resolveCall scope first name left)
      (resolveCall scope second other right) := by
  unfold resolveCall
  refine (RunAlike.lift (selectFunction_congr ignores alike sameName same)).bind ?_
  rintro ⟨callable, converted⟩ ⟨_, otherConverted⟩ ⟨rfl, sameConverted⟩
  have fresh : RunAlike (fun _ _ => True) freshId freshId := fun start begin =>
    .ok (start, start + 1) (begin, begin + 1) trivial
  refine fresh.bind fun id otherId _ => RunAlike.lift ?_
  simp only [invoke?, length_of_map_caseless sameConverted]
  split
  · refine .ok _ _ ?_
    rw [Respelled, caseless_invocation, caseless_invocation, sameConverted]
  · exact .error _ _

/-! ## Operators and fields -/

theorem checkOperator_caseless (alike : first.Matches second) (expr : Expr) :
    SucceedAlike Eq (checkOperator first expr) (checkOperator second expr.caseless) := by
  cases expr with
  | binary op left right =>
      exact (dataType_caseless alike (.binary op left right)).map fun _ _ _ => rfl
  | not operand | negate operand | cast operand _ _ =>
      simp only [caseless_not, caseless_negate, caseless_cast, checkOperator]
      refine (dataType_caseless alike operand).elim (fun type _ same => ?_) fun _ _ => .error _ _
      subst same
      exact .refl _
  | call name arguments =>
      rw [caseless_call]
      exact .refl _
  | invocation function arguments =>
      rw [caseless_invocation]
      exact .refl _
  | _ => exact .refl _

/-- Operators are accepted with respelled operands. -/
theorem checked_congr (alike : first.Matches second) {left right : Expr}
    (same : left.Respelled right) :
    RunAlike Respelled (checked first left) (checked second right) := by
  have checks : SucceedAlike Eq (checkOperator first left) (checkOperator second right) :=
    (checkOperator_caseless alike left).trans
      (same ▸ (checkOperator_caseless (.refl second) right).symm)
      fun _ _ _ here there => here.trans there.symm
  unfold checked
  exact checks.elim (fun _ _ _ => .pure same) fun _ _ => .throw _ _

theorem resolveColumn_congr (alike : first.Matches second) {left right : String}
    (same : small left = small right) :
    RunAlike Respelled (resolveColumn first left) (resolveColumn second right) := by
  have none := alike.isNone_indexOf? same
  unfold resolveColumn
  cases inFirst : first.indexOf? left with
  | none =>
      rw [inFirst, Option.isNone_none, eq_comm, Option.isNone_iff_eq_none] at none
      rw [none]
      exact .throw _ _
  | some index =>
      cases inSecond : second.indexOf? right with
      | none => simp [inFirst, inSecond] at none
      | some other =>
          refine .pure ?_
          rw [Respelled, caseless_column, caseless_column, same]

theorem isQualifier_caseless (alike : first.Matches second) (base : Expr) :
    isQualifier second base.caseless = isQualifier first base := by
  cases base with
  | column name =>
      rw [caseless_column, isQualifier, isQualifier,
        alike.isNone_indexOf? (Text.small_small name).symm,
        second.isQualifier_congr (Text.small_small name), alike.qualifiers]
  | call name arguments =>
      rw [caseless_call]
      rfl
  | invocation function arguments =>
      rw [caseless_invocation]
      rfl
  | _ => rfl

theorem accessField_congr (alike : first.Matches second) {left right : Expr}
    (same : left.Respelled right) {name other : String} (sameName : small name = small other) :
    RunAlike Respelled (accessField first left name) (accessField second right other) := by
  unfold accessField
  refine (RunAlike.lift (dataType_congr alike same)).bind fun type _ sameType => ?_
  subst sameType
  refine (RunAlike.lift (SucceedAlike.of_toOption
    (type.fieldType_congr sameName)).mapError).bind fun _ _ _ => .pure ?_
  rw [Respelled, caseless_field, caseless_field, same, sameName]

/-! ## Expressions -/

theorem resolveAll_map {f : Expr → Expr} {arguments : List Expr}
    (each : ∀ argument ∈ arguments, RunAlike Respelled (argument.resolve scope first)
      ((f argument).resolve scope second)) :
    RunAlike (fun left right => left.map caseless = right.map caseless)
      (resolveAll scope first arguments) (resolveAll scope second (arguments.map f)) := by
  induction arguments with
  | nil => exact .pure rfl
  | cons argument rest ih =>
      obtain ⟨here, later⟩ := List.forall_mem_cons.mp each
      simp only [List.map_cons, resolveAll]
      refine here.bind fun left right same => (ih later).bind fun lefts rights sameRest => ?_
      exact .pure (List.cons_eq_cons.mpr ⟨same, sameRest⟩)

theorem resolve_caseless (ignores : scope.IgnoresCase) (alike : first.Matches second)
    (written : Expr) :
    RunAlike Respelled (written.resolve scope first)
      (written.caseless.resolve scope second) := by
  induction written using inductionOn with
  | column name => exact resolveColumn_congr alike (Text.small_small name).symm
  | literal value => exact .pure rfl
  | binary op left right leftAlike rightAlike =>
      simp only [caseless_binary, resolve]
      refine leftAlike.bind fun left _ sameLeft => rightAlike.bind fun right _ sameRight => ?_
      refine checked_congr alike ?_
      rw [Respelled, caseless_binary, caseless_binary, sameLeft, sameRight]
  | not operand operandAlike | negate operand operandAlike | isNull operand operandAlike
  | isNotNull operand operandAlike | cast operand _ _ operandAlike =>
      simp only [caseless_not, caseless_negate, caseless_isNull, caseless_isNotNull, caseless_cast,
        resolve]
      refine operandAlike.bind fun operand _ same => checked_congr alike ?_
      simp only [Respelled, caseless_not, caseless_negate, caseless_isNull, caseless_isNotNull,
        caseless_cast]
      rw [same]
  | call name arguments each =>
      simp only [caseless_call, resolve]
      exact (resolveAll_map each).bind fun _ _ same =>
        resolveCall_congr ignores alike (Text.small_small name).symm same
  | invocation function arguments each =>
      simp only [caseless_invocation, resolve]
      refine (resolveAll_map each).bind fun left right same => .pure ?_
      rw [Respelled, caseless_invocation, caseless_invocation, same]
  | field base name baseAlike =>
      simp only [caseless_field, resolve, isQualifier_caseless alike]
      split
      · exact resolveColumn_congr alike (Text.small_small name).symm
      · exact baseAlike.bind fun _ _ same =>
          accessField_congr alike same (Text.small_small name).symm

/-- **Resolving a respelled expression** over a schema under which all names mean the same
gives the expression respelled. -/
theorem resolve_congr (ignores : scope.IgnoresCase) (alike : first.Matches second)
    {left right : Expr} (same : left.Respelled right) :
    RunAlike Respelled (left.resolve scope first) (right.resolve scope second) := by
  intro start begin
  have toCaseless := resolve_caseless ignores alike left start 0
  have fromCaseless := (resolve_caseless ignores (.refl second) right).symm 0 begin
  rw [← same] at fromCaseless
  exact toCaseless.trans fromCaseless fun _ _ _ here there => here.trans there.symm

end Expr

end ScalarSql
