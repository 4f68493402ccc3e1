import ScalarSql.Proofs.Expr.Agreement

/-!
# Columns without qualifiers

A projection of all columns of a table has the columns of the table, which no name
qualifies any more.  Types do not depend on qualifiers, `Expr.dataType_bare`.  A qualified
column does not resolve without its qualifier, and anything else resolves alike with it and
without it, since a column comes before a qualifier of its name: what resolves over the bare
columns resolves to the same over the table, `Expr.resolve_of_bare`.
-/

set_option autoImplicit false

namespace ScalarSql

/-- The columns of a schema, which no name qualifies. -/
def Schema.bare (schema : Schema) : Schema := { columns := schema.columns }

namespace Expr

variable {scope : FunctionScope} {schema : Schema}

/-- The type of an expression does not depend on qualifiers. -/
theorem dataType_bare (expr : Expr) : expr.dataType schema.bare = expr.dataType schema := by
  induction expr using inductionOn with
  | binary op left right leftSame rightSame => simp only [dataType, leftSame, rightSame]
  | negate operand same | field operand _ same => simp only [dataType, same]
  | column name => rfl
  | _ => rfl

theorem dataTypes_bare (exprs : List Expr) :
    dataTypes schema.bare exprs = dataTypes schema exprs := by
  induction exprs with
  | nil => rfl
  | cons expr rest ih => simp only [dataTypes, dataType_bare, ih]

theorem checkOperator_bare (expr : Expr) :
    checkOperator schema.bare expr = checkOperator schema expr := by
  cases expr <;> simp only [checkOperator, dataType_bare]

theorem selectFunction_bare (name : String) (arguments : List Expr) :
    selectFunction scope schema.bare name arguments
      = selectFunction scope schema name arguments := by
  simp only [selectFunction, dataTypes_bare]

theorem checked_bare (expr : Expr) : checked schema.bare expr = checked schema expr := by
  simp only [checked, checkOperator_bare]

theorem resolveAll_of_bare {written : List Expr} {next : Nat} {resolved : List Expr × Nat}
    (each : ∀ expr ∈ written, ∀ {next : Nat} {resolved : Expr × Nat},
      expr.resolve scope schema.bare next = .ok resolved →
        expr.resolve scope schema next = .ok resolved)
    (result : resolveAll scope schema.bare written next = .ok resolved) :
    resolveAll scope schema written next = .ok resolved := by
  induction written generalizing next resolved with
  | nil => exact result
  | cons expr rest ih =>
      obtain ⟨here, later⟩ := List.forall_mem_cons.mp each
      simp only [resolveAll, state_bind_eq_ok, state_pure_eq_ok] at result ⊢
      obtain ⟨first, _, firstResult, others, _, restResult, made⟩ := result
      exact ⟨first, _, here firstResult, others, _, ih later restResult, made⟩

/-- **Resolving without qualifiers** is resolving with them. -/
theorem resolve_of_bare {written : Expr} {next : Nat} {resolved : Expr × Nat}
    (result : written.resolve scope schema.bare next = .ok resolved) :
    written.resolve scope schema next = .ok resolved := by
  induction written using inductionOn generalizing next resolved with
  | column name => exact result
  | literal value => exact result
  | binary op left right leftSame rightSame =>
      simp only [resolve, state_bind_eq_ok, checked_bare] at result ⊢
      obtain ⟨_, _, leftResult, _, _, rightResult, checked⟩ := result
      exact ⟨_, _, leftSame leftResult, _, _, rightSame rightResult, checked⟩
  | not operand same | negate operand same | isNull operand same | isNotNull operand same
  | cast operand _ _ same =>
      simp only [resolve, state_bind_eq_ok, checked_bare] at result ⊢
      obtain ⟨_, _, operandResult, checked⟩ := result
      exact ⟨_, _, same operandResult, checked⟩
  | call name arguments each =>
      simp only [resolve, state_bind_eq_ok, resolveCall, selectFunction_bare] at result ⊢
      obtain ⟨_, _, argumentsResult, called⟩ := result
      exact ⟨_, _, resolveAll_of_bare each argumentsResult, called⟩
  | invocation function arguments each =>
      simp only [resolve, state_bind_eq_ok] at result ⊢
      obtain ⟨_, _, argumentsResult, invoked⟩ := result
      exact ⟨_, _, resolveAll_of_bare each argumentsResult, invoked⟩
  | field base name same =>
      have unqualified : isQualifier schema.bare base = false := by
        cases base <;> simp [isQualifier, Schema.isQualifier, Schema.bare]
      simp only [resolve, unqualified, Bool.false_eq_true, if_false, state_bind_eq_ok, accessField,
        dataType_bare] at result
      obtain ⟨found, _, baseResult, accessed⟩ := result
      have baseSame := same baseResult
      have plain : ¬ isQualifier schema base = true := by
        intro qualifies
        -- A qualifier is no column, so that it does not resolve on its own.
        cases base with
        | column qualifier =>
            obtain ⟨⟨index, position⟩, -⟩ := of_resolveColumn baseSame
            simp [isQualifier, position] at qualifies
        | _ => simp [isQualifier] at qualifies
      simp only [resolve, if_neg plain, state_bind_eq_ok, accessField]
      exact ⟨found, _, baseSame, accessed⟩

end Expr

end ScalarSql
