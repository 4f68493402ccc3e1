import ScalarSql.Document.Expr
import ScalarSql.Plan.Basic

/-!
# Plans in documents

A plan is written as an object for its outermost operator, with the plan below it under
`input`.  Row counts are texts.
-/

set_option autoImplicit false

namespace ScalarSql

/-! ## Parts of operators -/

instance : ToJson NamedExpr := ⟨fun column => toJson (column.expr, column.name)⟩

instance : ToJson SortKey where
  toJson key :=
    .object
      [("expr", toJson key.expr), ("asc", toJson key.ascending),
        ("nulls_first", toJson key.nullsFirst)]

instance : ToJson Aggregate where
  toJson aggregate :=
    .object
      [("fn", toJson aggregate.function.text), ("expr", toJson aggregate.expr),
        ("name", toJson aggregate.name)]

instance : FromJson AggregateFunction :=
  ⟨fun json => (fromJson? json).bind AggregateFunction.ofName?⟩

/-- The named expression that a document gives. -/
def NamedExpr.ofDocument (scope : FunctionScope) (json : Json) : Resolving NamedExpr := do
  let (content, name) : Json × String ← ScalarSql.ofDocument (fromJson? json)
  let expr ← Expr.ofDocument scope content
  pure { expr, name }

/-- The sort key that a document gives. -/
def SortKey.ofDocument (scope : FunctionScope) (json : Json) : Resolving SortKey := do
  let expr ← Expr.ofDocument scope (json.member "expr")
  let ascending ← json.get "asc"
  let nullsFirst ← json.get "nulls_first"
  pure { expr, ascending, nullsFirst }

/-- The aggregate that a document gives. -/
def Aggregate.ofDocument (scope : FunctionScope) (json : Json) : Resolving Aggregate := do
  let function ← json.get "fn"
  let expr ← Expr.ofDocument scope (json.member "expr")
  let name ← json.get "name"
  pure { function, expr, name }

namespace Plan

/-! ## Operators -/

/-- The document for a plan. -/
def toDocument : Plan → Json
  | .oneRow => .object [("node", toJson "onerow")]
  | .scan table aliasName =>
      .object [("node", toJson "scan"), ("table", toJson table), ("alias", toJson aliasName)]
  | .filter predicate input =>
      .object
        [("node", toJson "filter"), ("predicate", toJson predicate), ("input", input.toDocument)]
  | .project columns input =>
      .object
        [("node", toJson "project"), ("items", toJson columns), ("input", input.toDocument)]
  | .aggregate keys aggregates input =>
      .object
        [("node", toJson "aggregate"), ("group_by", toJson keys),
          ("aggregates", toJson aggregates), ("input", input.toDocument)]
  | .sort keys input =>
      .object [("node", toJson "sort"), ("keys", toJson keys), ("input", input.toDocument)]
  | .limit count offset input =>
      .object
        [("node", toJson "limit"), ("count", toJson (Nat.repr count)),
          ("offset", toJson (Nat.repr offset)), ("input", input.toDocument)]

/-- The operator of the given kind over an input that is read by `readInput`. -/
def ofKind (scope : FunctionScope) (readInput : Resolving Plan) (json : Json) (kind : String) :
    Resolving Plan := do
  let listOf {α : Type} (name : String) (readOne : Json → Resolving α) : Resolving (List α) := do
    let items ← json.get name
    Expr.readEach readOne items
  match kind with
  | "onerow" => pure .oneRow
  | "scan" => do
      let table ← json.get "table"
      let aliasName ← json.get "alias"
      pure (.scan table aliasName)
  | "filter" => do
      let predicate ← Expr.ofDocument scope (json.member "predicate")
      .filter predicate <$> readInput
  | "project" => do
      let columns ← listOf "items" (NamedExpr.ofDocument scope)
      .project columns <$> readInput
  | "aggregate" => do
      let keys ← listOf "group_by" (NamedExpr.ofDocument scope)
      let aggregates ← listOf "aggregates" (Aggregate.ofDocument scope)
      .aggregate keys aggregates <$> readInput
  | "sort" => do
      let keys ← listOf "keys" (SortKey.ofDocument scope)
      .sort keys <$> readInput
  | "limit" => do
      let count ← json.get "count"
      let offset ← json.get "offset"
      .limit count offset <$> readInput
  | _ => throw .malformedDocument

/-- The plan that a document of a given depth gives. -/
def ofDocumentAt (scope : FunctionScope) : Nat → Json → Resolving Plan
  | 0, _ => throw .malformedDocument
  | depth + 1, json => do
      let kind ← json.get "node"
      ofKind scope (ofDocumentAt scope depth (json.member "input")) json kind

/-- The plan that a document gives. -/
def ofDocument (scope : FunctionScope) (json : Json) : Resolving Plan :=
  ofDocumentAt scope json.depth json

end Plan

instance : ToJson Plan := ⟨Plan.toDocument⟩

end ScalarSql
