import ScalarSql.Catalog
import ScalarSql.Expr.Resolution
import ScalarSql.Plan.Basic

/-!
# Analysing plans

Analysis goes through a plan from the table outwards and knows at every operator the
columns of its input.  It resolves all expressions, writes out the columns of a
projection that stands for all of them, and finds the columns that the plan produces.
What it accepts has a type everywhere, and analysing it again changes nothing.
-/

set_option autoImplicit false

namespace ScalarSql

namespace Plan

/-- The columns of a schema as a projection. -/
def allColumns (schema : Schema) : List NamedExpr :=
  schema.columns.map fun column => { expr := .column column.name, name := column.name }

/-- Named expressions resolved in order, with the columns they produce. -/
def resolveNamed (scope : FunctionScope) (schema : Schema) :
    List NamedExpr → Resolving (List NamedExpr × List Column)
  | [] => pure ([], [])
  | item :: rest => do
      let expr ← item.expr.resolve scope schema
      let type ← expr.dataType schema
      let (items, columns) ← resolveNamed scope schema rest
      pure ({ expr, name := item.name } :: items, { name := item.name, type } :: columns)

/-- Aggregates resolved in order, with the columns they produce. -/
def resolveAggregates (scope : FunctionScope) (schema : Schema) :
    List Aggregate → Resolving (List Aggregate × List Column)
  | [] => pure ([], [])
  | item :: rest => do
      let expr ← item.expr.resolve scope schema
      let aggregate := { item with expr }
      let type ← aggregate.outputType schema
      let (aggregates, columns) ← resolveAggregates scope schema rest
      pure (aggregate :: aggregates, { name := item.name, type } :: columns)

/-- Sort keys resolved in order. -/
def resolveKeys (scope : FunctionScope) (schema : Schema) :
    List SortKey → Resolving (List SortKey)
  | [] => pure []
  | key :: rest => do
      let expr ← key.expr.resolve scope schema
      let keys ← resolveKeys scope schema rest
      pure ({ key with expr } :: keys)

/-- The clause that a filter over the given input comes from. -/
def filterClause (input : Plan) : String :=
  if input.isAggregate then "HAVING" else "WHERE"

/-- Accepts the type of a predicate. -/
def checkPredicate (clause : String) (type : DataType) : Except Error Unit :=
  if Connective.accepts type then .ok () else .error (.analysis (.nonBooleanPredicate clause type))

/-- The analysed plan together with the columns it produces. -/
def analyzeNode (scope : FunctionScope) (catalog : Catalog) : Plan → Resolving (Plan × Schema)
  | .oneRow => pure (.oneRow, {})
  | .scan table aliasName => do
      let schema ← catalog.scanSchema table aliasName
      pure (.scan table aliasName, schema)
  | .filter predicate input => do
      let (analyzed, schema) ← input.analyzeNode scope catalog
      let predicate ← predicate.resolve scope schema
      let type ← predicate.dataType schema
      checkPredicate (filterClause input) type
      pure (.filter predicate analyzed, schema)
  | .project columns input => do
      let (analyzed, schema) ← input.analyzeNode scope catalog
      let written := if columns.isEmpty then allColumns schema else columns
      let (items, produced) ← resolveNamed scope schema written
      pure (.project items analyzed, { columns := produced })
  | .aggregate keys aggregates input => do
      let (analyzed, schema) ← input.analyzeNode scope catalog
      let (keys, keyColumns) ← resolveNamed scope schema keys
      let (aggregates, aggregateColumns) ← resolveAggregates scope schema aggregates
      pure (.aggregate keys aggregates analyzed, { columns := keyColumns ++ aggregateColumns })
  | .sort keys input => do
      let (analyzed, schema) ← input.analyzeNode scope catalog
      let keys ← resolveKeys scope schema keys
      pure (.sort keys analyzed, schema)
  | .limit count offset input => do
      let (analyzed, schema) ← input.analyzeNode scope catalog
      pure (.limit count offset analyzed, schema)

/-- The analysed plan. -/
def analyze (scope : FunctionScope) (catalog : Catalog) (plan : Plan) : Resolving Plan := do
  let (analyzed, _) ← plan.analyzeNode scope catalog
  pure analyzed

/-- The columns that a plan produces. -/
def schemaOf (scope : FunctionScope) (catalog : Catalog) (plan : Plan) : Resolving Schema := do
  let (_, schema) ← plan.analyzeNode scope catalog
  pure schema

end Plan

end ScalarSql
