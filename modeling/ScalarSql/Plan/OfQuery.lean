import ScalarSql.Expr.OfTerm
import ScalarSql.Number.Digits
import ScalarSql.Plan.Basic

/-!
# From queries to plans

A query becomes a plan of at most these operators, from the table outwards: scan, filter
for the condition, grouping, filter on the groups, projection, sort, a second projection,
and limit.

**Grouping.**  Aggregate calls are taken out of the select list, the sort keys and the
condition on groups; a column named like the call stands in their place, and calls that
are spelled the same share a column.  Where such an expression contains a grouping key, it
refers to the column of the key.

**Sorting.**  A sort key that is an item of the select list, or a name of one, refers to
its column.  Any other key is computed as a hidden column next to the select list, which
the second projection drops again.
-/

set_option autoImplicit false

namespace ScalarSql

namespace Expr

/-- The name of a column for an expression that is given none. -/
def defaultName : Expr → String
  | .column name => name
  | .field _ name => name
  | other => other.text

/-! ## Replacing parts -/

mutual

/-- Replaces the outermost parts for which there is a replacement. -/
def replace (replacement? : Expr → Option Expr) (expr : Expr) : Expr :=
  match replacement? expr with
  | some result => result
  | none =>
      match expr with
      | .column name => .column name
      | .literal value => .literal value
      | .binary op left right =>
          .binary op (left.replace replacement?) (right.replace replacement?)
      | .not operand => .not (operand.replace replacement?)
      | .negate operand => .negate (operand.replace replacement?)
      | .isNull operand => .isNull (operand.replace replacement?)
      | .isNotNull operand => .isNotNull (operand.replace replacement?)
      | .cast operand target checked => .cast (operand.replace replacement?) target checked
      | .call name arguments => .call name (replaceAll replacement? arguments)
      | .invocation function arguments =>
          .invocation function (replaceAll replacement? arguments)
      | .field base name => .field (base.replace replacement?) name

/-- Replaces parts of several expressions. -/
def replaceAll (replacement? : Expr → Option Expr) : List Expr → List Expr
  | [] => []
  | first :: rest => first.replace replacement? :: replaceAll replacement? rest

end

/-! ## Aggregates -/

/-- Computations that collect aggregates. -/
abbrev Collecting := StateT (List Aggregate) (Except Error)

/-- What an aggregate is computed from; counting needs no more than a number. -/
def aggregateArgument (function : AggregateFunction) (arguments : List Expr) :
    Except Error Expr :=
  match arguments with
  | [] | [.column "*"] => .ok (.literal (.int (BoundedInt.wrap 1)))
  | [argument] => .ok argument
  | several =>
      .error (.unsupported
        (function.text ++ " with " ++ Nat.repr several.length ++ " arguments")
        "Aggregates take a single argument")

/-- The column for an aggregate call, which is collected unless it is there already. -/
def collectAggregate (function : AggregateFunction) (arguments : List Expr) :
    Collecting Expr := do
  let name := (Expr.call function.text arguments).text
  let expr ← aggregateArgument function arguments
  let aggregate : Aggregate := { function, expr, name }
  modify fun aggregates =>
    if aggregates.any (·.name == name) then aggregates else aggregates ++ [aggregate]
  pure (.column name)

mutual

/-- The expression with columns in place of its aggregate calls.  The arguments of an
aggregate call are left as they are. -/
def collectAggregates : Expr → Collecting Expr
  | .column name => pure (.column name)
  | .literal value => pure (.literal value)
  | .binary op left right => do
      let left ← left.collectAggregates
      let right ← right.collectAggregates
      pure (.binary op left right)
  | .not operand => .not <$> operand.collectAggregates
  | .negate operand => .negate <$> operand.collectAggregates
  | .isNull operand => .isNull <$> operand.collectAggregates
  | .isNotNull operand => .isNotNull <$> operand.collectAggregates
  | .cast operand target checked => do
      let operand ← operand.collectAggregates
      pure (.cast operand target checked)
  | .call name arguments =>
      match AggregateFunction.ofName? name with
      | some function => collectAggregate function arguments
      | none => .call name <$> collectAllAggregates arguments
  | .invocation function arguments => .invocation function <$> collectAllAggregates arguments
  | .field base name => do
      let base ← base.collectAggregates
      pure (.field base name)

/-- Several expressions with columns in place of their aggregate calls. -/
def collectAllAggregates : List Expr → Collecting (List Expr)
  | [] => pure []
  | first :: rest => do
      let expr ← first.collectAggregates
      let others ← collectAllAggregates rest
      pure (expr :: others)

end

/-- The reference to the grouping key that an expression equals. -/
def keyColumn? (keys : List NamedExpr) (expr : Expr) : Option Expr :=
  (keys.find? fun key => Expr.same key.expr expr).map fun key => .column key.name

end Expr

namespace NamedExpr

/-- Named expressions with columns in place of their aggregate calls. -/
def collectAggregates : List NamedExpr → Expr.Collecting (List NamedExpr)
  | [] => pure []
  | item :: rest => do
      let expr ← item.expr.collectAggregates
      let others ← collectAggregates rest
      pure ({ item with expr } :: others)

/-- A named expression that refers to grouping keys by their columns. -/
def overKeys (keys : List NamedExpr) (item : NamedExpr) : NamedExpr :=
  { item with expr := item.expr.replace (Expr.keyColumn? keys) }

/-- The columns of a result under their own names. -/
def passThrough (items : List NamedExpr) : List NamedExpr :=
  items.map fun item => { expr := .column item.name, name := item.name }

end NamedExpr

namespace Plan

/-! ## Clauses -/

/-- The plan for a from clause. -/
def ofSources : List Syntax.FromItem → Except Error Plan
  | [] => .ok .oneRow
  | [item] =>
      if item.joined then severalTables
      else
        match item.source with
        | .table name aliasName =>
            .ok (.scan (Syntax.Name.pathSpelling name) (aliasName.map Syntax.Name.text))
        | .other => .error (.unsupported "Complex table expressions" "Use simple table names only")
  | _ => severalTables
where
  /-- The error for more than one table. -/
  severalTables : Except Error Plan :=
    .error (.unsupported "Multiple tables or JOIN in FROM clause" "Query a single table")

/-- The columns of the table that a plan scans. -/
def scannedColumns (tableColumns : String → List String) : Plan → List String
  | .scan table _ => tableColumns table
  | _ => []

/-- The scope with the names that a select list introduces, in order. -/
def defineAliases (scope : NameScope) : List Syntax.SelectItem → Except Error NameScope
  | [] => .ok scope
  | .aliased term aliasName :: rest => do
      let expr ← Expr.ofTerm scope term
      defineAliases (scope.define aliasName.text expr) rest
  | _ :: rest => defineAliases scope rest

/-- The column of a term without a name of its own. -/
def namedTerm (scope : NameScope) (term : Syntax.Term) : Except Error NamedExpr :=
  (Expr.ofTerm scope term).map fun expr => { expr, name := expr.defaultName }

/-- The keys of a group clause. -/
def groupKeys (scope : NameScope) : Syntax.GroupClause → Except Error (List NamedExpr)
  | .terms terms => terms.mapM (namedTerm scope)
  | .all => .error (.unsupported "GROUP BY ALL" "List the grouping expressions explicitly")

/-- The column for an item of a select list. -/
def selectedColumn (scope : NameScope) : Syntax.SelectItem → Except Error NamedExpr
  | .bare term => namedTerm scope term
  | .aliased term aliasName =>
      (Expr.ofTerm scope term).map fun expr => { expr, name := aliasName.text }
  | .star spelling | .other spelling =>
      .error (.notImplemented ("Unsupported SELECT item: " ++ spelling))

/-- The columns for a select list; a star alone gives none, which stands for all
columns. -/
def selectedColumns (scope : NameScope) : List Syntax.SelectItem → Except Error (List NamedExpr)
  | [.star _] => .ok []
  | items => items.mapM (selectedColumn scope)

/-! ## Sorting -/

/-- The expression of a sort key.  A lone name is a column of the result. -/
def sortExpr (scope : NameScope) : Syntax.Term → Except Error Expr
  | .identifier name => .ok (.column name.text)
  | term => Expr.ofTerm scope term

/-- A sort key over the columns of the select list.  `NULL`s come first in ascending order
and last in descending order, unless it is said otherwise. -/
def sortKey (scope : NameScope) (columns : List NamedExpr) (item : Syntax.OrderItem) :
    Except Error SortKey :=
  (sortExpr scope item.term).map fun written =>
    let expr := (Expr.keyColumn? columns written).getD written
    let ascending := item.ascending.getD true
    { expr, ascending, nullsFirst := item.nullsFirst.getD ascending }

/-- Whether a sort key can be read off the result: it names a column of the select list,
or the result has all columns of the table. -/
def isOutput (columns : List NamedExpr) (expr : Expr) : Bool :=
  columns.isEmpty || match expr with
    | .column name => columns.any fun column => Text.sameName column.name name
    | _ => false

/-- The hidden column for a sort key, and all hidden columns with it. -/
def hide (hidden : List NamedExpr) (expr : Expr) : String × List NamedExpr :=
  match hidden.find? fun column => Expr.same column.expr expr with
  | some column => (column.name, hidden)
  | none =>
      let name := "__order_" ++ Nat.repr hidden.length
      (name, hidden ++ [{ expr, name }])

/-- The sort keys of a query and the hidden columns that they need, after those in
`hidden`. -/
def sortKeys (scope : NameScope) (columns hidden : List NamedExpr) :
    List Syntax.OrderItem → Except Error (List SortKey × List NamedExpr)
  | [] => .ok ([], hidden)
  | item :: rest => do
      let key ← sortKey scope columns item
      let (expr, hidden) :=
        if isOutput columns key.expr then (key.expr, hidden)
        else
          let (name, extended) := hide hidden key.expr
          (.column name, extended)
      let (keys, all) ← sortKeys scope columns hidden rest
      .ok ({ key with expr } :: keys, all)

/-! ## Select clauses -/

/-- The expressions of a select clause that see the groups. -/
structure GroupedPart where
  columns : List NamedExpr
  hidden : List NamedExpr
  having : Option Expr

namespace GroupedPart

/-- The part with columns in place of aggregate calls. -/
def collectAggregates (part : GroupedPart) : Expr.Collecting GroupedPart := do
  let columns ← NamedExpr.collectAggregates part.columns
  let hidden ← NamedExpr.collectAggregates part.hidden
  match part.having with
  | none => pure { columns, hidden, having := none }
  | some condition =>
      let condition ← condition.collectAggregates
      pure { columns, hidden, having := some condition }

/-- The part with columns in place of grouping keys. -/
def overKeys (keys : List NamedExpr) (part : GroupedPart) : GroupedPart where
  columns := part.columns.map (NamedExpr.overKeys keys)
  hidden := part.hidden.map (NamedExpr.overKeys keys)
  having := part.having.map (Expr.replace (Expr.keyColumn? keys))

end GroupedPart

/-- Groups the rows of a plan if there are keys or aggregates. -/
def group (keys : List NamedExpr) (part : GroupedPart) (input : Plan) :
    Except Error (GroupedPart × Plan) := do
  let (collected, aggregates) ← part.collectAggregates []
  if keys.isEmpty && aggregates.isEmpty then .ok (collected, input)
  else if collected.columns.isEmpty then
    .error (.unsupported "SELECT * with GROUP BY or aggregates"
      "List the grouping keys and aggregates explicitly")
  else .ok (collected.overKeys keys, .aggregate keys aggregates input)

/-- A plan whose rows satisfy a condition, if there is one. -/
def filterBy (condition : Option Expr) (input : Plan) : Plan :=
  match condition with
  | some predicate => .filter predicate input
  | none => input

/-- A plan whose rows are sorted, if there are keys. -/
def sortBy (keys : List SortKey) (input : Plan) : Plan :=
  if keys.isEmpty then input else .sort keys input

/-- The columns of a select clause and its hidden ones, sorted, and then without the
hidden ones. -/
def projectSorted (part : GroupedPart) (keys : List SortKey) (input : Plan) : Plan :=
  let sorted := sortBy keys (.project (part.columns ++ part.hidden) input)
  if part.hidden.isEmpty then sorted else .project (NamedExpr.passThrough part.columns) sorted

/-- The expression of a term that may be missing. -/
def optionalExpr (scope : NameScope) : Option Syntax.Term → Except Error (Option Expr)
  | none => .ok none
  | some term => (Expr.ofTerm scope term).map some

/-- The plan for a select clause and the order of its rows. -/
def ofSelect (tableColumns : String → List String) (select : Syntax.Select)
    (order : List Syntax.OrderItem) : Except Error Plan := do
  let source ← ofSources select.sources
  let columns := (scannedColumns tableColumns source).map Text.lower
  let scope ← defineAliases { columns } select.items
  let condition ← optionalExpr scope select.condition
  let keys ← groupKeys scope select.grouping
  let selected ← selectedColumns scope select.items
  let (sorting, hidden) ← sortKeys scope selected [] order
  let having ← optionalExpr scope select.having
  let (part, grouped) ← group keys { columns := selected, hidden, having }
    (filterBy condition source)
  .ok (projectSorted part sorting (filterBy part.having grouped))

/-! ## Queries -/

/-- The number of rows that a limit or an offset gives. -/
def rowCount : Syntax.Term → Except Error Nat
  | .literal (.number text _) =>
      match readCount? text.toList with
      | some count => .ok count
      | none => .error (.schema (.invalidRowCount text))
  | _ => .error (.notImplemented "Non-literal LIMIT/OFFSET expression")

/-- The number of rows that a term gives, if there is one. -/
def rowCountOr (default : Nat) : Option Syntax.Term → Except Error Nat
  | none => .ok default
  | some term => rowCount term

/-- A plan with the limit and the offset of a query. -/
def limitBy (limit offset : Option Syntax.Term) (input : Plan) : Except Error Plan :=
  if limit.isNone && offset.isNone then .ok input
  else do
    let count ← rowCountOr unlimited limit
    let skipped ← rowCountOr 0 offset
    .ok (.limit count skipped input)

/-- What to do about a statement that is no query. -/
def selectOnly : String := "Only SELECT queries are currently supported"

/-- The plan for a query; `tableColumns` gives the columns of a table, and none for an
unknown one. -/
def ofQuery (tableColumns : String → List String) (query : Syntax.Query) :
    Except Error Plan :=
  match query.body with
  | .select select => do
      let plan ← ofSelect tableColumns select query.order
      limitBy query.limit query.offset plan
  | .other => .error (.unsupported "Non-SELECT queries" selectOnly)

/-- The plan for a statement. -/
def ofStatement (tableColumns : String → List String) :
    Syntax.Statement → Except Error Plan
  | .query query => ofQuery tableColumns query
  | .other label => .error (.unsupported label selectOnly)

end Plan

end ScalarSql
