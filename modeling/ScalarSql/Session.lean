import ScalarSql.Config
import ScalarSql.Function.Description
import ScalarSql.Plan.Analysis
import ScalarSql.Plan.OfQuery
import ScalarSql.Plan.Rewrite
import ScalarSql.QueryResult
import ScalarSql.Syntax.Statement

/-!
# Sessions

A session holds settings, registered functions and tables, and answers queries over them.
A query is read, planned and analysed; then the plan is rewritten and analysed again until
it no longer changes or the number of passes is used up.  What comes out is fully resolved
and can be executed.
-/

set_option autoImplicit false

namespace ScalarSql

/-- Settings, functions and tables. -/
structure Session where
  config : Config := {}
  registry : Registry := {}
  catalog : Catalog := {}
  /-- Where the built-in functions take random numbers from. -/
  generator : Builtin.Generator := {}
  /-- The identity of the next invocation. -/
  nextId : Nat := 0

namespace Session

/-- A session without functions and tables. -/
def ofConfig (config : Config) (generator : Builtin.Generator) : Session :=
  { config, registry := { caseSensitive := config.caseSensitive }, generator }

/-- What calls are resolved with. -/
def scope (session : Session) : FunctionScope where
  registered := session.registry
  builtin := Builtin.registry session.generator
  narrowing := session.config.narrowing

/-- The names of the columns of a table; an unknown table has none. -/
def tableColumns (session : Session) (name : String) : List String :=
  match session.catalog.table? name with
  | some table => table.columns.map Column.name
  | none => []

/-- Runs a computation that numbers invocations; the session goes on with the next
number. -/
def number {α : Type} (session : Session) (computation : Resolving α) :
    Except Error (α × Session) :=
  (computation session.nextId).map fun (result, nextId) => (result, { session with nextId })

/-! ## Functions and tables -/

/-- The session with a function in place of everything under its name. -/
def register (session : Session) (callable : Callable) : Session :=
  { session with registry := session.registry.register callable }

/-- The session with one more function under a name. -/
def registerOverload (session : Session) (callable : Callable) : Session :=
  { session with registry := session.registry.registerOverload callable }

/-- The session without the functions under a name. -/
def deregister (session : Session) (name : String) : Session :=
  { session with registry := session.registry.deregister name }

/-- The session with a table, which takes the place of one of the same name. -/
def registerTable (session : Session) (name : String) (batches : List Batch) :
    Except Error Session :=
  (session.catalog.register name batches).map fun catalog => { session with catalog }

/-- The session without a table. -/
def dropTable (session : Session) (name : String) : Session :=
  { session with catalog := session.catalog.erase name }

/-- The session without its functions and tables. -/
def close (session : Session) : Session :=
  { session with registry := session.registry.clear, catalog := {} }

/-- The functions of the session and the built-in ones as a JSON document. -/
def describe (session : Session) : String :=
  (session.registry.catalogDescription session.scope.builtin).pretty

/-! ## Queries -/

/-- The plan of a query before analysis. -/
def draft (session : Session) (sql : String) : Except Error Plan := do
  let statement ← Syntax.Statement.read sql
  Plan.ofStatement session.tableColumns statement

/-- The analysed plan. -/
def analyze (session : Session) (plan : Plan) : Resolving Plan :=
  plan.analyze session.scope session.catalog

/-- The columns that a plan produces. -/
def schemaOf (session : Session) (plan : Plan) : Resolving Schema :=
  plan.schemaOf session.scope session.catalog

/-- Rewrites and analyses a plan until nothing changes, in at most `passes` passes. -/
def settle (session : Session) : Nat → Plan → Resolving Plan
  | 0, plan => pure plan
  | passes + 1, plan => do
      let rewritten ← session.analyze plan.optimize
      if Plan.same rewritten plan then pure rewritten else session.settle passes rewritten

/-- The plan of a query, ready to be executed. -/
def plan (session : Session) (sql : String) : Resolving Plan := do
  let draft ← session.draft sql
  let analyzed ← session.analyze draft
  session.settle session.config.maxPasses analyzed

/-- The result of a plan, all of whose calls must be resolved. -/
def execute (session : Session) (plan : Plan) : Except Error QueryResult :=
  plan.executeResolved session.catalog session.config.onError

/-- The result of a query. -/
def query (session : Session) (sql : String) : Resolving QueryResult := do
  let plan ← session.plan sql
  session.execute plan

end Session

end ScalarSql
