import ScalarSql.Proofs.Plan.Typing

/-!
# Analysing analysed plans

The typed plans are the plans that analysis returns unchanged, `Plan.hasSchema_iff`.  Being
typed is a matter of the plan and of the columns of the stored tables; which functions are
registered, how calls choose among them and how decimals are narrowed play no part, because
no call by name is left and no conversion is missing.

**Other analysers.**  So a plan that one analyser returns any other one returns as it is, as
long as it finds the same columns in the tables, `Plan.analyze_analyzed`.  Nothing is
numbered, converted, qualified or written out a second time.
-/

set_option autoImplicit false

namespace ScalarSql

/-! ## Tables with the same columns -/

namespace Catalog

/-- Every table of the smaller catalog can be read from the larger one, with the same
columns. -/
def Extends (larger smaller : Catalog) : Prop :=
  ∀ name aliasName schema, smaller.scanSchema name aliasName = .ok schema →
    larger.scanSchema name aliasName = .ok schema

/-- Only the columns of tables matter. -/
theorem extends_of_columns {larger smaller : Catalog}
    (same : ∀ name, (larger.table? name).map Table.columns
      = (smaller.table? name).map Table.columns) : larger.Extends smaller := by
  intro name aliasName schema scanned
  have columns := same name
  unfold scanSchema table at scanned ⊢
  cases inSmaller : smaller.table? name with
  | none =>
      rw [inSmaller] at scanned
      cases scanned
  | some found =>
      rw [inSmaller] at scanned columns
      obtain ⟨other, inLarger, sameColumns⟩ := Option.map_eq_some_iff.mp columns
      rw [inLarger, ← scanned]
      simp only [Except.map, sameColumns]

end Catalog

namespace Plan

variable {scope : FunctionScope} {catalog : Catalog} {plan : Plan} {schema : Schema}

/-! ## Typed plans as fixed points -/

/-- **The typed plans are those that analysis returns unchanged.** -/
theorem hasSchema_iff {next : Nat} : HasSchema catalog plan schema ↔
    plan.analyzeNode scope catalog next = .ok ((plan, schema), next) :=
  ⟨fun typed => typed.analyzeNode scope next, fun result => hasSchema_of_analyzeNode result⟩

/-- A typed plan is typed over every catalog that has its tables with the same columns. -/
theorem HasSchema.mono {other : Catalog} (typed : HasSchema catalog plan schema)
    (larger : other.Extends catalog) : HasSchema other plan schema := by
  induction typed with
  | oneRow => exact .oneRow
  | scan stored => exact .scan (larger _ _ _ stored)
  | filter _ typed accepted ih => exact .filter ih typed accepted
  | project _ typed empty ih => exact .project ih typed empty
  | aggregate _ keysTyped aggregatesTyped ih => exact .aggregate ih keysTyped aggregatesTyped
  | sort _ typed ih => exact .sort ih typed
  | limit _ ih => exact .limit ih

/-- **Analysed plans are fixed points of every analyser.**  What is analysed with some
functions, some narrowing of decimals and some tables is returned as it is, with all its
invocations, conversions and columns, by analysis with any others, as long as the tables
have the same columns; no invocation is numbered. -/
theorem analyze_analyzed (first second : FunctionScope) (catalog other : Catalog)
    (written analyzed : Plan) (next after start : Nat) (larger : other.Extends catalog)
    (result : written.analyze first catalog next = .ok (analyzed, after)) :
    analyzed.analyze second other start = .ok (analyzed, start) := by
  simp only [analyze, state_bind_eq_ok, state_pure_eq_ok] at result ⊢
  obtain ⟨⟨inner, produced⟩, _, accepted, same⟩ := result
  cases same
  have typed := (hasSchema_of_analyzeNode accepted).mono larger
  exact ⟨(inner, produced), start, typed.analyzeNode second start, rfl⟩

/-- The call in `SELECT * FROM t WHERE within(t.a, 2.0, NULL)` has its arguments converted to
`BIGINT`, `INT` and `STRING`.  Without the function, with another narrowing of decimals and
with rows in the table, the analysed plan stays what it is. -/
theorem analyze_analyzed_of_call :
    let within : Callable := .scalar (.dynamic
      { name := "within", parameters := [.long, .int, .string], returnType := .boolean,
        arity := .fixed 3 } fun _ => .ok (.boolean true))
    let first : FunctionScope := {
      registered := { caseSensitive := true, entries := [("within", [within])] }
      builtin := {}
      narrowing := .exact }
    let second : FunctionScope := { registered := {}, builtin := {}, narrowing := .truncate }
    let catalog : Catalog := { tables := [("t", { columns := [⟨"a", .int⟩], batches := [] })] }
    let other : Catalog := { tables := [("t", {
      columns := [⟨"a", .int⟩]
      batches := [{ columns := [("a", .int32)], rows := [[.number 1]] }] })] }
    let written : Plan := .project [] (.filter
      (.call "within" [.field (.column "t") "a",
        .literal (.decimal ⟨false, 20, 1, by decide, by decide⟩), .literal .null])
      (.scan "t" none))
    let analyzed : Plan := .project [⟨.column "a", "a"⟩] (.filter
      (.invocation ⟨5, within⟩ [.cast (.column "a") .long false,
        .literal (.int (BoundedInt.wrap 2)), .cast (.literal .null) .string false])
      (.scan "t" none))
    other.Extends catalog ∧ written.analyze first catalog 5 = .ok (analyzed, 6) ∧
      analyzed.analyze second other 0 = .ok (analyzed, 0) := by
  intro within first second catalog other written analyzed
  have larger : other.Extends catalog := Catalog.extends_of_columns fun name => by
    simp only [Catalog.table?, other, catalog, List.lookup_cons, List.lookup_nil]
    split <;> rfl
  have result : written.analyze first catalog 5 = .ok (analyzed, 6) := rfl
  exact ⟨larger, result,
    analyze_analyzed first second catalog other written analyzed 5 6 0 larger result⟩

end Plan

end ScalarSql
