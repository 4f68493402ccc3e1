import ScalarSql.Proofs.Aggregate.Counting
import ScalarSql.Proofs.Plan.Rows
import ScalarSql.Proofs.Plan.SharedAggregates
import ScalarSql.Proofs.Session.OrderBy
import ScalarSql.Proofs.Syntax.Distinct

/-!
# Queries that ask for different rows or values

A query may ask for different rows, `SELECT DISTINCT`, and an aggregate call for the different
values of its argument, `COUNT(DISTINCT a)`.  Both are read, but no clause is planned by them.

**Main result.**  `Session.answer_distinct`: a query is answered like the query without such
marks, `Syntax.Query.withoutDistinct`, with the same result or the same error.  Its rows are
therefore different only if those of the other query are.  Where it groups rows, a count of
different values is the number of rows of the group in which the argument is not `NULL`.  That is
the number of different values exactly when no two of these values are the same, `Counts`.
-/

set_option autoImplicit false

namespace ScalarSql

/-! ## The column of a call -/

/-- The column of a call holds the aggregate of a call with its text. -/
theorem SelectParts.exists_columnOf {parts : SelectParts} {term : AggregateTerm}
    (written : term ∈ parts.part.aggregateTerms) :
    ∃ index other, parts.columnOf term = some index ∧ other ∈ parts.part.aggregateTerms ∧
      other.text = term.text ∧ parts.aggregates[index]? = some other.aggregate := by
  obtain ⟨index, found⟩ := columnOf_of_mem written
  obtain ⟨bound, named, -⟩ := List.findIdx?_eq_some_iff_getElem.mp found
  have atIndex := List.getElem?_eq_getElem bound
  generalize parts.aggregates[index] = aggregate at named atIndex
  have first : parts.aggregates.find? (·.name == term.text) = some aggregate := by
    rw [List.find?_eq_bind_findIdx?_getElem?]
    exact Option.bind_eq_some_iff.mpr ⟨index, found, atIndex⟩
  rw [aggregates, find?_addAggregates _ (fun left right same => by rw [same]),
    List.nil_append, parts.part.aggregateCalls_eq_map] at first
  obtain ⟨other, otherWritten, rfl⟩ := List.mem_map.mp (List.mem_of_find?_eq_some first)
  exact ⟨index, other, found, otherWritten, eq_of_beq named, atIndex⟩

namespace Session

variable {session : Session}

/-! ## The grouping of an answered query -/

theorem Ran.limit {count offset : Nat} {input : Plan} {schema : Schema} {runs : List RowRun}
    (ran : session.Ran (.limit count offset input) schema runs) :
    ∃ inner, session.Ran input schema inner := by
  obtain ⟨next, _, _, accepted, ran⟩ := ran
  simp only [Plan.analyzeNode, state_bind_eq_ok, state_pure_eq_ok] at accepted
  obtain ⟨⟨analyzed, innerSchema⟩, _, innerAccepted, same⟩ := accepted
  cases same
  simp only [Plan.mapExprs, Plan.run, bind_eq_ok] at ran
  obtain ⟨result, innerRan, made⟩ := ran
  obtain ⟨rfl, innerRan⟩ := ran_of_run innerAccepted innerRan
  exact ⟨result.2, innerRan⟩

/-- An answered query has run the plan below its projection, whatever stands above it. -/
theorem ran_below_of_answer {query : Syntax.Query} {select : Syntax.Select} {parts : SelectParts}
    {next : Nat} {outcome : QueryResult × Nat} (body : query.body = .select select)
    (read : Plan.readSelect session.tableColumns select query.order = .ok parts)
    (answered : session.answer (.query query) next = .ok outcome) :
    ∃ schema runs, session.Ran parts.below schema runs := by
  obtain ⟨draft, schema, runs, planned, ran, -⟩ := ran_of_answer answered
  simp only [Plan.ofStatement, Plan.ofQuery, body, Plan.ofSelect_eq, read, bind_eq_ok]
    at planned
  obtain ⟨plan, ⟨_, same, assembled⟩, limited⟩ := planned
  cases same
  have whole : ∃ inner, session.Ran plan schema inner := by
    unfold Plan.limitBy at limited
    split at limited
    · cases limited
      exact ⟨runs, ran⟩
    · simp only [bind_eq_ok] at limited
      obtain ⟨_, -, _, -, same⟩ := limited
      cases same
      exact ran.limit
  obtain ⟨rfl, -⟩ := Plan.eq_of_assemble assembled
  obtain ⟨-, starHidden, -⟩ := Plan.of_readSelect read
  have star : parts.above.columns = [] → parts.above.hidden = [] := fun none =>
    parts.hidden_above.mpr (starHidden (by simpa [none] using parts.names_above.symm))
  obtain ⟨inner, innerRan⟩ := whole
  obtain ⟨_, _, projected, -⟩ := innerRan.projectSorted star
  obtain ⟨source, _, _, _, _, _, filtered, -⟩ := projected.project
  obtain ⟨below, belowRan⟩ := filtered.of_filterBy
  exact ⟨source, below, belowRan⟩

/-- The members of the groups are the rows of the input, each with its position and the values of
the grouping keys.  The row that is made of a group begins with a key that is the one of every
member or the same as it. -/
def Divides (session : Session) (keys : List NamedExpr) (source : Schema) (rows : List Row)
    (members : List (List KeyedRow)) (output : List Row) : Prop :=
  ∃ next resolved keyed, Plan.resolveNamed session.scope source keys next = .ok resolved ∧
    List.Forall₂ (KeyedRow.Reads source session.config.onError
      (resolved.1.1.map fun item => session.rewriting item.expr)) rows.zipIdx keyed ∧
    members.flatten.Perm keyed ∧
    List.Forall₂ (fun group row => ∀ member ∈ group, row.take keys.length = member.key ∨
      Group.sameKeys (row.take keys.length) member.key = true) members output

/-- Every row holds in a column the count of an expression over the members of its group. -/
def CountedAt (session : Session) (source : Schema) (expr : Expr) (column : Nat)
    (members : List (List KeyedRow)) (rows : List Row) : Prop :=
  ∃ next resolved, expr.resolve session.scope source next = .ok resolved ∧
    List.Forall₂ (fun group row => ∃ result, row[column]? = some result ∧
      Counts source session.config.onError (session.rewriting resolved.1) group result)
      members rows

/-- **What a grouping counts.** -/
theorem Ran.counts {keys : List NamedExpr} {aggregates : List Aggregate} {input : Plan}
    {schema : Schema} {runs : List RowRun}
    (ran : session.Ran (.aggregate keys aggregates input) schema runs) :
    ∃ source inner members, session.Ran input source inner ∧
      session.Divides keys source (RowRun.flatten inner) members (RowRun.flatten runs) ∧
      ∀ index aggregate, aggregates[index]? = some aggregate → aggregate.function = .count →
        session.CountedAt source aggregate.expr (keys.length + index) members
          (RowRun.flatten runs) := by
  obtain ⟨source, inner, next, items, produced, between, computed, outputs, after, paired, rows,
    innerRan, keysResolved, resolved, made, grouped, rfl, -⟩ := ran.aggregate
  obtain ⟨keyed, members, read, divided, totals⟩ := groupRows_divides grouped
  have output : RowRun.flatten (RowRun.number 0 [rows]) = rows := by
    rw [RowRun.flatten_number, List.flatten_singleton]
  have length : items.length = keys.length := (Plan.length_of_resolveNamed keysResolved).1
  rw [List.length_map, length] at totals
  have shared := totals.imp fun _ _ total => total.key
  rw [output]
  refine ⟨source, inner, members, innerRan,
    ⟨next, _, keyed, keysResolved, read, divided, shared⟩, ?_⟩
  intro index aggregate atIndex isCount
  obtain ⟨start, outcome, _, argumentResolved, atComputed, -⟩ :=
    Plan.getElem?_of_resolveAggregates resolved atIndex
  have atRewritten : (computed.map fun aggregate : Aggregate =>
      { aggregate with expr := session.rewriting aggregate.expr })[index]?
        = some { aggregate with expr := session.rewriting outcome.1 } := by
    rw [List.getElem?_map, atComputed]
    rfl
  obtain ⟨type, -, atPaired⟩ := TypedAggregate.getElem?_of_ofAggregates made atRewritten
  refine ⟨start, outcome, argumentResolved, totals.imp fun group row total => ?_⟩
  obtain ⟨result, atResult, computed⟩ := total.hasResult atPaired
  exact ⟨result, atResult, TypedAggregate.counts_of_hasResult isCount computed⟩

/-- **Marks of distinctness change nothing.**  A query has the same result, or fails with the
same error, with its marks and without them.  If it groups its rows, it has run a grouping that
divides the rows of its input by key, and every count of the query has a column there.  This
holds for each group the number of members for which the argument of the count is not `NULL`,
whether or not the count is of different values.  The argument is the own one of the call if no
other call of the query is spelled the same. -/
theorem answer_distinct (session : Session) (query : Syntax.Query) (next : Nat) :
    session.answer (.query query) next = session.answer (.query query.withoutDistinct) next ∧
      ∀ select parts outcome, query.body = .select select →
        Plan.readSelect session.tableColumns select query.order = .ok parts →
        session.answer (.query query) next = .ok outcome → parts.grouped = true →
        ∃ source inner schema runs members,
          session.Ran parts.input source inner ∧ session.Ran parts.groups schema runs ∧
          session.Divides parts.keys source (RowRun.flatten inner) members
            (RowRun.flatten runs) ∧
          ∀ term ∈ parts.part.aggregateTerms, term.function = .count →
            ∃ index other, parts.columnOf term = some index ∧
              other ∈ parts.part.aggregateTerms ∧ other.text = term.text ∧
              session.CountedAt source other.aggregate.expr (parts.keys.length + index) members
                (RowRun.flatten runs) := by
  refine ⟨?_, ?_⟩
  · simp only [answer, Plan.ofStatement, Plan.ofQuery_withoutDistinct]
  · intro select parts outcome body read answered grouped
    obtain ⟨schema, runs, ran⟩ := ran_below_of_answer body read answered
    rw [SelectParts.below, grouped, if_pos rfl] at ran
    obtain ⟨source, inner, members, innerRan, divides, counts⟩ := ran.counts
    refine ⟨source, inner, schema, runs, members, innerRan, ran, divides, ?_⟩
    intro term written isCount
    obtain ⟨index, other, found, otherWritten, texts, atIndex⟩ :=
      SelectParts.exists_columnOf written
    refine ⟨index, other, found, otherWritten, texts, ?_⟩
    have alsoCount : other.aggregate.function = .count :=
      (AggregateTerm.function_eq_of_text texts).trans isCount
    exact counts index other.aggregate atIndex alsoCount

/-- `SELECT DISTINCT a FROM t` and `SELECT COUNT(DISTINCT a) FROM t` over rows of which two are
equal: both rows are in the result, and the count is two. -/
theorem answer_distinct_of_equal_rows :
    let name (text : String) : Syntax.Name := ⟨text, none⟩
    let column : Syntax.Term := .identifier (name "a")
    let batch : Batch := {
      columns := [("a", .int32)]
      rows := [[.number 1], [.null], [.number 1]] }
    let session := match (ofConfig {} {}).registerTable "t" [batch] with
      | .ok made => made
      | .error _ => ofConfig {} {}
    let select (distinct : Bool) (item : Syntax.Term) : Syntax.Select := {
      distinct := distinct
      items := [.bare item]
      sources := [⟨.table [name "t"] none, false, "t"⟩]
      condition := none
      grouping := .terms []
      having := none }
    let query (select : Syntax.Select) : Syntax.Query :=
      { body := .select select, order := [], limit := none, offset := none, spelling := "" }
    let rows := query (select true column)
    let counted := select false (.call [name "COUNT"] ⟨true, "(DISTINCT ", ")"⟩ [column])
    let one : Value := .int (BoundedInt.wrap 1)
    let two : Value := .long (BoundedInt.wrap 2)
    session.answer (.query rows) 0
        = .ok ({ columns := [⟨"a", .int⟩], rows := [[one], [.null], [one]] }, 0) ∧
      session.answer (.query rows.withoutDistinct) 0
        = .ok ({ columns := [⟨"a", .int⟩], rows := [[one], [.null], [one]] }, 0) ∧
      session.answer (.query (query counted)) 0
        = .ok ({ columns := [⟨"COUNT(a)", .long⟩], rows := [[two]] }, 0) ∧
      ∃ parts source schema runs members,
        Plan.readSelect session.tableColumns counted [] = .ok parts ∧
        session.Ran parts.groups schema runs ∧
        session.CountedAt source (.column "a") 0 members (RowRun.flatten runs) := by
  intro name column batch session select query rows counted one two
  have rowsAnswered : session.answer (.query rows) 0
      = .ok ({ columns := [⟨"a", .int⟩], rows := [[one], [.null], [one]] }, 0) := by
    subst session rows counted query select batch column name one two
    rfl
  have countAnswered : session.answer (.query (query counted)) 0
      = .ok ({ columns := [⟨"COUNT(a)", .long⟩], rows := [[two]] }, 0) := by
    subst session rows counted query select batch column name one two
    rfl
  let parts : SelectParts := {
    input := .scan "t" none
    keys := []
    part := {
      columns := [⟨.call "COUNT" [.column "a"], "COUNT(a)"⟩]
      hidden := []
      having := none }
    sorting := [] }
  have read : Plan.readSelect session.tableColumns counted [] = .ok parts := by
    subst session rows counted parts query select batch column name one two
    rfl
  obtain ⟨same, -⟩ := answer_distinct session rows 0
  obtain ⟨-, groupings⟩ := answer_distinct session (query counted) 0
  obtain ⟨source, inner, schema, runs, members, -, ran, -, counts⟩ :=
    groupings counted parts _ rfl read countAnswered rfl
  have calls : parts.part.aggregateTerms = [⟨.count, [.column "a"]⟩] := rfl
  rw [calls] at counts
  obtain ⟨index, other, found, isOther, -, counted⟩ := counts _ List.mem_cons_self rfl
  obtain rfl := List.mem_singleton.mp isOther
  have first : parts.columnOf ⟨.count, [.column "a"]⟩ = some 0 := by decide
  obtain rfl := Option.some.inj (found.symm.trans first)
  exact ⟨rowsAnswered, same.symm.trans rowsAnswered, countAnswered, parts, source, schema, runs,
    members, read, ran, counted⟩

end Session

end ScalarSql
