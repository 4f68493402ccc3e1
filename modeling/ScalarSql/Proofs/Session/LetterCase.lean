import ScalarSql.Proofs.Plan.SameMatches
import ScalarSql.Proofs.Session

/-!
# Queries in other letter case

Column names, qualifiers, aliases and function names are looked up without regard to case, but
grouping keys, aggregate calls and sort keys are found again in a query by the way they are
spelled.  `SELECT A + 1 FROM t GROUP BY a + 1` is rejected, as no part of its select list is
equal to its grouping key, although it is the same up to case as a query that is accepted.

**Matching alike.**  Two queries match alike if their select clauses, as far as they can be
read, have the same matches (`Session.MatchAlike`).  No other condition is needed: names may be
written in any case where they are only looked up.

**Main result.**  Over functions that ignore case, queries that are the same up to case and
match alike are both accepted or both rejected, and both end with the same rows or both fail
(`Session.answer_respelled`).
-/

set_option autoImplicit false

namespace ScalarSql

/-! ## Limits -/

namespace Plan

theorem rowCount_caseless (term : Syntax.Term) : rowCount term.caseless = rowCount term := by
  cases term with
  | literal value => cases value <;> rfl
  | _ => rfl

theorem rowCountOr_congr (default : Nat) {left right : Option Syntax.Term}
    (same : left.map Syntax.Term.caseless = right.map Syntax.Term.caseless) :
    rowCountOr default left = rowCountOr default right := by
  have caseless : ∀ term : Option Syntax.Term,
      rowCountOr default term = rowCountOr default (term.map Syntax.Term.caseless) := by
    intro term
    cases term with
    | none => rfl
    | some term => exact (rowCount_caseless term).symm
  rw [caseless, same, ← caseless]

theorem alike_limitBy {session : Session} {left right : Plan} (input : session.SameRows left right)
    {limit otherLimit offset otherOffset : Option Syntax.Term}
    (limits : limit.map Syntax.Term.caseless = otherLimit.map Syntax.Term.caseless)
    (offsets : offset.map Syntax.Term.caseless = otherOffset.map Syntax.Term.caseless) :
    SucceedAlike session.SameRows (limitBy limit offset left)
      (limitBy otherLimit otherOffset right) := by
  have none : ∀ {first second : Option Syntax.Term},
      first.map Syntax.Term.caseless = second.map Syntax.Term.caseless →
        first.isNone = second.isNone := by
    intro first second same
    rw [← Option.isNone_map (f := Syntax.Term.caseless), same, Option.isNone_map]
  unfold limitBy
  rw [none limits, none offsets, rowCountOr_congr _ limits, rowCountOr_congr _ offsets]
  split
  · exact .ok _ _ input
  · refine (SucceedAlike.refl _).bind ?_
    rintro count _ rfl
    refine (SucceedAlike.refl _).bind ?_
    rintro skipped _ rfl
    exact .ok _ _ (input.limit count skipped)

end Plan

namespace Session

variable {session : Session}

/-- The plan of a statement, ready to be executed. -/
def prepare (session : Session) (statement : Syntax.Statement) : Resolving Plan := do
  let draft ← Plan.ofStatement session.tableColumns statement
  let analyzed ← session.analyze draft
  session.settle session.config.maxPasses analyzed

theorem answer_eq (statement : Syntax.Statement) :
    session.answer statement = (do
      let plan ← session.prepare statement
      session.execute plan) := by
  simp only [answer, prepare, bind_assoc]

/-- A typed plan always settles, and no invocations are numbered on the way. -/
theorem exists_settle {plan : Plan} {schema : Schema}
    (typed : Plan.HasSchema session.catalog plan schema) (next : Nat) :
    ∃ settled, session.settle session.config.maxPasses plan next = .ok (settled, next) := by
  cases session.config.maxPasses with
  | zero => exact ⟨plan, rfl⟩
  | succ passes => exact ⟨plan.optimize, settle_eq typed passes next⟩

/-- Two results with the same rows, whatever their columns are called. -/
def SameResult (left right : QueryResult) : Prop := left.rows = right.rows

/-- **Plans of the same rows** are settled and executed alike. -/
theorem SameRows.alike_settle {left right : Plan} (same : session.SameRows left right) :
    RunAlike (fun plan other : Plan =>
        SucceedAlike SameResult (session.execute plan) (session.execute other))
      (session.analyze left >>= session.settle session.config.maxPasses)
      (session.analyze right >>= session.settle session.config.maxPasses) := by
  simp only [analyze, Plan.analyze, bind_assoc, pure_bind]
  refine (RunAlike.computed same).bind ?_
  rintro ⟨analyzed, schema⟩ ⟨other, otherSchema⟩
    ⟨rows, ⟨_, _, accepted⟩, _, _, otherAccepted⟩ start begin
  have typed := Plan.hasSchema_of_analyzeNode accepted
  have otherTyped := Plan.hasSchema_of_analyzeNode otherAccepted
  obtain ⟨settled, result⟩ := exists_settle typed start
  obtain ⟨otherSettled, otherResult⟩ := exists_settle otherTyped begin
  have executes : ∀ analyzed : Plan, (analyzed.mapExprs session.rewriting).execute session.catalog
      session.config.onError = (session.rowsOf analyzed).map fun result =>
        { columns := result.1.columns, rows := result.2 } := by
    intro analyzed
    rw [Plan.execute_eq_executeFrom, Plan.executeFrom_eq_executeRows]
    rfl
  rw [result, otherResult]
  refine .ok _ _ ?_
  dsimp only
  rw [execute_of_settle typed result, execute_of_settle otherTyped otherResult, executes, executes]
  exact rows.map fun _ _ sameRows => sameRows

/-- The select clauses of both queries, as far as they can be read, match alike. -/
def MatchAlike (session : Session) (query other : Syntax.Query) : Prop :=
  ∀ (select otherSelect : Syntax.Select) (parts otherParts : SelectParts),
    query.body = .select select → other.body = .select otherSelect →
      Plan.readSelect session.tableColumns select query.order = .ok parts →
        Plan.readSelect session.tableColumns otherSelect other.order = .ok otherParts →
          parts.SameMatches otherParts

/-- Respelled queries have plans of the same rows if they match alike. -/
theorem alike_ofQuery (insensitive : session.registry.caseSensitive = false)
    {query other : Syntax.Query} (same : query.caseless = other.caseless)
    (matching : session.MatchAlike query other) :
    SucceedAlike session.SameRows (Plan.ofQuery session.tableColumns query)
      (Plan.ofQuery session.tableColumns other) := by
  have ignores : session.scope.IgnoresCase := ⟨insensitive, rfl⟩
  obtain ⟨body, order, limit, offset, -⟩ := Syntax.Query.mk.inj same
  unfold Plan.ofQuery
  cases isSelect : query.body with
  | other =>
      cases otherSelect : other.body with
      | other => exact .error _ _
      | select clause =>
          rw [isSelect, otherSelect] at body
          cases body
  | select clause =>
      cases otherSelect : other.body with
      | other =>
          rw [isSelect, otherSelect] at body
          cases body
      | select otherClause =>
          rw [isSelect, otherSelect] at body
          have clauses := Syntax.QueryBody.select.inj body
          dsimp only
          rw [Plan.ofSelect_eq, Plan.ofSelect_eq]
          have plans : SucceedAlike session.SameRows
              (Plan.readSelect session.tableColumns clause query.order >>= Plan.assemble)
              (Plan.readSelect session.tableColumns otherClause other.order >>= Plan.assemble) := by
            refine (Plan.alike_readSelect _ clauses order).computed.bind ?_
            rintro parts otherParts ⟨respelled, read, otherRead⟩
            have matched := matching clause otherClause parts otherParts isSelect otherSelect read
              otherRead
            exact matched.sameRows respelled ignores (Plan.of_readSelect read).2.1
              (Plan.of_readSelect otherRead).2.1 (Plan.columns_of_readSelect read)
              (Plan.columns_of_readSelect otherRead)
          exact plans.bind fun _ _ rows => Plan.alike_limitBy rows limit offset

/-- **Letter case never changes a query** other than through what its expressions match: if
two queries are the same up to case and match alike, both are accepted or neither is, and
both have a result with the same rows or neither has one. -/
theorem answer_respelled (session : Session) (query other : Syntax.Query)
    (insensitive : session.registry.caseSensitive = false)
    (same : query.caseless = other.caseless) (matching : session.MatchAlike query other) :
    RunAlike (fun _ _ => True) (session.prepare (.query query)) (session.prepare (.query other)) ∧
      RunAlike SameResult (session.answer (.query query)) (session.answer (.query other)) := by
  have drafts := alike_ofQuery insensitive same matching
  have prepared : RunAlike (fun plan another : Plan =>
        SucceedAlike SameResult (session.execute plan) (session.execute another))
      (session.prepare (.query query)) (session.prepare (.query other)) := by
    unfold prepare
    exact (RunAlike.lift drafts).bind fun _ _ rows => rows.alike_settle
  refine ⟨prepared.imp fun _ _ _ => trivial, ?_⟩
  rw [answer_eq, answer_eq]
  exact prepared.bind fun _ _ executed => .lift executed

/-- `SELECT a AS k, SUM(b) FROM t GROUP BY a ORDER BY k` and the same query
in other letter case, with each of `SUM` and `A` spelled alike throughout. -/
theorem answer_respelled_of_sums :
    let name (text : String) : Syntax.Name := ⟨text, none⟩
    let batch : Batch := {
      columns := [("a", .int32), ("b", .int32)]
      rows := [[.number 2, .number 20], [.number 1, .number 1], [.number 1, .number 9]] }
    let session := match (ofConfig {} {}).registerTable "t" [batch] with
      | .ok made => made
      | .error _ => ofConfig {} {}
    let written (function key value item sorted : String) : Syntax.Query :=
      let sum : Syntax.Term := .call [name function] ⟨false, "(", ")"⟩ [.identifier (name value)]
      { body := .select {
          distinct := false
          items := [.aliased (.identifier (name key)) (name item), .bare sum]
          sources := [⟨.table [name "t"] none, false, "t"⟩]
          condition := none
          grouping := .terms [.identifier (name key)]
          having := none }
        order := [⟨.identifier (name sorted), none, none, ""⟩]
        limit := none, offset := none, spelling := "" }
    let query := written "SUM" "a" "b" "k" "k"
    let other := written "sum" "A" "B" "k" "K"
    let row (key sum : Int) : Row := [.int (BoundedInt.wrap key), .long (BoundedInt.wrap sum)]
    let result (name : String) : QueryResult :=
      { columns := [⟨"k", .int⟩, ⟨name, .long⟩], rows := [row 1 10, row 2 20] }
    session.registry.caseSensitive = false ∧ query.caseless = other.caseless ∧
      session.MatchAlike query other ∧
      session.answer (.query query) 0 = .ok (result "SUM(b)", 0) ∧
      session.answer (.query other) 0 = .ok (result "sum(B)", 0) ∧
      RunAlike (fun _ _ => True) (session.prepare (.query query)) (session.prepare (.query other)) ∧
      RunAlike SameResult (session.answer (.query query)) (session.answer (.query other)) := by
  intro name batch session written query other row result
  have insensitive : session.registry.caseSensitive = false := by
    subst session batch
    rfl
  have same : query.caseless = other.caseless := by
    subst query other written name
    rfl
  let parts (function key value sorted : String) : SelectParts :=
    let sum : Expr := .call function [.column value]
    { input := .scan "t" none
      keys := [⟨.column key, key⟩]
      part := {
        columns := [⟨.column key, "k"⟩, ⟨sum, sum.text⟩]
        hidden := []
        having := none }
      sorting := [⟨.column sorted, true, true⟩] }
  have matching : session.MatchAlike query other := by
    intro select otherSelect clause otherClause isSelect isOther read otherRead
    cases isSelect
    cases isOther
    have readsParts : clause = parts "SUM" "a" "b" "k" := by
      refine Except.ok.inj (read.symm.trans ?_)
      subst session query parts written batch name
      rfl
    have readsOther : otherClause = parts "sum" "A" "B" "K" := by
      refine Except.ok.inj (otherRead.symm.trans ?_)
      subst session other parts written batch name
      rfl
    subst readsParts readsOther
    have sum : (parts "SUM" "a" "b" "k").SameOver (parts "sum" "A" "B" "K")
        (.call "SUM" [.column "b"]) (.call "sum" [.column "B"]) := by
      have projected : (parts "SUM" "a" "b" "k").overGroups (.call "SUM" [.column "b"])
          = .column "SUM(b)" := by
        have called : AggregateFunction.ofName? "SUM" = some .sum := rfl
        rw [SelectParts.overGroups, if_pos (by rfl), Expr.rewritten, Expr.withoutAggregates, called]
        rfl
      have otherProjected : (parts "sum" "A" "B" "K").overGroups (.call "sum" [.column "B"])
          = .column "SUM(B)" := by
        have called : AggregateFunction.ofName? "sum" = some .sum := rfl
        rw [SelectParts.overGroups, if_pos (by rfl), Expr.rewritten, Expr.withoutAggregates, called]
        rfl
      refine ⟨rfl, ?_⟩
      rw [projected, otherProjected]
      exact congrArg Expr.column (by decide)
    have columns : List.Forall₂ (fun item other : NamedExpr =>
        (parts "SUM" "a" "b" "k").SameOver (parts "sum" "A" "B" "K") item.expr other.expr)
        (parts "SUM" "a" "b" "k").part.columns (parts "sum" "A" "B" "K").part.columns :=
      .cons ⟨rfl, rfl⟩ (.cons sum .nil)
    have reads : (parts "SUM" "a" "b" "k").reads? (.column "k")
        = some (Expr.caseless (.column "a")) := by
      subst parts
      rfl
    have otherReads : (parts "sum" "A" "B" "K").reads? (.column "K")
        = some (Expr.caseless (.column "A")) := by
      subst parts
      rfl
    have sameAggregates : SameAggregates (parts "SUM" "a" "b" "k").aggregates
        (parts "sum" "A" "B" "K").aggregates := by
      refine ⟨.of_forall₂ (.cons rfl .nil), fun name => ?_⟩
      have aggregates : (parts "SUM" "a" "b" "k").aggregates
          = [⟨.sum, .column "b", "SUM(b)"⟩] := rfl
      have otherAggregates : (parts "sum" "A" "B" "K").aggregates
          = [⟨.sum, .column "B", "SUM(B)"⟩] := rfl
      have sameName : Text.sameName "SUM(b)" name = Text.sameName "SUM(B)" name :=
        Text.sameName_congr_left (by decide) name
      rw [aggregates, otherAggregates, List.find?_singleton, List.find?_singleton, sameName]
      split
      · rfl
      · rfl
    exact {
      columns
      having := .nil
      aggregates := sameAggregates
      computed := .of_forall₂ columns
      sorting := .cons (reads.trans (Eq.symm otherReads)) .nil
      again := .inl Iff.rfl }
  refine ⟨insensitive, same, matching, ?_, ?_, ?_⟩
  · subst session query result row written batch name
    rfl
  · subst session other result row written batch name
    rfl
  · exact answer_respelled session query other insensitive same matching

end Session

end ScalarSql
