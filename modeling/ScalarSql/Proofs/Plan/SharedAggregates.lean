import ScalarSql.Proofs.Expr.Legible
import ScalarSql.Proofs.Plan.References

/-!
# Aggregate calls that share a column

An aggregate call is replaced by a reference to the column of its text, and calls of one
text share a column.  Whether calls that share a column are the same call is therefore a
question about texts.

**The function is always the same**, because no name of an aggregate function holds the
parenthesis that follows it.  **The arguments are the same if they are legible**,
`Plan.aggregates_of_ofSelect`.  Without that they need not be: a minus sign in front of a
binary operation reads like one in front of its first operand,
`AggregateTerm.text_negate_binary`, so that `SUM(-(a + b))` is given the column of
`SUM(-a + b)`.
-/

set_option autoImplicit false

namespace ScalarSql

/-- An aggregate call as it is written. -/
structure AggregateTerm where
  function : AggregateFunction
  arguments : List Expr

namespace AggregateTerm

/-- The text of the call, which is the name of its column. -/
def text (term : AggregateTerm) : String := (Expr.call term.function.text term.arguments).text

/-- Whether the arguments can be told from their texts. -/
def legible (term : AggregateTerm) : Bool := Expr.allLegible term.arguments

/-- The aggregate that the call asks for. -/
def aggregate (term : AggregateTerm) : Aggregate :=
  Expr.aggregateCall term.function term.arguments

theorem isPlainName_text (function : AggregateFunction) :
    Expr.isPlainName function.text = true := by
  cases function <;> decide

theorem text_injective {left right : AggregateFunction} (same : left.text = right.text) :
    left = right := by
  cases left <;> cases right <;> first | rfl | exact absurd same (by decide)

/-- Calls of the same text are calls of the same function. -/
theorem function_eq_of_text {left right : AggregateTerm} (same : left.text = right.text) :
    left.function = right.function := by
  have written : ∀ term : AggregateTerm, ∃ arguments,
      term.text.toList = term.function.text.toList ++ '(' :: arguments := by
    intro term
    refine ⟨(", ".intercalate (Expr.renderAll term.arguments)).toList ++ [')'], ?_⟩
    simp [text, Expr.text, Expr.render]
  have free : ∀ function : AggregateFunction, '(' ∉ function.text.toList := by
    intro function
    cases function <;> decide
  obtain ⟨leftRest, leftWritten⟩ := written left
  obtain ⟨rightRest, rightWritten⟩ := written right
  have texts := leftWritten.symm.trans ((congrArg String.toList same).trans rightWritten)
  have names := (Piece.append_cons_inj_of_not_mem (free _) (free _) texts).1
  exact text_injective (String.toList_inj.mp names)

/-- Legible calls of the same text are equal. -/
theorem eq_of_text {left right : AggregateTerm} (leftLegible : left.legible = true)
    (rightLegible : right.legible = true) (same : left.text = right.text) : left = right := by
  have whole : ∀ {term : AggregateTerm}, term.legible = true →
      (Expr.call term.function.text term.arguments).legible = true := by
    intro term legible
    rw [Expr.legible, isPlainName_text, Bool.true_and]
    exact legible
  have calls := Expr.eq_of_text (whole leftLegible) (whole rightLegible) same
  cases left
  cases right
  rw [AggregateTerm.mk.injEq]
  exact ⟨function_eq_of_text same, (Expr.call.inj calls).2⟩

/-- A minus sign in front of a binary operation reads like one in front of its first
operand. -/
theorem text_negate_binary (function : AggregateFunction) (op : Operator) {left : Expr}
    (right : Expr) (single : left.isBinary = false) :
    text ⟨function, [.negate (.binary op left right)]⟩
      = text ⟨function, [.binary op (.negate left) right]⟩ := by
  have operand : left.render true = left.render false := by
    cases left with
    | binary _ _ _ => cases single
    | _ => rfl
  simp [text, Expr.text, Expr.render, Expr.renderAll, operand, String.append_assoc]

end AggregateTerm

/-! ## The calls of a select clause -/

namespace Expr

mutual

/-- The aggregate calls in an expression as they are written. -/
def aggregateTerms : Expr → List AggregateTerm
  | .column _ | .literal _ => []
  | .binary _ left right => left.aggregateTerms ++ right.aggregateTerms
  | .not operand | .negate operand | .isNull operand | .isNotNull operand
  | .cast operand _ _ | .field operand _ => operand.aggregateTerms
  | .call name arguments =>
      match AggregateFunction.ofName? name with
      | some function => [{ function, arguments }]
      | none => aggregateTermsOfAll arguments
  | .invocation _ arguments => aggregateTermsOfAll arguments

/-- The aggregate calls in several expressions as they are written. -/
def aggregateTermsOfAll : List Expr → List AggregateTerm
  | [] => []
  | first :: rest => first.aggregateTerms ++ aggregateTermsOfAll rest

end

theorem aggregateCallsOfAll_eq_map {arguments : List Expr}
    (each : ∀ argument ∈ arguments,
      argument.aggregateCalls = argument.aggregateTerms.map AggregateTerm.aggregate) :
    aggregateCallsOfAll arguments
      = (aggregateTermsOfAll arguments).map AggregateTerm.aggregate := by
  induction arguments with
  | nil => rfl
  | cons first rest ih =>
      obtain ⟨here, later⟩ := List.forall_mem_cons.mp each
      rw [aggregateCallsOfAll, aggregateTermsOfAll, List.map_append, here, ih later]

theorem aggregateCalls_eq_map (expr : Expr) :
    expr.aggregateCalls = expr.aggregateTerms.map AggregateTerm.aggregate := by
  induction expr using inductionOn with
  | column _ | literal _ => rfl
  | binary op left right leftEq rightEq =>
      rw [aggregateCalls, aggregateTerms, List.map_append, leftEq, rightEq]
  | not operand operandEq | negate operand operandEq | isNull operand operandEq
  | isNotNull operand operandEq | cast operand _ _ operandEq | field operand _ operandEq =>
      exact operandEq
  | call name arguments each =>
      cases known : AggregateFunction.ofName? name with
      | some function =>
          simp only [aggregateCalls, aggregateTerms, known]
          rfl
      | none =>
          simp only [aggregateCalls, aggregateTerms, known]
          exact aggregateCallsOfAll_eq_map each
  | invocation function arguments each => exact aggregateCallsOfAll_eq_map each

end Expr

namespace Plan

/-- The aggregate calls of a part as they are written: in the select list, in the hidden
sort keys and in the condition on groups. -/
def GroupedPart.aggregateTerms (part : GroupedPart) : List AggregateTerm :=
  (part.columns.flatMap fun item => item.expr.aggregateTerms)
    ++ (part.hidden.flatMap fun item => item.expr.aggregateTerms)
    ++ part.having.toList.flatMap Expr.aggregateTerms

theorem GroupedPart.aggregateCalls_eq_map (part : GroupedPart) :
    part.aggregateCalls = part.aggregateTerms.map AggregateTerm.aggregate := by
  have having : part.having.toList.flatMap Expr.aggregateCalls
      = (part.having.toList.flatMap Expr.aggregateTerms).map AggregateTerm.aggregate := by
    rw [List.map_flatMap, funext Expr.aggregateCalls_eq_map]
  simp only [aggregateCalls, aggregateTerms, NamedExpr.aggregateCalls, List.map_append,
    having, List.map_flatMap, Expr.aggregateCalls_eq_map]

end Plan

namespace SelectParts

/-- The column that a call is given among the aggregates of the query. -/
def columnOf (parts : SelectParts) (term : AggregateTerm) : Option Nat :=
  parts.aggregates.findIdx? (·.name == term.text)

variable {parts : SelectParts}

/-- Every call of the query has a column. -/
theorem columnOf_of_mem {term : AggregateTerm} (written : term ∈ parts.part.aggregateTerms) :
    ∃ index, parts.columnOf term = some index := by
  have called : term.aggregate ∈ parts.part.aggregateCalls := by
    rw [parts.part.aggregateCalls_eq_map]
    exact List.mem_map_of_mem written
  have found : (parts.aggregates.find? (·.name == term.text)).isSome = true := by
    rw [aggregates, find?_addAggregates _ (fun left right same => by rw [same]),
      List.nil_append, List.find?_isSome]
    exact ⟨_, called, beq_self_eq_true _⟩
  rw [← Option.isSome_iff_exists, columnOf, List.findIdx?_isSome, List.any_eq_true]
  rwa [List.find?_isSome] at found

/-- Calls share a column if and only if they have the same text. -/
theorem columnOf_eq_iff {left right : AggregateTerm}
    (leftWritten : left ∈ parts.part.aggregateTerms) :
    parts.columnOf left = parts.columnOf right ↔ left.text = right.text := by
  constructor
  · intro shared
    obtain ⟨index, leftFound⟩ := columnOf_of_mem leftWritten
    have rightFound := shared.symm.trans leftFound
    obtain ⟨_, leftNamed, -⟩ := List.findIdx?_eq_some_iff_getElem.mp leftFound
    obtain ⟨_, rightNamed, -⟩ := List.findIdx?_eq_some_iff_getElem.mp rightFound
    exact (eq_of_beq leftNamed).symm.trans (eq_of_beq rightNamed)
  · intro texts
    rw [columnOf, columnOf, texts]

/-- A negated binary operation shares the column of the operation on a negated operand,
whatever the operands are. -/
theorem columnOf_negate_binary (function : AggregateFunction) (op : Operator) {left : Expr}
    (right : Expr) (single : left.isBinary = false) :
    parts.columnOf ⟨function, [.negate (.binary op left right)]⟩
      = parts.columnOf ⟨function, [.binary op (.negate left) right]⟩ := by
  rw [columnOf, columnOf, AggregateTerm.text_negate_binary function op right single]

end SelectParts

namespace Plan

variable {tableColumns : String → List String} {select : Syntax.Select}
  {order : List Syntax.OrderItem} {parts : SelectParts} {plan : Plan}

/-- **Which aggregate calls share a column.**  Planning a select clause collects the
aggregates of its select list, of its hidden sort keys and of its condition on groups, each
once.  Every call has a column; calls that share one are calls of the same function, and
legible calls share a column only if they are equal. -/
theorem aggregates_of_ofSelect (read : readSelect tableColumns select order = .ok parts)
    (planned : ofSelect tableColumns select order = .ok plan) :
    parts.part.collectAggregates [] = .ok (parts.part.withoutAggregates, parts.aggregates) ∧
      ∀ left ∈ parts.part.aggregateTerms, ∀ right ∈ parts.part.aggregateTerms,
        ∃ leftColumn rightColumn,
          parts.columnOf left = some leftColumn ∧ parts.columnOf right = some rightColumn ∧
            (leftColumn = rightColumn → left.function = right.function) ∧
            (left.legible = true → right.legible = true →
              (leftColumn = rightColumn ↔ left = right)) := by
  rw [ofSelect_eq, read] at planned
  have assembled : assemble parts = .ok plan := planned
  obtain ⟨_, grouped, -⟩ := bind_eq_ok.mp assembled
  obtain ⟨_, collected, -⟩ := bind_eq_ok.mp grouped
  refine ⟨collected.trans (congrArg _ (GroupedPart.eq_of_collectAggregates collected)), ?_⟩
  intro left leftWritten right rightWritten
  obtain ⟨leftColumn, leftFound⟩ := SelectParts.columnOf_of_mem leftWritten
  obtain ⟨rightColumn, rightFound⟩ := SelectParts.columnOf_of_mem rightWritten
  have texts : leftColumn = rightColumn ↔ left.text = right.text := by
    rw [← SelectParts.columnOf_eq_iff leftWritten, leftFound, rightFound, Option.some.injEq]
  refine ⟨leftColumn, rightColumn, leftFound, rightFound, ?_, ?_⟩
  · intro shared
    exact AggregateTerm.function_eq_of_text (texts.mp shared)
  · intro leftLegible rightLegible
    constructor
    · intro shared
      exact AggregateTerm.eq_of_text leftLegible rightLegible (texts.mp shared)
    · rintro rfl
      exact texts.mpr rfl

/-- A sum and the sum of another expression have columns of their own. -/
theorem aggregates_of_ofSelect_of_sums :
    let name := fun text : String => Syntax.Term.identifier ⟨text, none⟩
    let plus : Syntax.BinarySign :=
      { meaning := some (.arithmetic .add), label := "Plus", spelling := "+" }
    let sum := fun argument => Syntax.Term.call [⟨"sum", none⟩] ⟨false, "(", ")"⟩ [argument]
    let select : Syntax.Select := {
      distinct := false
      items := [.bare (sum (.binary (.minus (name "a")) plus (name "b"))), .bare (sum (name "a"))]
      sources := [{ source := .table [⟨"t", none⟩] none, joined := false, spelling := "t" }]
      condition := none
      grouping := .terms []
      having := none }
    let first : AggregateTerm :=
      ⟨.sum, [.binary (.arithmetic .add) (.negate (.column "a")) (.column "b")]⟩
    let second : AggregateTerm := ⟨.sum, [.column "a"]⟩
    ∃ parts plan, readSelect (fun _ => ["a", "b"]) select [] = .ok parts ∧
      ofSelect (fun _ => ["a", "b"]) select [] = .ok plan ∧
      parts.part.aggregateTerms = [first, second] ∧
      ∃ firstColumn secondColumn, parts.columnOf first = some firstColumn ∧
        parts.columnOf second = some secondColumn ∧ firstColumn ≠ secondColumn := by
  intro name plus sum select first second
  have read : readSelect (fun _ => ["a", "b"]) select [] = .ok _ := rfl
  have planned : ofSelect (fun _ => ["a", "b"]) select [] = .ok _ := rfl
  obtain ⟨-, columns⟩ := aggregates_of_ofSelect read planned
  obtain ⟨firstColumn, secondColumn, firstFound, secondFound, -, shared⟩ :=
    columns first List.mem_cons_self second (List.mem_cons_of_mem _ List.mem_cons_self)
  refine ⟨_, _, rfl, rfl, rfl, firstColumn, secondColumn, firstFound, secondFound, ?_⟩
  intro same
  have equal : first = second := (shared (by decide) (by decide)).mp same
  cases List.head_eq_of_cons_eq (AggregateTerm.mk.inj equal).2

end Plan

end ScalarSql
