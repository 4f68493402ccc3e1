import ScalarSql.Proofs.Expr.Columns
import ScalarSql.Proofs.Plan.Select
import ScalarSql.Proofs.Plan.Typing

/-!
# References of grouped queries

Above a grouping the expressions of a query refer to the output columns of the grouping by
name.  A reference stands for a grouping key or for an aggregate call, or it is a column
that the query itself writes, a stray one.  References are resolved to the first output
column of their name, ignoring case, which need not be the column they stand for.

**References.**  `Expr.references` lists the columns that a rewritten expression refers to
together with what they stand for; the names agree with those of the rewritten expression,
`Expr.columnNames_rewritten`.

**Exact condition.**  `Reference.Clear` is a condition on the keys and the aggregate calls
of the query alone: no earlier key has the name of a key, and the first output of the name
of an aggregate call is that of the same call.  `grouped_references_resolve` shows that a
reference of an accepted query is resolved to a column that holds what it stands for
exactly when it is clear.
-/

set_option autoImplicit false

namespace ScalarSql

/-! ## What references stand for -/

/-- What a column reference above a grouping stands for. -/
inductive Standing where
  /-- The grouping key at a position. -/
  | key (position : Nat)
  /-- A call of an aggregate function. -/
  | aggregate (function : AggregateFunction) (argument : Expr)
  /-- An expression with an aggregate call that reads like a grouping key once the call is
  written as a column. -/
  | mistaken
  /-- A column that the query writes outside aggregate calls and keys. -/
  | stray

/-- A column reference and what it stands for. -/
structure Reference where
  name : String
  standing : Standing

namespace Expr

/-- The reference to the grouping key that an expression equals once its aggregate calls
are written as columns. -/
def keyReference? (keys : List NamedExpr) (expr : Expr) : Option Reference :=
  (keys.findIdx? fun key => same key.expr expr.withoutAggregates).bind fun position =>
    keys[position]?.map fun key =>
      { name := key.name
        standing := if expr.aggregateCalls.isEmpty then .key position else .mistaken }

mutual

/-- The column references of an expression above a grouping, in order. -/
def references (keys : List NamedExpr) (expr : Expr) : List Reference :=
  match keyReference? keys expr with
  | some reference => [reference]
  | none =>
      match expr with
      | .column name => [{ name, standing := .stray }]
      | .literal _ => []
      | .binary _ left right => left.references keys ++ right.references keys
      | .not operand | .negate operand | .isNull operand | .isNotNull operand
      | .cast operand _ _ | .field operand _ => operand.references keys
      | .call name arguments =>
          match AggregateFunction.ofName? name with
          | some function =>
              let call := aggregateCall function arguments
              [{ name := call.name, standing := .aggregate call.function call.expr }]
          | none => referencesOfAll keys arguments
      | .invocation _ arguments => referencesOfAll keys arguments

/-- The column references of several expressions. -/
def referencesOfAll (keys : List NamedExpr) : List Expr → List Reference
  | [] => []
  | first :: rest => first.references keys ++ referencesOfAll keys rest

end

/-- An expression with columns in place of aggregate calls and then of keys. -/
def rewritten (keys : List NamedExpr) (expr : Expr) : Expr :=
  expr.withoutAggregates.replace (keyColumn? keys)

/-- The two passes find the same key. -/
theorem keyColumn?_withoutAggregates (keys : List NamedExpr) (expr : Expr) :
    keyColumn? keys expr.withoutAggregates
      = (keyReference? keys expr).map fun reference => .column reference.name := by
  simp only [keyColumn?, keyReference?, List.find?_eq_bind_findIdx?_getElem?]
  cases keys.findIdx? fun key => same key.expr expr.withoutAggregates with
  | none => rfl
  | some position => cases found : keys[position]? <;> simp [found]

theorem columnNames_rewrittenAll {keys : List NamedExpr} {arguments : List Expr}
    (each : ∀ argument ∈ arguments,
      (argument.rewritten keys).columnNames = (argument.references keys).map Reference.name) :
    (replaceAll (keyColumn? keys) (withoutAllAggregates arguments)).flatMap columnNames
      = (referencesOfAll keys arguments).map Reference.name := by
  induction arguments with
  | nil => rfl
  | cons first rest ih =>
      obtain ⟨here, later⟩ := List.forall_mem_cons.mp each
      have head : (first.withoutAggregates.replace (keyColumn? keys)).columnNames
          = (first.references keys).map Reference.name := here
      simp only [withoutAllAggregates, replaceAll, referencesOfAll, List.flatMap_cons,
        List.map_append, head, ih later]

/-- A rewritten expression refers to a key, or its parts are rewritten. -/
theorem columnNames_rewritten_of_parts {keys : List NamedExpr} {expr : Expr}
    (parts : keyReference? keys expr = none → keyColumn? keys expr.withoutAggregates = none →
      (expr.rewritten keys).columnNames = (expr.references keys).map Reference.name) :
    (expr.rewritten keys).columnNames = (expr.references keys).map Reference.name := by
  have passes := keyColumn?_withoutAggregates keys expr
  cases found : keyReference? keys expr with
  | none =>
      rw [found] at passes
      exact parts found passes
  | some reference =>
      rw [found] at passes
      have replaced : expr.rewritten keys = .column reference.name := by
        rw [rewritten, replace.eq_def, passes]
        rfl
      have referred : expr.references keys = [reference] := by
        rw [references.eq_def, found]
      rw [replaced, referred]
      rfl

/-- **The columns of a rewritten expression are its references.** -/
theorem columnNames_rewritten (keys : List NamedExpr) (expr : Expr) :
    (expr.rewritten keys).columnNames = (expr.references keys).map Reference.name := by
  induction expr using inductionOn with
  | column name =>
      refine columnNames_rewritten_of_parts fun found kept => ?_
      rw [rewritten, replace.eq_def, kept, references.eq_def, found]
      rfl
  | literal value =>
      refine columnNames_rewritten_of_parts fun found kept => ?_
      rw [rewritten, replace.eq_def, kept, references.eq_def, found]
      rfl
  | binary op left right leftNames rightNames =>
      refine columnNames_rewritten_of_parts fun found kept => ?_
      rw [rewritten, replace.eq_def, kept, references.eq_def, found]
      rw [rewritten] at leftNames rightNames
      simp only [withoutAggregates, columnNames_binary, List.map_append, leftNames, rightNames]
  | not operand names | negate operand names | isNull operand names
  | isNotNull operand names | cast operand _ _ names | field operand _ names =>
      refine columnNames_rewritten_of_parts fun found kept => ?_
      rw [rewritten, replace.eq_def, kept, references.eq_def, found]
      exact names
  | call name arguments each =>
      refine columnNames_rewritten_of_parts fun found kept => ?_
      rw [rewritten, replace.eq_def, kept, references.eq_def, found]
      cases known : AggregateFunction.ofName? name with
      | some function => simp only [withoutAggregates, known]; rfl
      | none =>
          simp only [withoutAggregates, known, columnNames_call]
          exact columnNames_rewrittenAll each
  | invocation function arguments each =>
      refine columnNames_rewritten_of_parts fun found kept => ?_
      rw [rewritten, replace.eq_def, kept, references.eq_def, found]
      simp only [withoutAggregates, columnNames_invocation]
      exact columnNames_rewrittenAll each

end Expr

/-- A reference that stands for a key has the name of the key. -/
def Reference.Named (keys : List NamedExpr) (reference : Reference) : Prop :=
  ∀ position, reference.standing = .key position →
    ∃ key, keys[position]? = some key ∧ key.name = reference.name

namespace Expr

theorem named_of_keyReference? {keys : List NamedExpr} {expr : Expr} {reference : Reference}
    (found : keyReference? keys expr = some reference) : reference.Named keys := by
  intro position standing
  obtain ⟨index, _, found⟩ := Option.bind_eq_some_iff.mp found
  obtain ⟨key, atIndex, rfl⟩ := Option.map_eq_some_iff.mp found
  dsimp only at standing
  split at standing
  · cases standing
    exact ⟨key, atIndex, rfl⟩
  · cases standing

theorem named_of_parts {keys : List NamedExpr} {expr : Expr}
    (parts : keyReference? keys expr = none →
      ∀ reference ∈ expr.references keys, reference.Named keys) :
    ∀ reference ∈ expr.references keys, reference.Named keys := by
  cases found : keyReference? keys expr with
  | none => exact parts found
  | some reference =>
      rw [references.eq_def, found]
      exact List.forall_mem_singleton.mpr (named_of_keyReference? found)

theorem named_of_referencesOfAll {keys : List NamedExpr} {arguments : List Expr}
    (each : ∀ argument ∈ arguments, ∀ reference ∈ argument.references keys,
      reference.Named keys) :
    ∀ reference ∈ referencesOfAll keys arguments, reference.Named keys := by
  induction arguments with
  | nil => exact fun _ member => nomatch member
  | cons first rest ih =>
      obtain ⟨here, later⟩ := List.forall_mem_cons.mp each
      simp only [referencesOfAll, List.forall_mem_append]
      exact ⟨here, ih later⟩

/-- The references of an expression name the keys that they stand for. -/
theorem named_of_references (keys : List NamedExpr) (expr : Expr) :
    ∀ reference ∈ expr.references keys, reference.Named keys := by
  induction expr using inductionOn with
  | column name =>
      refine named_of_parts fun found => ?_
      rw [references.eq_def, found]
      exact List.forall_mem_singleton.mpr fun _ standing => nomatch standing
  | literal value =>
      refine named_of_parts fun found => ?_
      rw [references.eq_def, found]
      exact fun _ member => nomatch member
  | binary op left right leftNamed rightNamed =>
      refine named_of_parts fun found => ?_
      rw [references.eq_def, found]
      exact List.forall_mem_append.mpr ⟨leftNamed, rightNamed⟩
  | not operand named | negate operand named | isNull operand named
  | isNotNull operand named | cast operand _ _ named | field operand _ named =>
      refine named_of_parts fun found => ?_
      rw [references.eq_def, found]
      exact named
  | call name arguments each =>
      refine named_of_parts fun found => ?_
      rw [references.eq_def, found]
      cases known : AggregateFunction.ofName? name with
      | some function =>
          simp only [known]
          exact List.forall_mem_singleton.mpr fun _ standing => nomatch standing
      | none =>
          simp only [known]
          exact named_of_referencesOfAll each
  | invocation function arguments each =>
      refine named_of_parts fun found => ?_
      rw [references.eq_def, found]
      exact named_of_referencesOfAll each

end Expr

/-! ## Where references are resolved to -/

/-- Looking up a column only looks at names. -/
theorem Schema.indexOf?_eq_names (schema : Schema) (name : String) :
    schema.indexOf? name = schema.names.findIdx? (Text.sameName · name) := by
  simp only [indexOf?, names, List.findIdx?_map]
  rfl

/-- The column at an index of the output of a grouping holds what a reference stands
for. -/
def Standing.HeldAt (keys : List NamedExpr) (aggregates : List Aggregate) :
    Standing → Nat → Prop
  | .key position, index => index = position
  | .aggregate function argument, index =>
      ∃ offset aggregate, index = keys.length + offset ∧ aggregates[offset]? = some aggregate ∧
        aggregate.function = function ∧ aggregate.expr = argument
  | .mistaken, _ | .stray, _ => False

namespace Reference

/-- No other output column is in the way of a reference: no earlier key has the name of a
key, and the first output of the name of an aggregate call, among the keys and the calls
of the query, is that call. -/
def Clear (keys : List NamedExpr) (calls : List Aggregate) (reference : Reference) : Prop :=
  match reference.standing with
  | .key position => ∀ key ∈ keys.take position, Text.sameName key.name reference.name = false
  | .aggregate function argument =>
      (∀ key ∈ keys, Text.sameName key.name reference.name = false) ∧
        ∃ first, calls.find? (Text.sameName ·.name reference.name) = some first ∧
          first.function = function ∧ first.expr = argument
  | .mistaken | .stray => False

/-- The index of the first output column of a name. -/
def indexIn (keys : List NamedExpr) (aggregates : List Aggregate) (name : String) : Option Nat :=
  (keys.map NamedExpr.name ++ aggregates.map Aggregate.name).findIdx? (Text.sameName · name)

theorem indexIn_eq {keys : List NamedExpr} {aggregates : List Aggregate} {name : String} :
    indexIn keys aggregates name =
      (keys.findIdx? (Text.sameName ·.name name)).or
        ((aggregates.findIdx? (Text.sameName ·.name name)).map (· + keys.length)) := by
  simp only [indexIn, List.findIdx?_append, List.findIdx?_map, List.length_map]
  rfl

/-- Where the first items that are found show the same, they stand at some positions. -/
theorem findIdx?_of_map_find? {α β : Type} {wanted other : α → Bool} {shown : α → β}
    {lefts rights : List α}
    (same : (lefts.find? wanted).map shown = (rights.find? other).map shown) :
    (lefts.findIdx? wanted = none ∧ rights.findIdx? other = none) ∨
      ∃ i j first second, lefts.findIdx? wanted = some i ∧ rights.findIdx? other = some j ∧
        lefts[i]? = some first ∧ rights[j]? = some second ∧ shown first = shown second := by
  rw [List.find?_eq_bind_findIdx?_getElem?, List.find?_eq_bind_findIdx?_getElem?] at same
  have found : ∀ {wanted : α → Bool} {items : List α} {i : Nat}, items.findIdx? wanted = some i →
      ∃ item, items[i]? = some item := by
    intro wanted items i atIndex
    obtain ⟨bound, -, -⟩ := List.findIdx?_eq_some_iff_getElem.mp atIndex
    exact ⟨_, List.getElem?_eq_getElem bound⟩
  cases inLeft : lefts.findIdx? wanted with
  | none =>
      cases inRight : rights.findIdx? other with
      | none => exact .inl ⟨rfl, rfl⟩
      | some j =>
          obtain ⟨second, atRight⟩ := found inRight
          simp [inLeft, inRight, atRight] at same
  | some i =>
      obtain ⟨first, atLeft⟩ := found inLeft
      cases inRight : rights.findIdx? other with
      | none => simp [inLeft, inRight, atLeft] at same
      | some j =>
          obtain ⟨second, atRight⟩ := found inRight
          simp only [inLeft, inRight, Option.bind_some, atLeft, atRight, Option.map_some,
            Option.some.injEq] at same
          exact .inr ⟨i, j, first, second, rfl, rfl, atLeft, atRight, same⟩

theorem findIdx?_eq_some_iff_take {α : Type} (wanted : α → Bool) {items : List α}
    {position : Nat} {item : α} (atPosition : items[position]? = some item)
    (holds : wanted item = true) :
    items.findIdx? wanted = some position ↔ ∀ item ∈ items.take position, wanted item = false := by
  obtain ⟨bound, rfl⟩ := List.getElem?_eq_some_iff.mp atPosition
  rw [List.findIdx?_eq_some_iff_getElem]
  constructor
  · rintro ⟨_, _, earlier⟩ item member
    obtain ⟨index, inTake, rfl⟩ := List.mem_take_iff_getElem.mp member
    exact Bool.not_eq_true _ ▸ earlier index (by omega)
  · intro earlier
    refine ⟨bound, holds, fun index before => ?_⟩
    rw [Bool.not_eq_true]
    exact earlier _ (List.mem_take_iff_getElem.mpr ⟨index, by omega, rfl⟩)

/-- **A reference reaches what it stands for exactly when it is clear.** -/
theorem heldAt_iff_clear {keys : List NamedExpr} {calls : List Aggregate}
    {reference : Reference} {index : Nat} (named : reference.Named keys)
    (found : indexIn keys (addAggregates [] calls) reference.name = some index) :
    reference.standing.HeldAt keys (addAggregates [] calls) index
      ↔ reference.Clear keys calls := by
  obtain ⟨name, standing⟩ := reference
  rw [indexIn_eq] at found
  cases standing with
  | mistaken => rfl
  | stray => rfl
  | key position =>
      obtain ⟨key, atPosition, rfl⟩ := named position rfl
      have reached : keys.findIdx? (Text.sameName ·.name key.name) = some index := by
        cases inKeys : keys.findIdx? (Text.sameName ·.name key.name) with
        | some first => simpa [inKeys] using found
        | none =>
            have refused := List.findIdx?_eq_none_iff.mp inKeys key
              (List.mem_of_getElem? atPosition)
            rw [Text.sameName_refl] at refused
            cases refused
      have earliest := findIdx?_eq_some_iff_take
        (fun item : NamedExpr => Text.sameName item.name key.name) atPosition
        (Text.sameName_refl key.name)
      rw [reached, Option.some.injEq] at earliest
      exact earliest
  | aggregate function argument =>
      simp only [Standing.HeldAt, Clear]
      cases inKeys : keys.findIdx? (Text.sameName ·.name name) with
      | some first =>
          -- A key of the name stands before all aggregates.
          obtain ⟨bound, alike, -⟩ := List.findIdx?_eq_some_iff_getElem.mp inKeys
          simp only [inKeys, Option.some_or, Option.some.injEq] at found
          subst found
          refine iff_of_false ?_ ?_
          · rintro ⟨offset, _, beyond, -⟩
            omega
          · rintro ⟨free, -⟩
            rw [free _ (List.getElem_mem bound)] at alike
            cases alike
      | none =>
          simp only [inKeys, Option.none_or, Option.map_eq_some_iff] at found
          obtain ⟨offset, atOffset, rfl⟩ := found
          have first : calls.find? (Text.sameName ·.name name)
              = (addAggregates [] calls)[offset]? := by
            have shared := find?_addAggregates (Text.sameName ·.name name)
              (fun left right same => by rw [same]) [] calls
            rw [List.nil_append] at shared
            rw [← shared, List.find?_eq_bind_findIdx?_getElem?, atOffset]
            rfl
          rw [first]
          constructor
          · rintro ⟨index, aggregate, sum, atIndex, same⟩
            obtain rfl : offset = index := by omega
            exact ⟨List.findIdx?_eq_none_iff.mp inKeys, aggregate, atIndex, same⟩
          · rintro ⟨-, aggregate, atIndex, same⟩
            exact ⟨offset, aggregate, by omega, atIndex, same⟩

end Reference

/-! ## Accepted queries -/

namespace Plan

section Analysis

variable {scope : FunctionScope} {catalog : Catalog} {schema : Schema} {next : Nat}

/-- The columns of named expressions that resolve are columns of the schema. -/
theorem known_of_resolveNamed {written : List NamedExpr}
    {resolved : (List NamedExpr × List Column) × Nat} (bare : schema.qualifiers = [])
    (result : resolveNamed scope schema written next = .ok resolved) :
    ∀ name ∈ written.flatMap fun item => item.expr.columnNames, Expr.Known schema name := by
  induction written generalizing next resolved with
  | nil => exact fun _ member => nomatch member
  | cons item rest ih =>
      simp only [resolveNamed, state_bind_eq_ok] at result
      obtain ⟨_, _, itemResult, _, _, _, _, _, restResult, -⟩ := result
      simp only [List.flatMap_cons, List.forall_mem_append]
      exact ⟨Expr.known_of_resolve bare itemResult, ih restResult⟩

/-- The output columns of an analysed grouping are its keys and then its aggregates. -/
theorem names_of_aggregate {keys : List NamedExpr} {aggregates : List Aggregate} {input : Plan}
    {analyzed : (Plan × Schema) × Nat}
    (result : (Plan.aggregate keys aggregates input).analyzeNode scope catalog next
      = .ok analyzed) :
    analyzed.1.2.qualifiers = [] ∧
      analyzed.1.2.names = keys.map NamedExpr.name ++ aggregates.map Aggregate.name := by
  simp only [analyzeNode, state_bind_eq_ok, state_pure_eq_ok] at result
  obtain ⟨_, _, _, _, _, keysResult, _, _, aggregatesResult, rfl⟩ := result
  refine ⟨rfl, ?_⟩
  simp only [Schema.names, List.map_append, names_of_resolveNamed keysResult,
    names_of_resolveAggregates aggregatesResult]

/-- Below a filter that is accepted the input is accepted, and the condition resolves over
its columns. -/
theorem accepted_of_filterBy {condition : Option Expr} {input : Plan}
    {analyzed : (Plan × Schema) × Nat}
    (result : (filterBy condition input).analyzeNode scope catalog next = .ok analyzed) :
    ∃ inner after, input.analyzeNode scope catalog next = .ok ((inner, analyzed.1.2), after) ∧
      ∀ predicate ∈ condition, ∃ resolved, predicate.resolve scope analyzed.1.2 after
        = .ok resolved := by
  cases condition with
  | none => exact ⟨analyzed.1.1, analyzed.2, result, fun _ member => nomatch member⟩
  | some predicate =>
      simp only [filterBy, analyzeNode, state_bind_eq_ok, state_pure_eq_ok] at result
      obtain ⟨⟨inner, schema⟩, after, innerResult, _, _, exprResult, _, _, _, _, _, _, rfl⟩ :=
        result
      refine ⟨inner, after, innerResult, ?_⟩
      rintro _ ⟨⟩
      exact ⟨_, exprResult⟩

theorem accepted_of_sortBy {keys : List SortKey} {input : Plan}
    {analyzed : (Plan × Schema) × Nat}
    (result : (sortBy keys input).analyzeNode scope catalog next = .ok analyzed) :
    ∃ inner, input.analyzeNode scope catalog next = .ok inner := by
  unfold sortBy at result
  split at result
  · exact ⟨_, result⟩
  · simp only [analyzeNode, state_bind_eq_ok] at result
    obtain ⟨_, _, innerResult, -⟩ := result
    exact ⟨_, innerResult⟩

/-- Below the projections of an accepted query the input is accepted, and the columns of
the query resolve over its columns. -/
theorem accepted_of_projectSorted {part : GroupedPart} {keys : List SortKey} {input : Plan}
    {analyzed : (Plan × Schema) × Nat} (listed : part.columns ≠ [])
    (result : (projectSorted part keys input).analyzeNode scope catalog next = .ok analyzed) :
    ∃ inner after, input.analyzeNode scope catalog next = .ok (inner, after) ∧
      ∃ resolved, resolveNamed scope inner.2 (part.columns ++ part.hidden) after
        = .ok resolved := by
  have sorted : ∃ outcome, (sortBy keys (.project (part.columns ++ part.hidden) input)).analyzeNode
      scope catalog next = .ok outcome := by
    unfold projectSorted at result
    dsimp only at result
    split at result
    · exact ⟨_, result⟩
    · simp only [analyzeNode, state_bind_eq_ok] at result
      obtain ⟨_, _, innerResult, -⟩ := result
      exact ⟨_, innerResult⟩
  obtain ⟨_, sorted⟩ := sorted
  obtain ⟨_, projected⟩ := accepted_of_sortBy sorted
  simp only [analyzeNode, state_bind_eq_ok] at projected
  obtain ⟨inner, after, innerResult, resolved, _, columnsResult, -⟩ := projected
  have some : (part.columns ++ part.hidden).isEmpty = false := by
    simp [List.isEmpty_eq_false_iff, listed]
  simp only [some, Bool.false_eq_true, if_false] at columnsResult
  exact ⟨inner, after, innerResult, _, columnsResult⟩

end Analysis

end Plan

namespace SelectParts

/-- The aggregates of the query, each once. -/
def aggregates (parts : SelectParts) : List Aggregate :=
  addAggregates [] parts.part.aggregateCalls

/-- The grouping of the query. -/
def groups (parts : SelectParts) : Plan := .aggregate parts.keys parts.aggregates parts.input

/-- The expressions above the grouping. -/
def rewritten (parts : SelectParts) : Plan.GroupedPart :=
  parts.part.withoutAggregates.overKeys parts.keys

/-- The column references of the select list, of the hidden sort keys and of the condition
on groups. -/
def references (parts : SelectParts) : List Reference :=
  ((parts.part.columns ++ parts.part.hidden).flatMap fun item => item.expr.references parts.keys)
    ++ parts.part.having.toList.flatMap fun condition => condition.references parts.keys

end SelectParts

namespace Plan

/-- The columns that the expressions of a part refer to. -/
def GroupedPart.columnNames (part : GroupedPart) : List String :=
  ((part.columns ++ part.hidden).flatMap fun item => item.expr.columnNames)
    ++ part.having.toList.flatMap Expr.columnNames

theorem columnNames_overKeys (keys items : List NamedExpr) :
    (((NamedExpr.withoutAggregates items).map (NamedExpr.overKeys keys)).flatMap
      fun item => item.expr.columnNames)
      = (items.flatMap fun item => item.expr.references keys).map Reference.name := by
  induction items with
  | nil => rfl
  | cons item rest ih =>
      have head := Expr.columnNames_rewritten keys item.expr
      simp only [Expr.rewritten] at head
      simp only [NamedExpr.withoutAggregates, List.map_cons, List.flatMap_cons, List.map_append,
        NamedExpr.overKeys, head] at ih ⊢
      rw [ih]

/-- The columns above the grouping are the references of the query. -/
theorem columnNames_parts (parts : SelectParts) :
    parts.rewritten.columnNames = parts.references.map Reference.name := by
  have having : ((parts.part.having.map Expr.withoutAggregates).map
      (Expr.replace (Expr.keyColumn? parts.keys))).toList.flatMap Expr.columnNames
        = (parts.part.having.toList.flatMap
          fun condition => condition.references parts.keys).map Reference.name := by
    cases parts.part.having with
    | none => rfl
    | some condition =>
        have names := Expr.columnNames_rewritten parts.keys condition
        rw [Expr.rewritten] at names
        simpa using names
  simp only [GroupedPart.columnNames, SelectParts.rewritten, SelectParts.references,
    GroupedPart.overKeys, GroupedPart.withoutAggregates, List.flatMap_append, List.map_append,
    columnNames_overKeys, having]

theorem named_of_parts_references (parts : SelectParts) :
    ∀ reference ∈ parts.references, reference.Named parts.keys := by
  intro reference member
  rcases List.mem_append.mp member with inColumns | inHaving
  · obtain ⟨item, _, inItem⟩ := List.mem_flatMap.mp inColumns
    exact Expr.named_of_references parts.keys item.expr reference inItem
  · obtain ⟨condition, _, inCondition⟩ := List.mem_flatMap.mp inHaving
    exact Expr.named_of_references parts.keys condition reference inCondition

/-- The plan of a grouped select clause. -/
theorem assemble_grouped {parts : SelectParts} {plan : Plan}
    (grouped : isGrouped parts.keys parts.part = true) (assembled : assemble parts = .ok plan) :
    parts.part.columns ≠ [] ∧
      plan = projectSorted parts.rewritten parts.sorting
        (filterBy parts.rewritten.having parts.groups) := by
  obtain ⟨_, groupedPlan, made⟩ := bind_eq_ok.mp assembled
  rcases eq_of_group groupedPlan with ⟨plain, -⟩ | ⟨-, listed, rfl⟩
  · rw [grouped] at plain
    cases plain
  · cases made
    exact ⟨listed, rfl⟩

/-- A limit is accepted when what it limits is. -/
theorem accepted_of_limitBy {limit offset : Option Syntax.Term} {inner plan : Plan}
    {scope : FunctionScope} {catalog : Catalog} {next : Nat} {analyzed : (Plan × Schema) × Nat}
    (limited : limitBy limit offset inner = .ok plan)
    (result : plan.analyzeNode scope catalog next = .ok analyzed) :
    ∃ outcome, inner.analyzeNode scope catalog next = .ok outcome := by
  unfold limitBy at limited
  split at limited
  · cases limited
    exact ⟨_, result⟩
  · simp only [bind_eq_ok] at limited
    obtain ⟨_, _, _, _, made⟩ := limited
    cases made
    simp only [analyzeNode, state_bind_eq_ok] at result
    obtain ⟨_, _, innerResult, -⟩ := result
    exact ⟨_, innerResult⟩

/-- **What the references of a grouped query are resolved to.**  When a query that groups
is accepted, the columns above its grouping are exactly its references, each of which is
resolved to an output column of the grouping.  That column holds what the reference stands
for if and only if the reference is clear: a key is reached unless an earlier key has the
same name, an aggregate call is reached unless a key or another call of the same name comes
first, and a stray column that some output has the name of is always read from there. -/
theorem grouped_references_resolve (tableColumns : String → List String)
    (query : Syntax.Query) (select : Syntax.Select) (parts : SelectParts) (plan : Plan)
    (scope : FunctionScope) (catalog : Catalog) (next : Nat) (analyzed : Plan × Nat)
    (body : query.body = .select select)
    (read : readSelect tableColumns select query.order = .ok parts)
    (grouped : isGrouped parts.keys parts.part = true)
    (planned : ofQuery tableColumns query = .ok plan)
    (accepted : plan.analyze scope catalog next = .ok analyzed) :
    limitBy query.limit query.offset (projectSorted parts.rewritten parts.sorting
        (filterBy parts.rewritten.having parts.groups)) = .ok plan ∧
      parts.rewritten.columnNames = parts.references.map Reference.name ∧
      ∃ node schema after,
        parts.groups.analyzeNode scope catalog next = .ok ((node, schema), after) ∧
        ∀ reference ∈ parts.references, ∃ index,
          schema.indexOf? reference.name = some index ∧
          (reference.standing.HeldAt parts.keys parts.aggregates index ↔
            reference.Clear parts.keys parts.part.aggregateCalls) := by
  simp only [ofQuery, body, ofSelect_eq, read, bind_eq_ok] at planned
  obtain ⟨inner, ⟨_, same, assembled⟩, limited⟩ := planned
  cases same
  obtain ⟨listed, rfl⟩ := assemble_grouped grouped assembled
  refine ⟨limited, columnNames_parts parts, ?_⟩
  simp only [analyze, state_bind_eq_ok] at accepted
  obtain ⟨_, _, acceptedNode, -⟩ := accepted
  obtain ⟨_, acceptedInner⟩ := accepted_of_limitBy limited acceptedNode
  have stillListed : parts.rewritten.columns ≠ [] := by
    simpa [SelectParts.rewritten, GroupedPart.overKeys, GroupedPart.withoutAggregates,
      NamedExpr.withoutAggregates] using listed
  obtain ⟨⟨_, schema⟩, after, acceptedFilter, _, columnsResolve⟩ :=
    accepted_of_projectSorted stillListed acceptedInner
  obtain ⟨node, between, acceptedGroups, conditionResolves⟩ := accepted_of_filterBy acceptedFilter
  obtain ⟨bare, names⟩ := names_of_aggregate acceptedGroups
  refine ⟨node, schema, between, acceptedGroups, ?_⟩
  intro reference member
  -- What stands above the grouping was resolved over its columns, where nothing qualifies
  -- them, so that resolution has looked up every name.
  have known : Expr.Known schema reference.name := by
    have written : reference.name ∈ parts.rewritten.columnNames := by
      rw [columnNames_parts]
      exact List.mem_map_of_mem member
    rcases List.mem_append.mp written with inColumns | inHaving
    · exact known_of_resolveNamed bare columnsResolve _ inColumns
    · obtain ⟨condition, isCondition, inCondition⟩ := List.mem_flatMap.mp inHaving
      obtain ⟨_, conditionResult⟩ := conditionResolves condition (Option.mem_toList.mp isCondition)
      exact Expr.known_of_resolve bare conditionResult _ inCondition
  obtain ⟨index, position⟩ := known
  refine ⟨index, position, ?_⟩
  refine Reference.heldAt_iff_clear (named_of_parts_references parts reference member) ?_
  rw [← position, Schema.indexOf?_eq_names, names]
  rfl

/-- `SELECT MAX('a'), MAX('A')`: the two calls have columns of their own, but both
references are resolved to the column of the first. -/
theorem grouped_references_resolve_of_texts :
    let call (text : String) : Syntax.Term :=
      .call [⟨"MAX", none⟩] ⟨false, "(", ")"⟩ [.literal (.text text)]
    let select : Syntax.Select := {
      distinct := false
      items := [.bare (call "a"), .bare (call "A")]
      sources := []
      condition := none
      grouping := .terms []
      having := none }
    let query : Syntax.Query :=
      { body := .select select, order := [], limit := none, offset := none, spelling := "" }
    let scope : FunctionScope := { registered := {}, builtin := {}, narrowing := .exact }
    ∃ parts plan analyzed node schema after first second,
      readSelect (fun _ => []) select [] = .ok parts ∧
      ofQuery (fun _ => []) query = .ok plan ∧
      plan.analyze scope {} 0 = .ok analyzed ∧
      parts.groups.analyzeNode scope {} 0 = .ok ((node, schema), after) ∧
      parts.references = [first, second] ∧
      (schema.indexOf? first.name = some 0 ∧
        first.standing.HeldAt parts.keys parts.aggregates 0) ∧
      (schema.indexOf? second.name = some 0 ∧
        ¬ second.standing.HeldAt parts.keys parts.aggregates 0) := by
  intro call select query scope
  obtain ⟨_, _, node, schema, after, analyzedGroups, resolved⟩ :=
    grouped_references_resolve (fun _ => []) query select _ _ scope {} 0 _ rfl rfl rfl rfl rfl
  refine ⟨_, _, _, node, schema, after, _, _, rfl, rfl, rfl, analyzedGroups, rfl, ?_, ?_⟩
  · obtain ⟨index, position, held⟩ := resolved _ List.mem_cons_self
    cases analyzedGroups
    cases position
    exact ⟨rfl, held.mpr ⟨(fun _ member => nomatch member), _, rfl, rfl, rfl⟩⟩
  · obtain ⟨index, position, held⟩ :=
      resolved _ (List.mem_cons_of_mem _ List.mem_cons_self)
    cases analyzedGroups
    cases position
    refine ⟨rfl, fun reached => ?_⟩
    obtain ⟨-, call, found, -, same⟩ := held.mp reached
    cases found
    have differ : Expr.literal (.string "a") = .literal (.string "A") := same
    simp at differ

end Plan

end ScalarSql
