import ScalarSql.Proofs.Aggregate.Covering
import ScalarSql.Proofs.Plan.Respelling
import ScalarSql.Proofs.Session.Groupings

/-!
# Groupings over respelled expressions

A grouping computes one aggregate for all calls of one text, so a query that spells one call
in two ways computes it twice, under two names.  Two groupings that are the same up to case
may then differ in the number and in the order of their aggregates.

**The same aggregates.**  It is enough that each aggregate of either grouping asks for the
same function of the same expression as some aggregate of the other, and that every name
finds aggregates that ask for the same, `SameAggregates`.  The groups are then formed by the
same keys, both groupings fail or neither does, and every name reads the same value.

**Main result.**  `Session.Alike.aggregate`: groupings with respelled keys and the same
aggregates keep plans alike.
-/

set_option autoImplicit false

namespace ScalarSql

open Text (small)

/-! ## Aggregates up to case -/

/-- What an aggregate asks for, whatever its column is called and its names are spelled. -/
def Aggregate.asks (aggregate : Aggregate) : AggregateFunction × Expr :=
  (aggregate.function, aggregate.expr.caseless)

namespace TypedAggregate

/-- Two aggregates of one function and type, with arguments up to case. -/
structure Respelled (left right : TypedAggregate) : Prop where
  asks : left.aggregate.asks = right.aggregate.asks
  output : left.output = right.output

theorem Respelled.function {left right : TypedAggregate} (same : left.Respelled right) :
    left.aggregate.function = right.aggregate.function :=
  congrArg Prod.fst same.asks

theorem Respelled.expr {left right : TypedAggregate} (same : left.Respelled right) :
    left.aggregate.expr.Respelled right.aggregate.expr :=
  congrArg Prod.snd same.asks

theorem Respelled.sumType {left right : TypedAggregate} (same : left.Respelled right) :
    left.sumType = right.sumType := by
  rw [TypedAggregate.sumType, TypedAggregate.sumType, same.function, same.output]

/-- The aggregate with all names in its argument small. -/
def caseless (typed : TypedAggregate) : TypedAggregate :=
  { typed with aggregate := { typed.aggregate with expr := typed.aggregate.expr.caseless } }

theorem respelled_caseless (typed : TypedAggregate) : typed.Respelled typed.caseless where
  asks := by
    refine congrArg (Prod.mk typed.aggregate.function) ?_
    exact (Expr.caseless_caseless typed.aggregate.expr).symm
  output := rfl

theorem Respelled.symm {left right : TypedAggregate} (same : left.Respelled right) :
    right.Respelled left :=
  ⟨same.asks.symm, same.output.symm⟩

theorem Respelled.alike {left right : TypedAggregate} (same : left.Respelled right) :
    left.caseless.Alike right.caseless where
  function := same.function
  output := same.output
  argument context := by
    show left.aggregate.expr.caseless.evaluate context
      = right.aggregate.expr.caseless.evaluate context
    rw [same.expr]

end TypedAggregate

namespace Group

variable {context other : RowContext} (alike : context.Matches other)
  {lefts rights : List TypedAggregate}
  (same : List.Forall₂ TypedAggregate.Respelled lefts rights)

include alike same

theorem alike_takeRow (states : List Accumulator) :
    SucceedAlike Eq (takeRow context lefts states) (takeRow other rights states) := by
  induction same generalizing states with
  | nil => exact .refl _
  | cons here _ ih =>
      cases states with
      | nil => exact .refl _
      | cons state states =>
          simp only [takeRow, ← here.sumType]
          refine (Expr.evaluate_congr_caseless alike here.expr).elim (fun value _ equal => ?_)
            fun _ _ => .error _ _
          subst equal
          dsimp only
          cases state.update value _ with
          | error fault => exact .error _ _
          | ok updated => exact (ih states).map fun _ _ rest => congrArg (updated :: ·) rest

omit alike in
theorem fresh_congr (key : List Value) : fresh lefts key = fresh rights key := by
  have states : List.Forall₂ Eq
      (lefts.map fun typed => Accumulator.start typed.aggregate.function)
      (rights.map fun typed => Accumulator.start typed.aggregate.function) :=
    forall₂_map same fun _ _ here => congrArg Accumulator.start here.function
  rw [fresh, fresh, Session.eq_of_forall₂ states]

theorem alike_insertRow (key : List Value) (groups : List Group) :
    SucceedAlike Eq (insertRow context lefts key groups) (insertRow other rights key groups) := by
  induction groups with
  | nil =>
      simp only [insertRow, ← fresh_congr same key]
      exact (alike_takeRow alike same _).map fun _ _ states =>
        congrArg (fun states => [Group.mk key states]) states
  | cons group rest ih =>
      simp only [insertRow]
      split
      · exact (alike_takeRow alike same _).map fun _ _ states =>
          congrArg (fun states => { group with states } :: rest) states
      · exact ih.map fun _ _ later => congrArg (group :: ·) later

end Group

section Rows

variable {first second : Schema} {policy : FailurePolicy} {lefts rights : List Row}
  (rows : List.Forall₂ (Row.Matches first second) lefts rights) {keys others : List Expr}
  (sameKeys : List.Forall₂ Expr.Respelled keys others)
  {aggregates otherAggregates : List TypedAggregate}

include rows sameKeys

/-- **A grouping** by respelled keys of respelled aggregates, one by one. -/
theorem alike_groupRows
    (same : List.Forall₂ TypedAggregate.Respelled aggregates otherAggregates) :
    SucceedAlike Eq (groupRows first policy keys aggregates lefts)
      (groupRows second policy others otherAggregates rights) := by
  have inserted : ∀ (groups : List Group) (index : Nat), SucceedAlike Eq
      (Group.insertRows first policy keys aggregates groups index lefts)
      (Group.insertRows second policy others otherAggregates groups index rights) := by
    induction rows with
    | nil => exact fun _ _ => .refl _
    | cons here _ ih =>
        intro groups index
        simp only [Group.insertRows]
        refine (Session.alike_evaluateAll (here.context policy index) sameKeys).elim
          (fun key _ equal => ?_) fun _ _ => .error _ _
        subst equal
        dsimp only
        refine (Group.alike_insertRow (here.context policy index) same key groups).elim
          (fun next _ equal => ?_) fun _ _ => .error _ _
        subst equal
        exact ih next (index + 1)
  have noKeys : keys.isEmpty = others.isEmpty := by
    cases sameKeys <;> rfl
  have fresh : Group.fresh aggregates [] = Group.fresh otherAggregates [] :=
    Group.fresh_congr same []
  unfold groupRows
  rw [← noKeys, ← fresh]
  refine (inserted [] 0).elim (fun groups _ equal => ?_) fun _ _ => .error _ _
  subst equal
  exact .refl _

/-- **Groupings of the same aggregates up to case**, in any order and any number of times. -/
theorem matched_groupRows
    (covering : Covering TypedAggregate.Respelled aggregates otherAggregates) :
    SucceedAlike (List.Forall₂ (Row.Matched keys.length
        (aggregates.map TypedAggregate.caseless) (otherAggregates.map TypedAggregate.caseless)))
      (groupRows first policy keys aggregates lefts)
      (groupRows second policy others otherAggregates rights) := by
  have caseless : ∀ list : List TypedAggregate,
      List.Forall₂ TypedAggregate.Respelled list (list.map TypedAggregate.caseless) :=
    fun list => List.forall₂_map_right_iff.mpr
      (List.forall₂_same.mpr fun typed _ => typed.respelled_caseless)
  have leftSmall : SucceedAlike Eq (groupRows first policy keys aggregates lefts)
      (groupRows first policy keys (aggregates.map TypedAggregate.caseless) lefts) :=
    alike_groupRows (List.forall₂_same.mpr fun row _ => Row.Matches.refl first row)
      (List.forall₂_same.mpr fun _ _ => rfl) (caseless aggregates)
  have rightSmall : SucceedAlike Eq
      (groupRows first policy keys (otherAggregates.map TypedAggregate.caseless) lefts)
      (groupRows second policy others otherAggregates rights) :=
    alike_groupRows rows sameKeys ((caseless otherAggregates).flip.imp fun _ _ same => same.symm)
  have covers : ∀ {list others : List TypedAggregate},
      (∀ other ∈ others, ∃ typed ∈ list, typed.Respelled other) →
        TypedAggregate.Covers (list.map TypedAggregate.caseless)
          (others.map TypedAggregate.caseless) := by
    intro list others covering small member
    obtain ⟨other, inOthers, rfl⟩ := List.mem_map.mp member
    obtain ⟨typed, inList, same⟩ := covering other inOthers
    exact ⟨typed.caseless, List.mem_map_of_mem inList, same.alike⟩
  have backCovers := covers fun typed member => (covering.forth typed member).imp fun _ found =>
    And.imp_right TypedAggregate.Respelled.symm found
  have between : SucceedAlike (List.Forall₂ (Row.Matched keys.length
        (aggregates.map TypedAggregate.caseless) (otherAggregates.map TypedAggregate.caseless)))
      (groupRows first policy keys (aggregates.map TypedAggregate.caseless) lefts)
      (groupRows first policy keys (otherAggregates.map TypedAggregate.caseless) lefts) := by
    refine .of_transfer (fun leftRows grouped => ?_) fun rightRows grouped =>
      groupRows_of_covers backCovers grouped
    obtain ⟨rightRows, otherGrouped⟩ := groupRows_of_covers (covers covering.back) grouped
    exact ⟨rightRows, otherGrouped, groupRows_matched rfl (fun _ => rfl) grouped otherGrouped⟩
  have toRight := between.trans rightSmall fun _ _ _ matched same => same ▸ matched
  exact leftSmall.trans toRight fun _ _ _ same matched => same ▸ matched

end Rows

/-! ## The same aggregates -/

/-- Two aggregates that ask for the same. -/
def Aggregate.Respelled (left right : Aggregate) : Prop := left.asks = right.asks

theorem Aggregate.Respelled.function {left right : Aggregate} (same : left.Respelled right) :
    left.function = right.function :=
  congrArg Prod.fst same

theorem Aggregate.Respelled.expr {left right : Aggregate} (same : left.Respelled right) :
    left.expr.Respelled right.expr :=
  congrArg Prod.snd same

/-- The aggregate goes on asking for the same if its argument is replaced by a respelled
one. -/
theorem Aggregate.Respelled.of_expr {left right : Aggregate} (same : left.Respelled right)
    {expr other : Expr} (respelled : expr.Respelled other) :
    Aggregate.Respelled { left with expr } { right with expr := other } :=
  Prod.ext same.function respelled

/-- Two aggregate lists with the same aggregates up to case, which also have the same first
aggregate of every name. -/
structure SameAggregates (left right : List Aggregate) : Prop where
  covering : Covering Aggregate.Respelled left right
  found : ∀ name, (left.find? (Text.sameName ·.name name)).map Aggregate.asks
    = (right.find? (Text.sameName ·.name name)).map Aggregate.asks

theorem findIdx?_of_names {α β : Type} {columns : List α} {items : List β} {columnName : α → String}
    {itemName : β → String} (names : columns.map columnName = items.map itemName) (name : String) :
    columns.findIdx? (fun column => Text.sameName (columnName column) name)
      = items.findIdx? fun item => Text.sameName (itemName item) name := by
  have positions := congrArg (List.findIdx? (Text.sameName · name)) names
  rwa [List.findIdx?_map, List.findIdx?_map] at positions

/-- Lists stay the same if their aggregates keep their names and those that ask for the same
go on doing so. -/
theorem SameAggregates.transport {lefts rights left right : List Aggregate}
    (same : SameAggregates lefts rights)
    (names : left.map Aggregate.name = lefts.map Aggregate.name)
    (otherNames : right.map Aggregate.name = rights.map Aggregate.name)
    (kept : Corresponds Aggregate.Respelled Aggregate.Respelled lefts rights left right) :
    SameAggregates left right := by
  refine ⟨kept.covering same.covering, fun name => ?_⟩
  rw [List.find?_eq_bind_findIdx?_getElem?, List.find?_eq_bind_findIdx?_getElem?,
    findIdx?_of_names names, findIdx?_of_names otherNames]
  rcases Reference.findIdx?_of_map_find? (same.found name) with ⟨inLeft, inRight⟩ |
    ⟨i, j, one, other, inLeft, inRight, atLeft, atRight, asks⟩
  · rw [inLeft, inRight]
    rfl
  · have bound := kept.length.symm ▸ (List.getElem?_eq_some_iff.mp atLeft).1
    have otherBound := kept.otherLength.symm ▸ (List.getElem?_eq_some_iff.mp atRight).1
    rw [inLeft, inRight, Option.bind_some, Option.bind_some, List.getElem?_eq_getElem bound,
      List.getElem?_eq_getElem otherBound]
    exact congrArg some (kept.pairs i j one other _ _ atLeft atRight asks
      (List.getElem?_eq_getElem bound) (List.getElem?_eq_getElem otherBound))

/-! ## Resolving aggregates -/

section Resolving

variable {scope : FunctionScope} {first second : Schema} (schemas : first.Matches second)

include schemas in
theorem alike_outputType {left right : Aggregate} (same : left.Respelled right) :
    SucceedAlike Eq (left.outputType first) (right.outputType second) := by
  unfold Aggregate.outputType
  refine (Expr.dataType_congr schemas same.expr).elim (fun type _ equal => ?_)
    fun _ _ => .error _ _
  subst equal
  dsimp only
  rw [same.function]
  exact .refl _

/-- A resolved aggregate with its column. -/
def Plan.resolveAggregate (scope : FunctionScope) (schema : Schema) (item : Aggregate) :
    Resolving (Aggregate × Column) := do
  let expr ← item.expr.resolve scope schema
  let type ← ({ item with expr } : Aggregate).outputType schema
  pure ({ item with expr }, { name := item.name, type })

theorem Plan.resolveAggregates_eq (scope : FunctionScope) (schema : Schema)
    (items : List Aggregate) :
    resolveAggregates scope schema items
      = List.unzip <$> items.mapM (resolveAggregate scope schema) := by
  induction items with
  | nil => simp only [resolveAggregates, List.mapM_nil, map_pure, List.unzip_nil]
  | cons item rest ih =>
      simp only [resolveAggregates, ih, List.mapM_cons, resolveAggregate, map_eq_pure_bind,
        bind_assoc, pure_bind, List.unzip_cons]

theorem names_of_resolved {schema : Schema} {written : List Aggregate} {start : Nat}
    {resolved : (List Aggregate × List Column) × Nat}
    (result : Plan.resolveAggregates scope schema written start = .ok resolved) :
    resolved.1.1.map Aggregate.name = written.map Aggregate.name := by
  induction written generalizing start resolved with
  | nil =>
      simp only [Plan.resolveAggregates, state_pure_eq_ok] at result
      rw [← result]
  | cons item rest ih =>
      simp only [Plan.resolveAggregates, state_bind_eq_ok, state_pure_eq_ok] at result
      obtain ⟨_, _, _, _, _, _, _, _, restResult, rfl⟩ := result
      exact congrArg (item.name :: ·) (ih restResult)

/-- What two lists of aggregates are resolved to: aggregates that are the same again, and
columns under their names, of the same types where they ask for the same. -/
structure ResolvedAlike (lefts rights : List Aggregate)
    (left right : List Aggregate × List Column) : Prop where
  same : SameAggregates left.1 right.1
  names : left.2.map Column.name = lefts.map Aggregate.name
  otherNames : right.2.map Column.name = rights.map Aggregate.name
  types : Corresponds Aggregate.Respelled (fun column other => column.type = other.type)
    lefts rights left.2 right.2

include schemas in
/-- **Lists of the same aggregates up to case** are resolved alike. -/
theorem alike_resolveAggregates (ignores : scope.IgnoresCase) {lefts rights : List Aggregate}
    (same : SameAggregates lefts rights) :
    RunAlike (ResolvedAlike lefts rights) (Plan.resolveAggregates scope first lefts)
      (Plan.resolveAggregates scope second rights) := by
  have each : ∀ left right : Aggregate, left.Respelled right →
      RunAlike (fun left right : Aggregate × Column =>
          left.1.Respelled right.1 ∧ left.2.type = right.2.type)
        (Plan.resolveAggregate scope first left) (Plan.resolveAggregate scope second right) := by
    intro left right here
    refine (Expr.resolve_congr ignores schemas here.expr).bind fun expr other respelled => ?_
    refine (RunAlike.lift (alike_outputType schemas (here.of_expr respelled))).bind
      fun type _ sameType => .pure ⟨here.of_expr respelled, sameType⟩
  have resolved : RunAlike (fun left right : List Aggregate × List Column =>
        Corresponds Aggregate.Respelled Aggregate.Respelled lefts rights left.1 right.1 ∧
          Corresponds Aggregate.Respelled (fun column other => column.type = other.type)
            lefts rights left.2 right.2)
      (Plan.resolveAggregates scope first lefts) (Plan.resolveAggregates scope second rights) := by
    rw [Plan.resolveAggregates_eq, Plan.resolveAggregates_eq]
    refine (RunAlike.mapM_of_covering same.covering each).map fun values others pairs => ?_
    rw [List.unzip_eq_map, List.unzip_eq_map]
    exact ⟨pairs.map fun _ _ => And.left, pairs.map fun _ _ => And.right⟩
  refine resolved.computed.imp ?_
  rintro left right ⟨⟨aggregates, columns⟩, ⟨_, _, leftMade⟩, _, _, rightMade⟩
  exact ⟨same.transport (names_of_resolved leftMade) (names_of_resolved rightMade) aggregates,
    Plan.names_of_resolveAggregates leftMade, Plan.names_of_resolveAggregates rightMade, columns⟩

end Resolving

/-! ## Output columns -/

section Outputs

variable {lefts rights : List Aggregate} (same : SameAggregates lefts rights)
  {keys otherKeys outputs otherOutputs : List Column}
  (sameKeys : List.Forall₂ Column.Respelled keys otherKeys)
  (named : outputs.map Column.name = lefts.map Aggregate.name)
  (otherNamed : otherOutputs.map Column.name = rights.map Aggregate.name)

include same sameKeys named otherNamed

/-- A name is found in both groupings or in neither: at one key, or at aggregates that ask for
the same. -/
theorem indexOf?_outputs_cases (name : String) :
    (Schema.indexOf? { columns := keys ++ outputs } name = none ∧
        Schema.indexOf? { columns := otherKeys ++ otherOutputs } name = none) ∨
      (∃ i < keys.length, Schema.indexOf? { columns := keys ++ outputs } name = some i ∧
        Schema.indexOf? { columns := otherKeys ++ otherOutputs } name = some i) ∨
      ∃ i j one other, lefts[i]? = some one ∧ rights[j]? = some other ∧ one.asks = other.asks ∧
        Schema.indexOf? { columns := keys ++ outputs } name = some (i + keys.length) ∧
        Schema.indexOf? { columns := otherKeys ++ otherOutputs } name
          = some (j + keys.length) := by
  have aligned : Schema.Aligned { columns := keys } { columns := otherKeys } := sameKeys
  have inKeys : Schema.indexOf? { columns := keys } name
      = Schema.indexOf? { columns := otherKeys } name := aligned.indexOf? name
  simp only [Schema.indexOf?] at inKeys
  simp only [Schema.indexOf?, List.findIdx?_append, ← inKeys, findIdx?_of_names named,
    findIdx?_of_names otherNamed, ← sameKeys.length_eq]
  cases atKey : keys.findIdx? (Text.sameName ·.name name) with
  | some i =>
      obtain ⟨bound, -, -⟩ := List.findIdx?_eq_some_iff_getElem.mp atKey
      exact .inr (.inl ⟨i, bound, rfl, rfl⟩)
  | none =>
      rcases Reference.findIdx?_of_map_find? (same.found name) with ⟨inLeft, inRight⟩ |
        ⟨i, j, one, other, inLeft, inRight, atLeft, atRight, asks⟩
      · exact .inl ⟨by rw [inLeft]; rfl, by rw [inRight]; rfl⟩
      · refine .inr (.inr ⟨i, j, one, other, atLeft, atRight, asks, ?_, ?_⟩)
        · rw [inLeft]
          rfl
        · rw [inRight]
          rfl

/-- The output columns of groupings of the same aggregates match. -/
theorem matches_outputs
    (types : Corresponds Aggregate.Respelled (fun column other => column.type = other.type)
      lefts rights outputs otherOutputs) :
    Schema.Matches { columns := keys ++ outputs } { columns := otherKeys ++ otherOutputs } := by
  refine ⟨fun name => ?_, fun _ => rfl⟩
  rw [Schema.column?_eq_bind, Schema.column?_eq_bind]
  rcases indexOf?_outputs_cases same sameKeys named otherNamed name with ⟨left, right⟩ |
    ⟨i, bound, left, right⟩ | ⟨i, j, one, other, atLeft, atRight, asks, left, right⟩
  · rw [left, right]
    rfl
  · rw [left, right]
    have otherBound := sameKeys.length_eq ▸ bound
    simp only [Option.bind_some, List.getElem?_append_left bound,
      List.getElem?_append_left otherBound, List.getElem?_eq_getElem bound,
      List.getElem?_eq_getElem otherBound, Option.map_some]
    exact congrArg some (sameKeys.get bound otherBound).type
  · have inOutputs := types.length.symm ▸ (List.getElem?_eq_some_iff.mp atLeft).1
    have inOthers := types.otherLength.symm ▸ (List.getElem?_eq_some_iff.mp atRight).1
    rw [left, right, sameKeys.length_eq]
    simp only [Option.bind_some, List.getElem?_append_right (Nat.le_add_left ..),
      Nat.add_sub_cancel]
    rw [← sameKeys.length_eq, List.getElem?_append_right (Nat.le_add_left ..),
      Nat.add_sub_cancel, List.getElem?_eq_getElem inOutputs, List.getElem?_eq_getElem inOthers]
    exact congrArg some (types.pairs i j one other _ _ atLeft atRight asks
      (List.getElem?_eq_getElem inOutputs) (List.getElem?_eq_getElem inOthers))

/-- Result rows of groupings of the same aggregates hold the same under all names. -/
theorem matches_matched {typed otherTyped : List TypedAggregate}
    (pairs : Corresponds Aggregate.Respelled TypedAggregate.Respelled lefts rights typed otherTyped)
    {left right : Row} (matched : Row.Matched keys.length (typed.map TypedAggregate.caseless)
      (otherTyped.map TypedAggregate.caseless) left right) :
    Row.Matches { columns := keys ++ outputs } { columns := otherKeys ++ otherOutputs } left
      right := by
  obtain ⟨key, values, others, rfl, rfl, length, matched⟩ := matched
  intro name
  rcases indexOf?_outputs_cases same sameKeys named otherNamed name with ⟨left, right⟩ |
    ⟨i, bound, left, right⟩ | ⟨i, j, one, other, atLeft, atRight, asks, left, right⟩
  · rw [left, right]
    rfl
  · rw [left, right, Option.bind_some, Option.bind_some,
      List.getElem?_append_left (length ▸ bound), List.getElem?_append_left (length ▸ bound)]
  · have inTyped := pairs.length.symm ▸ (List.getElem?_eq_some_iff.mp atLeft).1
    have inOthers := pairs.otherLength.symm ▸ (List.getElem?_eq_some_iff.mp atRight).1
    have respelled := pairs.pairs i j one other _ _ atLeft atRight asks
      (List.getElem?_eq_getElem inTyped) (List.getElem?_eq_getElem inOthers)
    rw [left, right, Option.bind_some, Option.bind_some, ← length,
      List.getElem?_append_right (Nat.le_add_left ..),
      List.getElem?_append_right (Nat.le_add_left ..), Nat.add_sub_cancel, Nat.add_sub_cancel]
    refine matched.same i j _ _ ?_ ?_ respelled.alike
    · rw [List.getElem?_map, List.getElem?_eq_getElem inTyped]
      rfl
    · rw [List.getElem?_map, List.getElem?_eq_getElem inOthers]
      rfl

end Outputs

/-! ## Typed aggregates -/

/-- An aggregate with the type of its column. -/
def TypedAggregate.ofAggregate (schema : Schema) (aggregate : Aggregate) :
    Except Error TypedAggregate :=
  (aggregate.outputType schema).map fun output => { aggregate, output }

theorem TypedAggregate.ofAggregates_eq (schema : Schema) (aggregates : List Aggregate) :
    ofAggregates schema aggregates = aggregates.mapM (ofAggregate schema) := by
  induction aggregates with
  | nil => rfl
  | cons aggregate rest ih =>
      rw [ofAggregates, ih, List.mapM_cons, ofAggregate]
      cases aggregate.outputType schema with
      | error fault => rfl
      | ok output => cases List.mapM (ofAggregate schema) rest <;> rfl

/-- Aggregates that ask for the same have results of one type. -/
theorem alike_ofAggregates {first second : Schema} (schemas : first.Matches second)
    {lefts rights : List Aggregate} (covering : Covering Aggregate.Respelled lefts rights) :
    SucceedAlike (Corresponds Aggregate.Respelled TypedAggregate.Respelled lefts rights)
      (TypedAggregate.ofAggregates first lefts) (TypedAggregate.ofAggregates second rights) := by
  rw [TypedAggregate.ofAggregates_eq, TypedAggregate.ofAggregates_eq]
  refine SucceedAlike.mapM_of_covering covering fun left right here => ?_
  exact (alike_outputType schemas here).map fun _ _ sameType => ⟨here, sameType⟩

theorem aggregates_of_ofAggregates {schema : Schema} {aggregates : List Aggregate}
    {paired : List TypedAggregate}
    (made : TypedAggregate.ofAggregates schema aggregates = .ok paired) :
    paired.map TypedAggregate.aggregate = aggregates := by
  induction aggregates generalizing paired with
  | nil =>
      cases made
      rfl
  | cons aggregate rest ih =>
      simp only [TypedAggregate.ofAggregates] at made
      split at made
      · cases made
      · next type typed =>
          obtain ⟨others, restMade, rfl⟩ := map_eq_ok.mp made
          rw [List.map_cons, ih restMade]

/-! ## The operator -/

theorem names_of_columns {schema : Schema} {items : List NamedExpr} {columns : List Column}
    (typed : NamedExpr.columns schema items = .ok columns) :
    columns.map Column.name = items.map NamedExpr.name := by
  induction items generalizing columns with
  | nil =>
      cases typed
      rfl
  | cons item rest ih =>
      simp only [NamedExpr.columns] at typed
      split at typed
      · cases typed
      · obtain ⟨others, restTyped, rfl⟩ := map_eq_ok.mp typed
        exact congrArg (item.name :: ·) (ih restTyped)

namespace Session

variable {session : Session}

/-- Aggregates once their arguments are rewritten. -/
def rewritten (session : Session) (aggregates : List Aggregate) : List Aggregate :=
  aggregates.map fun aggregate => { aggregate with expr := session.rewriting aggregate.expr }

variable (session) in
theorem sameAggregates_rewritten {left right : List Aggregate}
    (same : SameAggregates left right) :
    SameAggregates (session.rewritten left) (session.rewritten right) := by
  have names : ∀ aggregates : List Aggregate,
      (session.rewritten aggregates).map Aggregate.name = aggregates.map Aggregate.name :=
    fun aggregates => List.map_map ..
  have kept : Corresponds Aggregate.Respelled Aggregate.Respelled left right left right :=
    .self fun _ _ same => same
  refine same.transport (names left) (names right) (kept.map fun one other asks => ?_)
  exact asks.of_expr (respelled_rewriting asks.expr)

/-- **A grouping by respelled keys of the same aggregates up to case.** -/
theorem Alike.aggregate {aligned : Prop} (ignores : session.scope.IgnoresCase) {left right : Plan}
    (input : session.Alike aligned left right) {keys otherKeys : List NamedExpr}
    (sameKeys : List.Forall₂ NamedExpr.Respelled keys otherKeys) {lefts rights : List Aggregate}
    (same : SameAggregates lefts rights) :
    session.Alike False (.aggregate keys lefts left) (.aggregate otherKeys rights right) := by
  unfold Alike
  simp only [Plan.analyzeNode]
  refine input.bind ?_
  rintro ⟨analyzed, first⟩ ⟨otherAnalyzed, second⟩ ⟨schemas, -, outcomes⟩
  refine (alike_resolveNamed ignores schemas sameKeys).bind ?_
  rintro ⟨keys, keyColumns⟩ ⟨otherKeys, otherColumns⟩ ⟨respelled, sameColumns⟩
  refine (alike_resolveAggregates schemas ignores same).bind ?_
  rintro ⟨aggregates, outputs⟩ ⟨otherAggregates, otherOutputs⟩ resolved
  refine .pure ⟨matches_outputs same sameColumns resolved.names resolved.otherNames
    resolved.types, False.elim, outcomes.bind ?_⟩
  rintro ⟨first, rows⟩ ⟨second, others⟩ ⟨schemas, matching, -⟩
  have rewrittenKeys := forall₂_rewriting session respelled
  have rewritten := sameAggregates_rewritten session resolved.same
  refine (alike_columns schemas rewrittenKeys).computed.bind ?_
  rintro keyColumns otherColumns ⟨sameColumns, typedKeys, -⟩
  refine (alike_ofAggregates schemas rewritten.covering).computed.bind ?_
  rintro typed otherTyped ⟨pairs, leftMade, rightMade⟩
  refine (matched_groupRows matching (forall₂_map rewrittenKeys fun _ _ here => here.expr)
    (pairs.covering rewritten.covering)).bind fun grouped otherGrouped results => ?_
  have names : ∀ {schema : Schema} {aggregates : List Aggregate} {typed : List TypedAggregate},
      TypedAggregate.ofAggregates schema aggregates = .ok typed →
        (typed.map TypedAggregate.column).map Column.name = aggregates.map Aggregate.name := by
    intro schema aggregates typed made
    rw [← aggregates_of_ofAggregates made, List.map_map, List.map_map]
    rfl
  have length : (List.map NamedExpr.expr (keys.map fun item =>
      { item with expr := session.rewriting item.expr })).length = keyColumns.length := by
    rw [List.length_map, ← List.length_map NamedExpr.name, ← names_of_columns typedKeys,
      List.length_map]
  refine .ok _ _ ⟨?_, ?_, False.elim⟩
  · exact matches_outputs rewritten sameColumns (names leftMade) (names rightMade)
      (pairs.map fun _ _ same => same.output)
  · refine results.imp fun row other matched => ?_
    rw [length] at matched
    exact matches_matched rewritten sameColumns (names leftMade) (names rightMade) pairs matched

end Session

end ScalarSql
