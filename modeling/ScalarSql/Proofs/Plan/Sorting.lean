import Mathlib.Data.List.FinRange
import ScalarSql.Proofs.Plan.Rows
import ScalarSql.Proofs.Plan.SortOrder

/-!
# Sorted rows

Each key of a sort puts a value before another one: a `NULL` where the key wants it, whichever
way the key goes, and other values in its direction, `SortKey.Puts`.  One row comes ahead of
another if the first key on which they do not tie puts it there, `SortKey.Ahead`.

**Total and stable.**  Where the values of each key are of one kind, and none are doubles, the
keys together make a total preorder, `SortKey.orderAll_then`.  So the rows that a sort gives are
those that come in, rearranged so that of two of them the first is ahead, or ties and came
first, `Plan.run_sort`.
-/

set_option autoImplicit false

namespace ScalarSql

/-- The value is `NULL` or of the kind. -/
def Value.IsOfKind (value : Value) (kind : ValueKind) : Prop :=
  value.isNull = true ∨ value.kind? = some kind

namespace SortKey

open Value

/-! ## What comes first -/

/-- The key puts the left value before the right one. -/
inductive Puts (key : SortKey) (left right : Value) : Prop
  | nullFirst (first : key.nullsFirst = true) (missing : left.isNull = true)
      (present : right.isNull = false)
  | nullLast (last : key.nullsFirst = false) (present : left.isNull = false)
      (missing : right.isNull = true)
  | ascending (up : key.ascending = true) (below : compare? left right = some .lt)
  | descending (down : key.ascending = false) (above : compare? left right = some .gt)

/-- Two values of a key that it does not tell apart. -/
def Ties (left right : Value) : Prop :=
  (left.isNull = true ∧ right.isNull = true) ∨ compare? left right = some .eq

/-- The first key on which two rows do not tie puts the left one first. -/
inductive Ahead : List SortKey → List Value → List Value → Prop
  | here {key : SortKey} {left right : Value} (keys : List SortKey) (lefts rights : List Value)
      (puts : key.Puts left right) : Ahead (key :: keys) (left :: lefts) (right :: rights)
  | later {left right : Value} {keys : List SortKey} {lefts rights : List Value} (key : SortKey)
      (tie : Ties left right) (ahead : Ahead keys lefts rights) :
      Ahead (key :: keys) (left :: lefts) (right :: rights)

/-- Of two rows, given their positions and the values of the keys at each position, the first one
comes ahead, or the two tie and it came first. -/
def InOrder (keys : List SortKey) {count : Nat} (values : Fin count → List Value)
    (first second : Fin count) : Prop :=
  Ahead keys (values first) (values second) ∨
    List.Forall₂ Ties (values first) (values second) ∧ first < second

/-! ## The order of one key -/

variable {key : SortKey} {kind : ValueKind} {left right : Value}

theorem composes_of_kind (notFloat : kind ≠ .float) : Composes (·.IsOfKind kind) := by
  have kindOf : ∀ {value : Value}, value.IsOfKind kind → value.isNull = false →
      value.kind? = some kind := by
    rintro value (missing | isKind) present
    · rw [missing] at present
      cases present
    · exact isKind
  intro _ _ _ ofFirst ofSecond ofThird firstPresent secondPresent thirdPresent
  exact getD_compare?_then_of_kind (kindOf ofFirst firstPresent) (kindOf ofSecond secondPresent)
    (kindOf ofThird thirdPresent) notFloat

/-- What the order of a key says of two values of one kind. -/
theorem of_order (key : SortKey) (notFloat : kind ≠ .float) (ofLeft : left.IsOfKind kind)
    (ofRight : right.IsOfKind kind) :
    (key.order left right = .lt → key.Puts left right) ∧
      (key.order left right = .eq → Ties left right) := by
  cases leftNull : left.isNull with
  | true =>
      cases rightNull : right.isNull with
      | true =>
          have tie : Ties left right := .inl ⟨leftNull, rightNull⟩
          simpa [order, leftNull, rightNull] using tie
      | false =>
          cases wanted : key.nullsFirst with
          | true =>
              have puts : key.Puts left right := .nullFirst wanted leftNull rightNull
              simpa [order, leftNull, rightNull, wanted] using puts
          | false => simp [order, leftNull, rightNull, wanted]
  | false =>
      cases rightNull : right.isNull with
      | true =>
          cases wanted : key.nullsFirst with
          | true => simp [order, leftNull, rightNull, wanted]
          | false =>
              have puts : key.Puts left right := .nullLast wanted leftNull rightNull
              simpa [order, leftNull, rightNull, wanted] using puts
      | false =>
          have leftKind := ofLeft.resolve_left (Bool.eq_false_iff.mp leftNull)
          have rightKind := ofRight.resolve_left (Bool.eq_false_iff.mp rightNull)
          obtain ⟨compared, same⟩ :=
            Option.isSome_iff_exists.mp (compare?_isSome_of_kind leftKind rightKind notFloat)
          rw [order, leftNull, rightNull, sortOrder_swap left right,
            sortOrder_of_present leftNull rightNull, same]
          have ties : compared = .eq → Ties left right := fun equal => .inr (equal ▸ same)
          cases up : key.ascending with
          | true =>
              have puts : compared = .lt → key.Puts left right := fun below =>
                .ascending up (below ▸ same)
              simpa using And.intro puts ties
          | false =>
              have puts : compared = .gt → key.Puts left right := fun above =>
                .descending up (above ▸ same)
              simpa using And.intro puts ties

/-! ## The order of all keys -/

variable {keys : List SortKey} {kinds : List ValueKind} {lefts rights : List Value}

/-- What the order of all keys says of two rows whose values are of the same kinds. -/
theorem of_orderAll (notFloat : ∀ kind ∈ kinds, kind ≠ .float)
    (aligned : keys.length = kinds.length) (ofLeft : List.Forall₂ IsOfKind lefts kinds)
    (ofRight : List.Forall₂ IsOfKind rights kinds) :
    (orderAll keys lefts rights = .lt → Ahead keys lefts rights) ∧
      (orderAll keys lefts rights = .eq → List.Forall₂ Ties lefts rights) := by
  induction keys generalizing kinds lefts rights with
  | nil =>
      obtain rfl := List.eq_nil_of_length_eq_zero aligned.symm
      cases ofLeft
      cases ofRight
      exact ⟨nofun, fun _ => .nil⟩
  | cons key keys ih =>
      cases ofLeft with
      | nil => cases aligned
      | cons leftKind laterLeft =>
          obtain _ | ⟨rightKind, laterRight⟩ := ofRight
          obtain ⟨here, laterNotFloat⟩ := List.forall_mem_cons.mp notFloat
          obtain ⟨puts, ties⟩ := of_order key here leftKind rightKind
          obtain ⟨ahead, allTie⟩ := ih laterNotFloat (Nat.succ.inj aligned) laterLeft laterRight
          rw [orderAll_cons]
          cases order : key.order _ _ with
          | lt => exact ⟨fun _ => .here _ _ _ (puts order), nofun⟩
          | eq =>
              exact ⟨fun below => .later _ (ties order) (ahead below),
                fun same => .cons (ties order) (allTie same)⟩
          | gt => exact ⟨nofun, nofun⟩

/-! ## The values of keys -/

/-- The key has a value on each of the rows, which is `NULL` or of one kind for all of them: a
number other than a double, a text or a truth value. -/
def SortsExactly (key : SortKey) (schema : Schema) (policy : FailurePolicy) (rows : List Row) :
    Prop :=
  ∃ kind ≠ ValueKind.float, ∀ position : Fin rows.length, ∃ value,
    key.expr.evaluate { schema, policy, row := rows.get position, index := position } = .ok value ∧
      value.IsOfKind kind

/-- The values may all have one of the types `INT`, `BIGINT`, `DECIMAL`, `STRING` and
`BOOLEAN`. -/
theorem sortsExactly_of_hasType {schema : Schema} {policy : FailurePolicy} {rows : List Row}
    (type : DataType) (basic : type.isBasic = true) (notDouble : type ≠ .double)
    (typed : ∀ position : Fin rows.length, ∃ value,
      key.expr.evaluate { schema, policy, row := rows.get position, index := position }
        = .ok value ∧ value.hasType type = true) :
    key.SortsExactly schema policy rows := by
  obtain ⟨kind, floats, isKind⟩ := exists_kind_of_hasType basic
  refine ⟨kind, mt floats notDouble, fun position => ?_⟩
  obtain ⟨value, evaluated, ofType⟩ := typed position
  refine ⟨value, evaluated, ?_⟩
  cases missing : value.isNull with
  | true => exact .inl missing
  | false => exact .inr (isKind value ofType missing)

theorem exists_values {context : RowContext} {kindOf : SortKey → ValueKind}
    (each : ∀ key ∈ keys, ∃ value, key.expr.evaluate context = .ok value ∧
      value.IsOfKind (kindOf key)) :
    ∃ values, Expr.evaluateAll context (keys.map SortKey.expr) = .ok values ∧
      List.Forall₂ IsOfKind values (keys.map kindOf) := by
  simp only [Expr.evaluateAll_eq_ok]
  induction keys with
  | nil => exact ⟨[], .nil, .nil⟩
  | cons key keys ih =>
      obtain ⟨⟨value, evaluated, ofKind⟩, later⟩ := List.forall_mem_cons.mp each
      obtain ⟨values, allEvaluated, ofKinds⟩ := ih later
      exact ⟨value :: values, .cons evaluated allEvaluated, .cons ofKind ofKinds⟩

/-! ## Sorting rows by position -/

/-- **Sorting rows with values of the same kinds** rearranges them in the order of the keys. -/
theorem exists_sortRows {rows : List Row} (keys : List SortKey)
    (values : Fin rows.length → List Value) (notFloat : ∀ kind ∈ kinds, kind ≠ .float)
    (aligned : keys.length = kinds.length)
    (ofKinds : ∀ position, List.Forall₂ IsOfKind (values position) kinds) :
    ∃ positions : List (Fin rows.length),
      sortRows keys ((List.ofFn values).zip rows) = .ok (positions.map rows.get) ∧
      positions.Perm (List.finRange rows.length) ∧
      positions.Pairwise (InOrder keys values) := by
  have keyed : (List.ofFn values).zip rows
      = (List.finRange rows.length).map fun position => (values position, rows.get position) := by
    refine List.ext_getElem (by simp) fun position _ _ => ?_
    simp
  have composes : ∀ kept ∈ kinds.map fun kind value => IsOfKind value kind, Composes kept :=
    List.forall_mem_map.mpr fun kind member => composes_of_kind (notFloat kind member)
  have keeps : ∀ position, Keeps (values position)
      (kinds.map fun kind value => IsOfKind value kind) := fun position =>
    List.forall₂_map_right_iff.mpr (ofKinds position)
  have consistent : IsConsistentOn (below keys) (List.ofFn values) :=
    isConsistentOn_below composes (List.forall_mem_ofFn_iff.mpr keeps)
  let lower := fun first second => below keys (values first) (values second)
  refine ⟨stableSort lower (List.finRange rows.length), ?_, stableSort_perm _ _, ?_⟩
  · rw [sortRows_of_isConsistentOn consistent, keyed, stableSort_map, List.map_map]
    rfl
  · have trans : ∀ first second third, lower first second = false →
        lower second third = false → lower first third = false :=
      fun first second third => consistent.trans _ (List.mem_ofFn.mpr ⟨first, rfl⟩) _
        (List.mem_ofFn.mpr ⟨second, rfl⟩) _ (List.mem_ofFn.mpr ⟨third, rfl⟩)
    refine (stableSort_pairwise trans (List.pairwise_lt_finRange rows.length)).imp ?_
    rintro first second precedes
    obtain ⟨ahead, tie⟩ := of_orderAll notFloat aligned (ofKinds first) (ofKinds second)
    rcases precedes with isBelow | ⟨notAbove, earlier⟩
    · exact .inl (ahead (beq_iff_eq.mp isBelow))
    · simp only [lower, below] at notAbove
      rw [beq_eq_false_iff_ne, orderAll_swap keys (values first)] at notAbove
      cases order : orderAll keys (values first) (values second) with
      | lt => exact .inl (ahead order)
      | eq => exact .inr ⟨tie order, earlier⟩
      | gt =>
          rw [order] at notAbove
          exact absurd rfl notAbove

end SortKey

/-! ## The sort of a plan -/

theorem mapRows_ofFn {α : Type} {f : Row → Nat → Except Error α} {index : Nat} {rows : List Row}
    {results : Fin rows.length → α}
    (each : ∀ position, f (rows.get position) (index + position) = .ok (results position)) :
    mapRows f index rows = .ok (List.ofFn results) := by
  induction rows generalizing index with
  | nil => rfl
  | cons row rest ih =>
      have here : f row index = .ok (results 0) := each 0
      have later : mapRows f (index + 1) rest
          = .ok (List.ofFn fun position => results position.succ) :=
        ih fun position => by
          rw [Nat.add_assoc, Nat.add_comm 1]
          exact each position.succ
      rw [mapRows_cons, here, later]
      exact congrArg Except.ok List.ofFn_succ.symm

namespace Plan

variable {catalog : Catalog} {policy : FailurePolicy} {input : Plan} {keys : List SortKey}
  {schema : Schema} {runs : List RowRun}

/-- **Sorting is correct and stable.**  If every key sorts the rows that come in exactly, then the
sort succeeds, and it gives these rows rearranged.  Of two rows that it gives, the first comes
ahead by the first key on which the two do not tie, or the two tie on all keys and the first
one came in earlier. -/
theorem run_sort (ran : input.run catalog policy = .ok (schema, runs))
    (exact : ∀ key ∈ keys, key.SortsExactly schema policy (RowRun.flatten runs)) :
    let rows := RowRun.flatten runs
    ∃ (values : Fin rows.length → List Value) (positions : List (Fin rows.length)),
      (∀ position, Expr.evaluateAll
        { schema, policy, row := rows.get position, index := position }
        (keys.map SortKey.expr) = .ok (values position)) ∧
      (Plan.sort keys input).run catalog policy
        = .ok (schema, RowRun.number 0 [positions.map rows.get]) ∧
      positions.Perm (List.finRange rows.length) ∧ (positions.map rows.get).Perm rows ∧
      positions.Pairwise (SortKey.InOrder keys values) := by
  intro rows
  choose! kindOf notFloat eachKey using exact
  have eachRow : ∀ position : Fin rows.length, ∃ values,
      Expr.evaluateAll { schema, policy, row := rows.get position, index := position }
        (keys.map SortKey.expr) = .ok values ∧
      List.Forall₂ Value.IsOfKind values (keys.map kindOf) :=
    fun position => SortKey.exists_values fun key member => eachKey key member position
  choose values evaluated ofKinds using eachRow
  have projected : projectRows schema policy (keys.map SortKey.expr) 0 rows
      = .ok (List.ofFn values) := by
    rw [projectRows_eq]
    refine mapRows_ofFn fun position => ?_
    rw [Nat.zero_add]
    exact evaluated position
  obtain ⟨positions, sorted, permuted, inOrder⟩ := SortKey.exists_sortRows keys values
    (List.forall_mem_map.mpr notFloat) (List.length_map kindOf).symm ofKinds
  refine ⟨values, positions, evaluated, ?_, permuted, ?_, inOrder⟩
  · simp only [run, ran]
    change projectRows schema policy (keys.map SortKey.expr) 0 rows >>= _ = _
    rw [projected]
    change SortKey.sortRows keys ((List.ofFn values).zip rows) >>= _ = _
    rw [sorted]
    rfl
  · exact SortKey.sortRows_perm List.length_ofFn sorted

/-- Rows sorted downwards by a number with the missing one last, and then upwards by a text with
the missing one first.  Two of them tie and keep their order. -/
theorem run_sort_of_ties :
    let row := fun (a b : Value) (n : Int) => [a, b, .int (.wrap n)]
    let one : Value := .int (.wrap 1)
    let two : Value := .int (.wrap 2)
    let rows := [row two (.string "x") 1, row .null (.string "y") 2, row two .null 3,
      row one (.string "w") 4, row two (.string "x") 5]
    let schema : Schema :=
      { columns := [⟨"a", .int⟩, ⟨"b", .string⟩, ⟨"n", .int⟩], qualifiers := ["t"] }
    let catalog : Catalog := { tables := [("t", { columns := schema.columns, batches := [{
      columns := [("a", .int32), ("b", .utf8), ("n", .int32)]
      rows := [[.number 2, .text "x", .number 1], [.null, .text "y", .number 2],
        [.number 2, .null, .number 3], [.number 1, .text "w", .number 4],
        [.number 2, .text "x", .number 5]] }] })] }
    let keys : List SortKey := [⟨.column "a", false, false⟩, ⟨.column "b", true, true⟩]
    let input : Plan := .scan "t" none
    input.run catalog .abort = .ok (schema, RowRun.number 0 [rows]) ∧
      (∀ key ∈ keys, key.SortsExactly schema .abort rows) ∧
      (Plan.sort keys input).run catalog .abort = .ok (schema, RowRun.number 0
        [[row two .null 3, row two (.string "x") 1, row two (.string "x") 5,
          row one (.string "w") 4, row .null (.string "y") 2]]) ∧
      ∃ (values : Fin 5 → List Value) (positions : List (Fin 5)),
        positions.Perm (List.finRange 5) ∧ positions.Pairwise (SortKey.InOrder keys values) ∧
        positions.map (fun position => rows.get position) = [row two .null 3,
          row two (.string "x") 1, row two (.string "x") 5, row one (.string "w") 4,
          row .null (.string "y") 2] := by
  intro row one two rows schema catalog keys input
  have ran : input.run catalog .abort = .ok (schema, RowRun.number 0 [rows]) := rfl
  have exact : ∀ key ∈ keys, key.SortsExactly schema .abort rows := by
    refine List.forall_mem_cons.mpr ⟨?_, List.forall_mem_singleton.mpr ?_⟩
    · refine SortKey.sortsExactly_of_hasType .int rfl nofun fun position => ?_
      match position with
      | 0 | 2 | 4 => exact ⟨two, rfl, rfl⟩
      | 1 => exact ⟨.null, rfl, rfl⟩
      | 3 => exact ⟨one, rfl, rfl⟩
    · refine SortKey.sortsExactly_of_hasType .string rfl nofun fun position => ?_
      match position with
      | 0 | 4 => exact ⟨.string "x", rfl, rfl⟩
      | 1 => exact ⟨.string "y", rfl, rfl⟩
      | 2 => exact ⟨.null, rfl, rfl⟩
      | 3 => exact ⟨.string "w", rfl, rfl⟩
  obtain ⟨values, positions, -, sorted, permuted, -, inOrder⟩ := run_sort ran exact
  have computed : (Plan.sort keys input).run catalog .abort = .ok (schema, RowRun.number 0
      [[row two .null 3, row two (.string "x") 1, row two (.string "x") 5,
        row one (.string "w") 4, row .null (.string "y") 2]]) := rfl
  have listed := congrArg (fun result => RowRun.flatten result.2)
    (Except.ok.inj (computed.symm.trans sorted))
  simp only [RowRun.flatten_number, List.flatten_singleton] at listed
  exact ⟨ran, exact, computed, values, positions, permuted, inOrder, listed.symm⟩

end Plan

end ScalarSql
