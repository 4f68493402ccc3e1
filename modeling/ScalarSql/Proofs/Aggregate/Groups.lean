import Mathlib.Data.List.Nodup
import ScalarSql.Proofs.Aggregate.Grouping
import ScalarSql.Proofs.Value.Keys

/-!
# What grouping computes

Grouping takes in one row after the other, and every row joins the group of its key or opens
a new one.  In the end there is one group for every key, in the order in which the keys come
first, and its aggregates are those of exactly the rows with this key, in the order of the
input, `groupRows_exact`.

**Keys.**  Two rows belong together if their keys are the same, item by item.  Keys without
doubles are the same if they have one canonical form, so that belonging together is an
equivalence, and the lookup of a key finds its group: `Group.sameKeys_eq_sameItems`.  A
double may differ from itself and may be the same as one that hashes otherwise, and then
none of this holds.

**The invariant.**  `Group.Represents` relates the groups to the rows that are taken in.
One row keeps it, `Group.represents_of_insertRow`, and so do all rows,
`Group.represents_of_insertRows`.
-/

set_option autoImplicit false

namespace ScalarSql

/-- A row with its position in the input and the values of its grouping keys. -/
structure KeyedRow where
  index : Nat
  row : Row
  key : List Value

namespace KeyedRow

/-- What the expressions of a query are evaluated against for this row. -/
def context (schema : Schema) (policy : FailurePolicy) (keyed : KeyedRow) : RowContext :=
  { schema, policy, row := keyed.row, index := keyed.index }

/-- The keyed row is the row at a position of the input, with the values that its grouping
keys have. -/
structure Reads (schema : Schema) (policy : FailurePolicy) (keys : List Expr)
    (input : Row × Nat) (keyed : KeyedRow) : Prop where
  row : keyed.row = input.1
  index : keyed.index = input.2
  key : Expr.evaluateAll (keyed.context schema policy) keys = .ok keyed.key

/-- Whether two rows have the same key. -/
def sharesKey (left right : KeyedRow) : Bool := Value.sameItems left.key right.key

/-- The rows that have the key of the given one, in order. -/
def sharing (rows : List KeyedRow) (first : KeyedRow) : List KeyedRow :=
  rows.filter first.sharesKey

/-- The rows with keys that no row before them has, in order. -/
def firsts (rows : List KeyedRow) : List KeyedRow :=
  rows.filter fun row =>
    ∀ other ∈ rows, other.index < row.index → other.sharesKey row = false

/-- There is no double in the key. -/
def Exact (keyed : KeyedRow) : Prop := Value.itemsHaveDouble keyed.key = false

/-! ## Rows with one key -/

variable {first second third row : KeyedRow} {rows : List KeyedRow}

theorem sharesKey_iff (exact : first.Exact) :
    first.sharesKey second = true ↔
      Value.canonicalItems first.key = Value.canonicalItems second.key :=
  Value.sameItems_iff_canonical _ _ exact

theorem sharesKey_self (exact : first.Exact) : first.sharesKey first = true :=
  (sharesKey_iff exact).mpr rfl

theorem sharesKey_symm (firstExact : first.Exact) (secondExact : second.Exact)
    (shares : first.sharesKey second = true) : second.sharesKey first = true :=
  (sharesKey_iff secondExact).mpr ((sharesKey_iff firstExact).mp shares).symm

theorem sharesKey_trans (firstExact : first.Exact) (secondExact : second.Exact)
    (left : first.sharesKey second = true) (right : second.sharesKey third = true) :
    first.sharesKey third = true :=
  (sharesKey_iff firstExact).mpr
    (((sharesKey_iff firstExact).mp left).trans ((sharesKey_iff secondExact).mp right))

/-- Two rows that share a key with a third one share it. -/
theorem sharesKey_of_common (firstExact : first.Exact) (secondExact : second.Exact)
    (left : first.sharesKey third = true) (right : second.sharesKey third = true) :
    first.sharesKey second = true :=
  (sharesKey_iff firstExact).mpr
    (((sharesKey_iff firstExact).mp left).trans ((sharesKey_iff secondExact).mp right).symm)

theorem mem_firsts :
    row ∈ firsts rows ↔ row ∈ rows ∧
      ∀ other ∈ rows, other.index < row.index → other.sharesKey row = false := by
  rw [firsts, List.mem_filter, decide_eq_true_iff]

/-- The first rows of one more row: the row itself is one if its key is new. -/
theorem firsts_append_singleton (last : ∀ other ∈ rows, other.index < row.index) :
    firsts (rows ++ [row])
      = firsts rows ++ if ∃ other ∈ rows, other.sharesKey row = true then [] else [row] := by
  have before : ∀ other ∈ rows,
      (∀ another ∈ rows ++ [row], another.index < other.index → another.sharesKey other = false)
        ↔ ∀ another ∈ rows, another.index < other.index → another.sharesKey other = false := by
    intro other member
    have later : ¬ row.index < other.index := Nat.not_lt_of_lt (last other member)
    simp only [List.forall_mem_append, List.forall_mem_singleton, later, false_imp_iff, and_true]
  have here : (∀ other ∈ rows ++ [row], other.index < row.index → other.sharesKey row = false)
      ↔ ¬ ∃ other ∈ rows, other.sharesKey row = true := by
    simp only [List.forall_mem_append, List.forall_mem_singleton, Nat.lt_irrefl, false_imp_iff,
      and_true, not_exists, not_and, Bool.not_eq_true]
    exact forall₂_congr fun other member => imp_iff_right (last other member)
  rw [firsts, List.filter_append,
    List.filter_congr fun other member => decide_eq_decide.mpr (before other member), ← firsts]
  congr 1
  by_cases known : ∃ other ∈ rows, other.sharesKey row = true
  · rw [if_pos known, List.filter_eq_nil_iff, List.forall_mem_singleton, decide_eq_true_iff, here]
    exact not_not_intro known
  · rw [if_neg known, List.filter_eq_self, List.forall_mem_singleton, decide_eq_true_iff, here]
    exact known

theorem sharing_append_singleton (first : KeyedRow) :
    sharing (rows ++ [row]) first
      = sharing rows first ++ if first.sharesKey row then [row] else [] := by
  rw [sharing, List.filter_append, List.filter_singleton, ← sharing,
    Bool.cond_eq_ite]

/-- Every row shares its key with one of the first rows. -/
theorem exists_first (exact : ∀ row ∈ rows, row.Exact) (member : row ∈ rows) :
    ∃ first ∈ firsts rows, first.sharesKey row = true := by
  -- Unless the row is a first one itself, some earlier row shares its key.
  induction position : row.index using Nat.strongRecOn generalizing row with
  | _ index ih =>
      by_cases isFirst : row ∈ firsts rows
      · exact ⟨row, isFirst, sharesKey_self (exact row member)⟩
      · have notFirst := mt mem_firsts.mpr isFirst
        simp only [member, true_and, not_forall, Bool.not_eq_false] at notFirst
        obtain ⟨other, otherMember, earlier, shares⟩ := notFirst
        obtain ⟨first, isFirst, firstShares⟩ :=
          ih other.index (position ▸ earlier) otherMember rfl
        have firstExact := exact first (mem_firsts.mp isFirst).1
        exact ⟨first, isFirst,
          sharesKey_trans firstExact (exact other otherMember) firstShares shares⟩

/-- None of the first rows comes after another one with its key. -/
theorem not_index_lt_of_firsts (exact : ∀ row ∈ rows, row.Exact) (isFirst : first ∈ firsts rows)
    (isSecond : second ∈ firsts rows) (firstShares : first.sharesKey row = true)
    (secondShares : second.sharesKey row = true) : ¬ first.index < second.index := by
  intro before
  obtain ⟨firstMember, -⟩ := mem_firsts.mp isFirst
  obtain ⟨secondMember, secondIsNew⟩ := mem_firsts.mp isSecond
  have apart := secondIsNew first firstMember before
  rw [sharesKey_of_common (exact first firstMember) (exact second secondMember) firstShares
    secondShares] at apart
  cases apart

/-- **Every row shares its key with exactly one of the first rows.** -/
theorem existsUnique_first (increasing : rows.Pairwise fun left right => left.index < right.index)
    (exact : ∀ row ∈ rows, row.Exact) (member : row ∈ rows) :
    ∃! first, first ∈ firsts rows ∧ first.sharesKey row = true := by
  obtain ⟨first, isFirst, shares⟩ := exists_first exact member
  refine ⟨first, ⟨isFirst, shares⟩, fun other ⟨otherIsFirst, otherShares⟩ => ?_⟩
  have positions : (rows.map index).Nodup := List.pairwise_map.mpr (increasing.imp Nat.ne_of_lt)
  refine List.inj_on_of_nodup_map positions (mem_firsts.mp otherIsFirst).1
    (mem_firsts.mp isFirst).1 ?_
  apply Nat.le_antisymm
  · exact Nat.le_of_not_lt (not_index_lt_of_firsts exact isFirst otherIsFirst shares otherShares)
  · exact Nat.le_of_not_lt (not_index_lt_of_firsts exact otherIsFirst isFirst otherShares shares)

/-- No two of the first rows share a key with another row. -/
theorem firsts_apart (increasing : rows.Pairwise fun left right => left.index < right.index)
    (exact : ∀ row ∈ rows, row.Exact) (row : KeyedRow) :
    (firsts rows).Pairwise fun left right =>
      left.sharesKey row = true → right.sharesKey row = false := by
  have inOrder : (firsts rows).Pairwise fun left right => left.index < right.index :=
    increasing.filter _
  refine inOrder.imp_of_mem fun leftFirst rightFirst before leftShares => ?_
  rw [← Bool.not_eq_true]
  intro rightShares
  exact not_index_lt_of_firsts exact leftFirst rightFirst leftShares rightShares before

/-- A key that is new to the first rows is new to all rows. -/
theorem sharing_eq_nil (exact : ∀ row ∈ rows, row.Exact) (rowExact : row.Exact)
    (new : ∀ first ∈ firsts rows, first.sharesKey row = false) : sharing rows row = [] := by
  refine List.filter_eq_nil_iff.mpr fun other member shares => ?_
  obtain ⟨first, isFirst, firstShares⟩ := exists_first exact member
  have otherExact := exact other member
  have reached := sharesKey_trans (exact first (mem_firsts.mp isFirst).1) otherExact firstShares
    (sharesKey_symm rowExact otherExact shares)
  rw [new first isFirst] at reached
  cases reached

theorem firsts_eq_nil (exact : ∀ row ∈ rows, row.Exact) : firsts rows = [] ↔ rows = [] := by
  constructor
  · intro noFirst
    cases rows with
    | nil => rfl
    | cons row rest =>
        obtain ⟨first, isFirst, -⟩ := exists_first exact List.mem_cons_self
        rw [noFirst] at isFirst
        cases isFirst
  · rintro rfl
    rfl

end KeyedRow

/-! ## Aggregates over some rows -/

namespace TypedAggregate

/-- The accumulator of an aggregate after some rows: a fresh one, updated with the value of
the argument on each of them. -/
def Reaches (schema : Schema) (policy : FailurePolicy) (rows : List KeyedRow)
    (typed : TypedAggregate) (state : Accumulator) : Prop :=
  ∃ values,
    List.Forall₂ (fun row value =>
      typed.aggregate.expr.evaluate (row.context schema policy) = .ok value) rows values ∧
    values.foldlM (fun state value => state.update value typed.sumType)
      (Accumulator.start typed.aggregate.function) = .ok state

/-- The result of an aggregate over some rows. -/
def HasResult (schema : Schema) (policy : FailurePolicy) (rows : List KeyedRow)
    (typed : TypedAggregate) (result : Value) : Prop :=
  ∃ state, typed.Reaches schema policy rows state ∧ state.finish = .ok result

variable {schema : Schema} {policy : FailurePolicy} {rows : List KeyedRow}

theorem reaches_nil (typed : TypedAggregate) :
    typed.Reaches schema policy [] (.start typed.aggregate.function) :=
  ⟨[], .nil, rfl⟩

/-- One more row is one more update. -/
theorem reaches_append_singleton {typed : TypedAggregate} {state next : Accumulator}
    {row : KeyedRow} {value : Value} (reaches : typed.Reaches schema policy rows state)
    (evaluated : typed.aggregate.expr.evaluate (row.context schema policy) = .ok value)
    (updated : state.update value typed.sumType = .ok next) :
    typed.Reaches schema policy (rows ++ [row]) next := by
  obtain ⟨values, arguments, run⟩ := reaches
  refine ⟨values ++ [value], List.rel_append arguments (.cons evaluated .nil), ?_⟩
  rw [List.foldlM_append, run]
  exact (bind_pure (state.update value typed.sumType)).trans updated

end TypedAggregate

namespace Group

variable {schema : Schema} {policy : FailurePolicy} {aggregates : List TypedAggregate}

theorem reaches_fresh (key : List Value) :
    List.Forall₂ (TypedAggregate.Reaches schema policy []) aggregates
      (fresh aggregates key).states := by
  rw [fresh, List.forall₂_map_right_iff, List.forall₂_same]
  exact fun typed _ => typed.reaches_nil

/-- **Taking in a row** is one more update of every aggregate. -/
theorem reaches_of_takeRow {rows : List KeyedRow} {row : KeyedRow}
    {states next : List Accumulator}
    (reaches : List.Forall₂ (TypedAggregate.Reaches schema policy rows) aggregates states)
    (taken : takeRow (row.context schema policy) aggregates states = .ok next) :
    List.Forall₂ (TypedAggregate.Reaches schema policy (rows ++ [row])) aggregates next := by
  induction reaches generalizing next with
  | nil =>
      cases taken
      exact .nil
  | cons here _ ih =>
      simp only [takeRow] at taken
      split at taken
      · cases taken
      · next evaluated =>
          split at taken
          · cases taken
          · next updated =>
              obtain ⟨_, othersTaken, rfl⟩ := map_eq_ok.mp taken
              exact .cons (TypedAggregate.reaches_append_singleton here evaluated updated)
                (ih othersTaken)

/-! ## One row -/

/-- Keys without doubles are looked up by being the same. -/
theorem sameKeys_eq_sameItems {left : List Value}
    (noDouble : Value.itemsHaveDouble left = false) (right : List Value) :
    sameKeys left right = Value.sameItems left right := by
  induction left generalizing right with
  | nil => cases right <;> rfl
  | cons first rest ih =>
      simp only [Value.itemsHaveDouble, Bool.or_eq_false_iff] at noDouble
      cases right with
      | nil => rfl
      | cons other others =>
          rw [sameKeys, Value.sameItems, ih noDouble.2, Value.sameKey_eq_same noDouble.1]

/-- **What a row does to the groups.**  It joins the group of its key, or if there is none it
opens one after all others.  `old` is what relates the groups to their first rows and `new`
what relates them afterwards, and `shares` says which first rows have the key. -/
theorem insertRow_cases {context : RowContext} {key : List Value}
    {heads : List KeyedRow} {groups next : List Group} (old new : KeyedRow → Group → Prop)
    (shares : KeyedRow → Bool)
    (lookup : ∀ head group, old head group → sameKeys group.key key = shares head)
    (passes : ∀ head group, old head group → shares head = false → new head group)
    (joins : ∀ head group states, old head group → shares head = true →
      takeRow context aggregates group.states = .ok states → new head { group with states })
    (apart : heads.Pairwise fun left right => shares left = true → shares right = false)
    (related : List.Forall₂ old heads groups)
    (inserted : insertRow context aggregates key groups = .ok next) :
    ((∃ head ∈ heads, shares head = true) ∧ List.Forall₂ new heads next) ∨
    ((∀ head ∈ heads, shares head = false) ∧ ∃ kept states,
      List.Forall₂ new heads kept ∧ next = kept ++ [⟨key, states⟩] ∧
      takeRow context aggregates (fresh aggregates key).states = .ok states) := by
  induction related generalizing next with
  | nil =>
      obtain ⟨states, taken, rfl⟩ := map_eq_ok.mp inserted
      exact .inr ⟨nofun, [], states, .nil, rfl, taken⟩
  | @cons head group heads groups here later ih =>
      obtain ⟨headApart, restApart⟩ := List.pairwise_cons.mp apart
      rw [insertRow, lookup head group here] at inserted
      split at inserted
      · next found =>
          obtain ⟨states, taken, rfl⟩ := map_eq_ok.mp inserted
          have kept : List.Forall₂ new heads groups :=
            ((List.forall₂_and_left heads groups).mpr
              ⟨fun other member => headApart other member found, later⟩).imp
              fun other otherGroup both => passes other otherGroup both.2 both.1
          exact .inl ⟨⟨head, List.mem_cons_self, found⟩,
            .cons (joins head group states here found taken) kept⟩
      · next missed =>
          have missed := Bool.eq_false_iff.mpr missed
          obtain ⟨rest, restInserted, rfl⟩ := map_eq_ok.mp inserted
          have kept := passes head group here missed
          rcases ih restApart restInserted with ⟨⟨other, member, found⟩, others⟩ |
            ⟨noneFound, others, states, related, rfl, taken⟩
          · exact .inl ⟨⟨other, List.mem_cons_of_mem _ member, found⟩, .cons kept others⟩
          · exact .inr ⟨List.forall_mem_cons.mpr ⟨missed, noneFound⟩, group :: others, states,
              .cons kept related, rfl, taken⟩

/-- The group holds the key of its first row, and the accumulators have taken in exactly the
rows with this key, in order. -/
structure Collects (schema : Schema) (policy : FailurePolicy) (aggregates : List TypedAggregate)
    (rows : List KeyedRow) (first : KeyedRow) (group : Group) : Prop where
  key : group.key = first.key
  states : List.Forall₂
    (TypedAggregate.Reaches schema policy (KeyedRow.sharing rows first)) aggregates group.states

namespace Collects

variable {rows : List KeyedRow} {first row : KeyedRow} {group : Group}

/-- A row with another key leaves a group as it is. -/
theorem passes (collects : Collects schema policy aggregates rows first group)
    (missed : first.sharesKey row = false) :
    Collects schema policy aggregates (rows ++ [row]) first group := by
  refine ⟨collects.key, ?_⟩
  rw [KeyedRow.sharing_append_singleton, missed, if_neg Bool.false_ne_true, List.append_nil]
  exact collects.states

/-- A row with the key of a group is taken in. -/
theorem joins {states : List Accumulator}
    (collects : Collects schema policy aggregates rows first group)
    (found : first.sharesKey row = true)
    (taken : takeRow (row.context schema policy) aggregates group.states = .ok states) :
    Collects schema policy aggregates (rows ++ [row]) first { group with states } := by
  refine ⟨collects.key, ?_⟩
  rw [KeyedRow.sharing_append_singleton, found, if_pos rfl]
  exact reaches_of_takeRow collects.states taken

/-- The group that a row with a new key opens. -/
theorem opens {states : List Accumulator} (exact : row.Exact)
    (new : KeyedRow.sharing rows row = [])
    (taken : takeRow (row.context schema policy) aggregates (fresh aggregates row.key).states
      = .ok states) :
    Collects schema policy aggregates (rows ++ [row]) row ⟨row.key, states⟩ := by
  refine ⟨rfl, ?_⟩
  rw [KeyedRow.sharing_append_singleton, new, KeyedRow.sharesKey_self exact, if_pos rfl]
  exact reaches_of_takeRow (reaches_fresh row.key) taken

end Collects

/-- The groups after some rows: one for each row that is the first with its key. -/
structure Represents (schema : Schema) (policy : FailurePolicy)
    (aggregates : List TypedAggregate) (rows : List KeyedRow) (groups : List Group) : Prop where
  increasing : rows.Pairwise fun left right => left.index < right.index
  exact : ∀ row ∈ rows, row.Exact
  collected : List.Forall₂ (Collects schema policy aggregates rows) (KeyedRow.firsts rows) groups

theorem represents_nil : Represents schema policy aggregates [] [] :=
  ⟨.nil, nofun, .nil⟩

/-- **One more row**: the group of its key takes it in, and all others stay as they are. -/
theorem represents_of_insertRow {rows : List KeyedRow} {row : KeyedRow} {groups next : List Group}
    (represents : Represents schema policy aggregates rows groups)
    (last : ∀ other ∈ rows, other.index < row.index) (rowExact : row.Exact)
    (inserted : insertRow (row.context schema policy) aggregates row.key groups = .ok next) :
    Represents schema policy aggregates (rows ++ [row]) next := by
  obtain ⟨increasing, exact, collected⟩ := represents
  have lookup : ∀ first group, first.Exact ∧ Collects schema policy aggregates rows first group →
      sameKeys group.key row.key = first.sharesKey row := by
    rintro first group ⟨firstExact, collects⟩
    rw [collects.key, sameKeys_eq_sameItems firstExact, KeyedRow.sharesKey]
  have related : List.Forall₂
      (fun first group => first.Exact ∧ Collects schema policy aggregates rows first group)
      (KeyedRow.firsts rows) groups :=
    (List.forall₂_and_left _ _).mpr
      ⟨fun first isFirst => exact first (KeyedRow.mem_firsts.mp isFirst).1, collected⟩
  refine ⟨?_, List.forall_mem_append.mpr ⟨exact, List.forall_mem_singleton.mpr rowExact⟩, ?_⟩
  · exact List.pairwise_append.mpr ⟨increasing, List.pairwise_singleton _ _,
      fun other member _ isRow => List.mem_singleton.mp isRow ▸ last other member⟩
  · rw [KeyedRow.firsts_append_singleton last]
    rcases insertRow_cases _ (Collects schema policy aggregates (rows ++ [row])) _ lookup
      (fun _ _ both => both.2.passes) (fun _ _ _ both => both.2.joins)
      (KeyedRow.firsts_apart increasing exact row) related inserted with
      ⟨⟨first, isFirst, found⟩, related⟩ | ⟨new, kept, states, related, rfl, taken⟩
    · rw [if_pos ⟨first, (KeyedRow.mem_firsts.mp isFirst).1, found⟩, List.append_nil]
      exact related
    · have alone := KeyedRow.sharing_eq_nil exact rowExact new
      have unknown : ¬ ∃ other ∈ rows, other.sharesKey row = true := by
        rintro ⟨other, member, shares⟩
        exact List.filter_eq_nil_iff.mp alone other member
          (KeyedRow.sharesKey_symm (exact other member) rowExact shares)
      rw [if_neg unknown]
      exact List.rel_append related (.cons (.opens rowExact alone taken) .nil)

/-! ## All rows -/

variable {keys : List Expr}

/-- **All rows**: the groups represent them, if no key has a double in it. -/
theorem represents_of_insertRows {seen : List KeyedRow} {groups result : List Group}
    {index : Nat} {rows : List Row}
    (represents : Represents schema policy aggregates seen groups)
    (last : ∀ other ∈ seen, other.index < index)
    (noDouble : ∀ input ∈ rows.zipIdx index, ∀ keyed : KeyedRow,
      keyed.Reads schema policy keys input → keyed.Exact)
    (inserted : insertRows schema policy keys aggregates groups index rows = .ok result) :
    ∃ keyed, List.Forall₂ (KeyedRow.Reads schema policy keys) (rows.zipIdx index) keyed ∧
      Represents schema policy aggregates (seen ++ keyed) result := by
  induction rows generalizing seen groups index with
  | nil =>
      cases inserted
      exact ⟨[], .nil, (List.append_nil seen).symm ▸ represents⟩
  | cons row rest ih =>
      simp only [insertRows] at inserted
      split at inserted
      · cases inserted
      · next key evaluated =>
          split at inserted
          · cases inserted
          · next next rowInserted =>
              have reads : KeyedRow.Reads schema policy keys (row, index) ⟨index, row, key⟩ :=
                ⟨rfl, rfl, evaluated⟩
              rw [List.zipIdx_cons, List.forall_mem_cons] at noDouble
              have stepped := represents_of_insertRow represents last (noDouble.1 _ reads)
                rowInserted
              obtain ⟨keyed, allRead, represented⟩ := ih stepped
                (List.forall_mem_append.mpr ⟨fun other member =>
                  Nat.lt_succ_of_lt (last other member),
                  List.forall_mem_singleton.mpr (Nat.lt_succ_self index)⟩) noDouble.2 inserted
              rw [List.append_assoc] at represented
              exact ⟨_ :: keyed, .cons reads allRead, represented⟩

/-! ## Result rows -/

theorem finishRows_eq_ok {groups : List Group} {output : List Row}
    (finished : finishRows groups = .ok output) :
    List.Forall₂ (fun group row => ∃ results, row = group.key ++ results ∧
      List.Forall₂ (fun state result => state.finish = .ok result) group.states results)
      groups output := by
  induction groups generalizing output with
  | nil =>
      cases finished
      exact .nil
  | cons group rest ih =>
      simp only [finishRows] at finished
      split at finished
      · cases finished
      · next results result =>
          obtain ⟨_, restFinished, rfl⟩ := map_eq_ok.mp finished
          exact .cons ⟨results, rfl, finishAll_eq_ok result⟩ (ih restFinished)

/-- The result row of a group: the key of its first row, and then the results of the
aggregates over exactly the rows with this key. -/
def Summarizes (schema : Schema) (policy : FailurePolicy) (aggregates : List TypedAggregate)
    (rows : List KeyedRow) (first : KeyedRow) (output : Row) : Prop :=
  ∃ results, output = first.key ++ results ∧
    List.Forall₂ (TypedAggregate.HasResult schema policy (KeyedRow.sharing rows first))
      aggregates results

/-- The accumulators of some aggregates are finished one by one. -/
theorem hasResults_of_finish {rows : List KeyedRow} {states : List Accumulator}
    {results : List Value}
    (reached : List.Forall₂ (TypedAggregate.Reaches schema policy rows) aggregates states)
    (finished : List.Forall₂ (fun state result => state.finish = .ok result) states results) :
    List.Forall₂ (TypedAggregate.HasResult schema policy rows) aggregates results := by
  induction reached generalizing results with
  | nil =>
      cases finished
      exact .nil
  | cons here _ ih =>
      cases finished with
      | cons result later => exact .cons ⟨_, here, result⟩ (ih later)

theorem summarizes_of_finishRows {rows firsts : List KeyedRow} {groups : List Group}
    {output : List Row}
    (collected : List.Forall₂ (Collects schema policy aggregates rows) firsts groups)
    (finished : finishRows groups = .ok output) :
    List.Forall₂ (Summarizes schema policy aggregates rows) firsts output := by
  have results := finishRows_eq_ok finished
  clear finished
  induction collected generalizing output with
  | nil =>
      cases results
      exact .nil
  | cons here _ ih =>
      cases results with
      | cons result later =>
          obtain ⟨values, rfl, states⟩ := result
          exact .cons ⟨values, by rw [here.key], hasResults_of_finish here.states states⟩
            (ih later)

end Group

/-- **Grouping is exact.**  Let no key have a double in it.  Then the input is read as rows
with their keys, and the result has one row for each of them that is the first with its key,
in order: this key, and the results of the aggregates over exactly the rows with the key,
in the order of the input.  Every row belongs to exactly one group.  Without grouping keys
and without rows there is one row, of the results of fresh accumulators. -/
theorem groupRows_exact {schema : Schema} {policy : FailurePolicy} {keys : List Expr}
    {aggregates : List TypedAggregate} {rows output : List Row}
    (noDouble : ∀ (index : Nat) (row : Row) (key : List Value), rows[index]? = some row →
      Expr.evaluateAll { schema, policy, row, index } keys = .ok key →
        ∀ value ∈ key, value.hasDouble = false)
    (grouped : groupRows schema policy keys aggregates rows = .ok output) :
    ∃ keyed, List.Forall₂ (KeyedRow.Reads schema policy keys) rows.zipIdx keyed ∧
      (∀ row ∈ keyed, ∃! first, first ∈ KeyedRow.firsts keyed ∧ first.sharesKey row = true) ∧
      (keys ≠ [] ∨ rows ≠ [] →
        List.Forall₂ (Group.Summarizes schema policy aggregates keyed) (KeyedRow.firsts keyed)
          output) ∧
      (keys = [] → rows = [] → ∃ results, output = [results] ∧
        List.Forall₂ (TypedAggregate.HasResult schema policy []) aggregates results) := by
  have exactKeys : ∀ input ∈ rows.zipIdx, ∀ keyed : KeyedRow,
      keyed.Reads schema policy keys input → keyed.Exact := by
    rintro ⟨row, index⟩ member ⟨_, _, key⟩ ⟨rfl, rfl, evaluated⟩
    exact Value.itemsHaveDouble_eq_false.mpr
      (noDouble _ _ key (List.mem_zipIdx_iff_getElem?.mp member) evaluated)
  unfold groupRows at grouped
  split at grouped
  · cases grouped
  · next groups inserted =>
      obtain ⟨keyed, read, increasing, exact, collected⟩ :=
        Group.represents_of_insertRows Group.represents_nil nofun exactKeys inserted
      rw [List.nil_append] at increasing exact collected
      have noGroups : groups = [] ↔ rows = [] := by
        rw [← List.length_eq_zero_iff, ← List.length_eq_zero_iff, ← collected.length_eq,
          List.length_eq_zero_iff, KeyedRow.firsts_eq_nil exact,
          ← List.length_eq_zero_iff, ← read.length_eq, List.length_zipIdx]
      refine ⟨keyed, read, fun row => KeyedRow.existsUnique_first increasing exact, ?_, ?_⟩
      · intro some
        have regular : ¬ (groups.isEmpty && keys.isEmpty) = true := by
          rw [Bool.and_eq_true, List.isEmpty_iff, List.isEmpty_iff, noGroups]
          tauto
        rw [if_neg regular] at grouped
        exact Group.summarizes_of_finishRows collected grouped
      · rintro rfl rfl
        rw [noGroups.mpr rfl] at grouped
        cases Group.finishRows_eq_ok grouped with
        | cons result later =>
            obtain ⟨_, rfl, finished⟩ := result
            cases later
            exact ⟨_, rfl, Group.hasResults_of_finish (Group.reaches_fresh []) finished⟩

/-- The keys `1.0` and `1.00` are the same, and so are two `NULL`s. -/
theorem groupRows_exact_of_scales :
    let schema : Schema := { columns := [⟨"k", .decimal⟩, ⟨"v", .long⟩] }
    let long (number : Int) : Value := .long (BoundedInt.wrap number)
    let one : Value := .decimal ⟨false, 10, 1, by decide, by decide⟩
    let precise : Value := .decimal ⟨false, 100, 2, by decide, by decide⟩
    let rows : List Row := [[one, long 1], [.null, long 2], [precise, long 4], [.null, .null]]
    let aggregates : List TypedAggregate :=
      [⟨⟨.sum, .column "v", "s"⟩, .long⟩, ⟨⟨.count, .column "v", "c"⟩, .long⟩]
    let output : List Row := [[one, long 5, long 2], [.null, long 2, long 1]]
    groupRows schema .abort [.column "k"] aggregates rows = .ok output ∧
      ∃ keyed, List.Forall₂ (KeyedRow.Reads schema .abort [.column "k"]) rows.zipIdx keyed ∧
        List.Forall₂ (Group.Summarizes schema .abort aggregates keyed) (KeyedRow.firsts keyed)
          output := by
  intro schema long one precise rows aggregates output
  have grouped : groupRows schema .abort [.column "k"] aggregates rows = .ok output := by rfl
  have noDouble : ∀ (index : Nat) (row : Row) (key : List Value), rows[index]? = some row →
      Expr.evaluateAll { schema, policy := .abort, row, index } [.column "k"] = .ok key →
        ∀ value ∈ key, value.hasDouble = false := by
    intro index row key atIndex evaluated
    rcases index with _ | _ | _ | _ | _ <;> cases atIndex <;> cases evaluated <;>
      exact List.forall_mem_singleton.mpr rfl
  obtain ⟨keyed, read, -, summarized, -⟩ := groupRows_exact noDouble grouped
  exact ⟨grouped, keyed, read, summarized (.inl (List.cons_ne_nil _ _))⟩

end ScalarSql
