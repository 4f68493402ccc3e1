import ScalarSql.Proofs.Plan.Aliases
import ScalarSql.Proofs.Value.Typing

/-!
# What a sort key is read from

A sort key is first looked for among the items of the select list, then among the names of
the result, and is otherwise computed in a hidden column, `SortsBy`.  Every outcome but the
last option of a star is a name, which is looked up again among the visible columns and,
behind them, the hidden ones.

**As written.**  A lone name of a result column is meant to be read from that column, and
any other key is meant to be computed.  `ReadsAsWritten` says what must not stand in the
way: an item that is the table's column of the name but is called otherwise, a plain column
that is called like one of the result, and a visible column that is called like a hidden
one.  Under these conditions the lookup ends where it should,
`ReadsAsWritten.named_position` and `ReadsAsWritten.computed_position`.
-/

set_option autoImplicit false

namespace ScalarSql

namespace Plan

/-! ## Hidden columns -/

/-- The name of the hidden column at a position. -/
def hiddenName (position : Nat) : String := "__order_" ++ Nat.repr position

theorem toLower_of_isDigit {c : Char} (digit : c.isDigit = true) : c.toLower = c := by
  simp only [Char.isDigit, Bool.and_eq_true, decide_eq_true_eq] at digit
  refine dif_neg ?_
  rintro ⟨atLeast, -⟩
  exact absurd (UInt32.le_trans atLeast digit.2) (by decide)

theorem hiddenName_injective {left right : Nat}
    (same : Text.sameName (hiddenName left) (hiddenName right) = true) : left = right := by
  -- Digits have no case, so that the names are equal as they stand.
  have lower : ∀ number : Nat, (Nat.repr number).toList.map Char.toLower
      = (Nat.repr number).toList := by
    intro number
    refine (List.map_congr_left fun c member => ?_).trans (List.map_id _)
    refine toLower_of_isDigit (Nat.isDigit_of_mem_toDigits (b := 10) (n := number) ?_ ?_ ?_)
    · omega
    · omega
    · simpa [Nat.repr] using member
  simp only [Text.sameName, hiddenName, String.toList_append, List.map_append, beq_iff_eq,
    List.append_cancel_left_eq, lower] at same
  have digits := congrArg (Nat.ofDigitChars 10 · 0) same
  simpa [Nat.repr] using digits

/-- Hidden columns are named by their positions. -/
def HiddenNamed (hidden : List NamedExpr) : Prop :=
  ∀ position column, hidden[position]? = some column → column.name = hiddenName position

theorem hiddenNamed_nil : HiddenNamed [] := by
  intro position column none
  rw [List.getElem?_nil] at none
  cases none

/-- An expression is computed by a column, as far as the plan can tell. -/
def Computes (column : NamedExpr) (expr : Expr) : Prop :=
  column.expr = expr ∨ Expr.same column.expr expr = true

/-- Hiding an expression keeps the hidden columns and gives the name of one of them that
computes it. -/
theorem of_hide {hidden all : List NamedExpr} {expr : Expr} {name : String}
    (named : HiddenNamed hidden) (hid : hide hidden expr = (name, all)) :
    HiddenNamed all ∧ hidden <+: all ∧ ∃ column ∈ all, column.name = name ∧
      Computes column expr := by
  unfold hide at hid
  split at hid
  · next column found =>
      cases hid
      exact ⟨named, List.prefix_rfl, column, List.mem_of_find?_eq_some found, rfl,
        .inr (List.find?_some (p := fun other => Expr.same (NamedExpr.expr other) expr) found)⟩
  · cases hid
    refine ⟨?_, List.prefix_append .., _, List.mem_append_right _ List.mem_cons_self, rfl,
      .inl rfl⟩
    intro position column atPosition
    rw [List.getElem?_append] at atPosition
    split at atPosition
    · exact named position column atPosition
    · next beyond =>
        rw [List.getElem?_singleton] at atPosition
        split at atPosition
        · next last =>
            cases atPosition
            have here : hidden.length = position := by omega
            rw [here]
            rfl
        · cases atPosition

/-! ## The three rules -/

/-- Some column has the name, up to case. -/
def Names (columns : List NamedExpr) (name : String) : Prop :=
  ∃ column ∈ columns, Text.sameName column.name name = true

/-- What becomes of a sort key that is planned as `written`. -/
inductive SortsBy (columns hidden : List NamedExpr) (written : Expr) : Expr → Prop where
  /-- A star has all columns of the table, so that the key is computed from the result. -/
  | star (none : columns = []) : SortsBy columns hidden written written
  /-- The first item of the select list that is planned alike gives its name. -/
  | item (column : NamedExpr)
      (found : columns.find? (fun column => Expr.same column.expr written) = some column) :
      SortsBy columns hidden written (.column column.name)
  /-- A column that is called like one of the result stands for that one. -/
  | named (name : String) (plain : written = .column name)
      (none : columns.find? (fun column => Expr.same column.expr written) = none)
      (called : Names columns name) : SortsBy columns hidden written (.column name)
  /-- Anything else is hidden. -/
  | hidden (column : NamedExpr) (member : column ∈ hidden) (computes : Computes column written)
      (none : columns.find? (fun column => Expr.same column.expr written) = none)
      (uncalled : ∀ name, written = .column name → ¬ Names columns name) :
      SortsBy columns hidden written (.column column.name)

/-- More hidden columns make no difference to a key. -/
theorem SortsBy.mono {columns hidden all : List NamedExpr} {written expr : Expr}
    (sorts : SortsBy columns hidden written expr) (kept : hidden <+: all) :
    SortsBy columns all written expr := by
  cases sorts with
  | star none => exact .star none
  | item column found => exact .item column found
  | named name plain none called => exact .named name plain none called
  | hidden column member computes none uncalled =>
      exact .hidden column (kept.subset member) computes none uncalled

theorem isOutput_iff {columns : List NamedExpr} {expr : Expr} :
    isOutput columns expr = true ↔
      columns = [] ∨ ∃ name, expr = .column name ∧ Names columns name := by
  unfold isOutput
  rw [Bool.or_eq_true, List.isEmpty_iff]
  refine or_congr_right ?_
  cases expr with
  | column name =>
      rw [List.any_eq_true]
      constructor
      · exact fun called => ⟨name, rfl, called⟩
      · rintro ⟨_, same, called⟩
        cases same
        exact called
  | _ => simp

/-- What the rules of a select list make of a planned key. -/
theorem sortsBy_of_hide {columns hidden all : List NamedExpr} {written expr : Expr}
    (named : HiddenNamed hidden)
    (chosen : (if isOutput columns ((Expr.keyColumn? columns written).getD written)
      then ((Expr.keyColumn? columns written).getD written, hidden)
      else
        let (name, extended) := hide hidden ((Expr.keyColumn? columns written).getD written)
        (.column name, extended)) = (expr, all)) :
    HiddenNamed all ∧ hidden <+: all ∧ SortsBy columns all written expr := by
  unfold Expr.keyColumn? at chosen
  cases found : columns.find? fun column => Expr.same column.expr written with
  | some column =>
      have called : isOutput columns (.column column.name) = true :=
        isOutput_iff.mpr (.inr ⟨_, rfl, column, List.mem_of_find?_eq_some found,
          Text.sameName_refl _⟩)
      rw [found, Option.map_some, Option.getD_some, if_pos called] at chosen
      cases chosen
      exact ⟨named, List.prefix_rfl, .item column found⟩
  | none =>
      rw [found, Option.map_none, Option.getD_none] at chosen
      split at chosen
      · next output =>
          cases chosen
          refine ⟨named, List.prefix_rfl, ?_⟩
          rcases isOutput_iff.mp output with star | ⟨name, plain, called⟩
          · exact .star star
          · rw [plain] at found ⊢
            exact .named name rfl found called
      · next notOutput =>
          cases hid : hide hidden written with
          | mk name extended =>
              rw [hid] at chosen
              cases chosen
              obtain ⟨stillNamed, kept, column, member, rfl, computes⟩ := of_hide named hid
              refine ⟨stillNamed, kept, .hidden column member computes found ?_⟩
              intro name plain called
              exact notOutput (isOutput_iff.mpr (.inr ⟨name, plain, called⟩))

/-- **All sort keys**: every key is planned by one of the rules. -/
theorem of_sortKeys {scope : NameScope} {columns hidden : List NamedExpr}
    {order : List Syntax.OrderItem} {planned : List SortKey × List NamedExpr}
    (named : HiddenNamed hidden)
    (read : sortKeys scope columns hidden order = .ok planned) :
    HiddenNamed planned.2 ∧ hidden <+: planned.2 ∧ planned.1.length = order.length ∧
      ∀ (position : Nat) (item : Syntax.OrderItem) (key : SortKey),
        order[position]? = some item → planned.1[position]? = some key →
          ∃ written, sortExpr scope item.term = .ok written ∧
            SortsBy columns planned.2 written key.expr := by
  induction order generalizing hidden planned with
  | nil =>
      cases read
      exact ⟨named, List.prefix_rfl, rfl, fun _ _ _ none => nomatch none⟩
  | cons item rest ih =>
      simp only [sortKeys, sortKey, bind_eq_ok, map_eq_ok] at read
      obtain ⟨key, ⟨written, planning, rfl⟩, ⟨keys, all⟩, restRead, made⟩ := read
      cases chosen : (if isOutput columns ((Expr.keyColumn? columns written).getD written)
        then ((Expr.keyColumn? columns written).getD written, hidden)
        else
          let (name, extended) := hide hidden ((Expr.keyColumn? columns written).getD written)
          (Expr.column name, extended)) with
      | mk expr extended =>
          dsimp only at restRead made
          rw [chosen] at restRead made
          obtain ⟨stillNamed, kept, sorts⟩ := sortsBy_of_hide named chosen
          obtain ⟨allNamed, allKept, length, others⟩ := ih stillNamed restRead
          cases made
          refine ⟨allNamed, kept.trans allKept, congrArg Nat.succ length, ?_⟩
          intro position other key atItem atKey
          cases position with
          | zero =>
              cases atItem
              cases atKey
              exact ⟨written, planning, sorts.mono allKept⟩
          | succ position => exact others position other key atItem atKey

/-! ## Looking the name up again -/

/-- No two columns have the same name, ignoring case. -/
def DistinctNames (columns : List NamedExpr) : Prop :=
  columns.Pairwise fun left right => Text.sameName left.name right.name = false

/-- The position of the first column with a name. -/
def positionOf? (columns : List NamedExpr) (name : String) : Option Nat :=
  columns.findIdx? fun column => Text.sameName column.name name

theorem names_of_positionOf? {columns : List NamedExpr} {name : String} {position : Nat}
    (found : positionOf? columns name = some position) : Names columns name := by
  obtain ⟨bound, called, -⟩ := List.findIdx?_eq_some_iff_getElem.mp found
  exact ⟨_, List.getElem_mem bound, called⟩

theorem positionOf?_eq_none {columns : List NamedExpr} {name : String} :
    positionOf? columns name = none ↔ ¬ Names columns name := by
  rw [positionOf?, List.findIdx?_eq_none_iff]
  constructor
  · rintro absent ⟨column, member, called⟩
    rw [absent column member] at called
    cases called
  · intro uncalled column member
    cases called : Text.sameName column.name name with
    | false => rfl
    | true => exact absurd ⟨column, member, called⟩ uncalled

/-- Distinct columns are found at their own positions. -/
theorem DistinctNames.positionOf? {columns : List NamedExpr} (distinct : DistinctNames columns)
    {position : Nat} {column : NamedExpr} (atPosition : columns[position]? = some column)
    {name : String} (called : Text.sameName column.name name = true) :
    Plan.positionOf? columns name = some position := by
  obtain ⟨bound, rfl⟩ := List.getElem?_eq_some_iff.mp atPosition
  refine List.findIdx?_eq_some_iff_getElem.mpr ⟨bound, called, ?_⟩
  intro earlier before
  have apart := List.pairwise_iff_getElem.mp distinct earlier position (by omega) bound before
  rw [Text.sameName_comm, Value.sameName_congr called, Text.sameName_comm] at apart
  rw [apart]
  exact Bool.false_ne_true

/-- A visible column hides those behind it. -/
theorem positionOf?_append_of_visible {columns hidden : List NamedExpr} {name : String}
    {position : Nat} (found : positionOf? columns name = some position) :
    positionOf? (columns ++ hidden) name = some position := by
  rw [positionOf?] at found
  rw [positionOf?, List.findIdx?_append, found]
  rfl

/-- Positions of names do not depend on expressions. -/
theorem positionOf?_map (f : Expr → Expr) (items : List NamedExpr) (name : String) :
    positionOf? (items.map fun item => { item with expr := f item.expr }) name
      = positionOf? items name := by
  rw [positionOf?, positionOf?, List.findIdx?_map]
  rfl

/-- A hidden column is found where no visible one is called like it. -/
theorem positionOf?_append_of_hidden {columns hidden : List NamedExpr} {column : NamedExpr}
    {position : Nat} (named : HiddenNamed hidden) (atPosition : hidden[position]? = some column)
    (apart : ¬ Names columns column.name) :
    positionOf? (columns ++ hidden) column.name = some (position + columns.length) := by
  have absent := positionOf?_eq_none.mpr apart
  have distinct : DistinctNames hidden := by
    refine List.pairwise_iff_getElem.mpr ?_
    intro i j iBound jBound before
    cases same : Text.sameName hidden[i].name hidden[j].name with
    | false => rfl
    | true =>
        rw [named i _ (List.getElem?_eq_getElem iBound),
          named j _ (List.getElem?_eq_getElem jBound)] at same
        exact absurd (hiddenName_injective same) (by omega)
  have inHidden := distinct.positionOf? atPosition (Text.sameName_refl column.name)
  rw [positionOf?] at absent inHidden
  rw [positionOf?, List.findIdx?_append, absent, inHidden]
  rfl

/-! ## Keys that are read as they are written -/

/-- The key is a lone name of a result column. -/
def IsOutputName (columns : List NamedExpr) (term : Syntax.Term) : Prop :=
  ∃ name, term = .identifier name ∧ Names columns name.text

/-- A key that is not a lone name of a result column is computed as it is written. -/
structure ComputedAsWritten (scope : NameScope) (part : GroupedPart) (term : Syntax.Term) :
    Prop where
  /-- A lone name has no meaning but the column of the table. -/
  lone : ∀ name, term = .identifier name → scope.meaning name.text = .column name.text
  /-- A plain column that no item is planned as is not called like a result column. -/
  plain : ∀ name, Expr.ofTerm scope term = .ok (.column name) →
    part.columns.find? (fun column => Expr.same column.expr (.column name)) = none →
      ¬ Names part.columns name
  /-- What is taken for the expression of the key is that expression. -/
  exact : ∀ written, Expr.ofTerm scope term = .ok written →
    ∀ item ∈ part.columns ++ part.hidden, Expr.same item.expr written = true →
      item.expr = written
  /-- No result column is called like the hidden column that computes the key. -/
  apart : ∀ written, Expr.ofTerm scope term = .ok written →
    ∀ item ∈ part.hidden, item.expr = written → ¬ Names part.columns item.name

/-- Nothing stands between a sort key and what it says. -/
structure ReadsAsWritten (scope : NameScope) (part : GroupedPart) (term : Syntax.Term) :
    Prop where
  /-- A lone name of a result column: the first item that is planned as the column of that
  name in the table, if there is one, is this result column. -/
  named : ∀ name item, term = .identifier name → Names part.columns name.text →
    part.columns.find? (fun column => Expr.same column.expr (.column name.text)) = some item →
      Text.sameName item.name name.text = true
  computed : ¬ IsOutputName part.columns term → ComputedAsWritten scope part term

section Lookup

variable {scope : NameScope} {part : GroupedPart} {term : Syntax.Term} {written expr : Expr}

/-- A key that is computed as it is written is planned as its expression. -/
theorem ComputedAsWritten.meant (clear : ComputedAsWritten scope part term)
    (planning : sortExpr scope term = .ok written) : Expr.ofTerm scope term = .ok written := by
  cases term with
  | identifier name =>
      cases planning
      rw [Expr.ofTerm, clear.lone name rfl]
  | _ => exact planning

/-- **A lone name of a result column** is looked up at the position of that column. -/
theorem ReadsAsWritten.named_position (clear : ReadsAsWritten scope part term)
    (distinct : DistinctNames part.columns) {name : Syntax.Name} {position : Nat}
    (lone : term = .identifier name) (found : positionOf? part.columns name.text = some position)
    (planning : sortExpr scope term = .ok written)
    (sorts : SortsBy part.columns part.hidden written expr) :
    ∃ key, expr = .column key ∧
      positionOf? (part.columns ++ part.hidden) key = some position := by
  have called := names_of_positionOf? found
  subst lone
  cases planning
  cases sorts with
  | star none =>
      rw [none] at found
      cases found
  | item column first =>
      have same := clear.named name column rfl called first
      refine ⟨column.name, rfl, positionOf?_append_of_visible ?_⟩
      obtain ⟨other, atOther⟩ := List.mem_iff_getElem?.mp (List.mem_of_find?_eq_some first)
      have here : some other = some position :=
        (distinct.positionOf? atOther same).symm.trans found
      rw [← here]
      exact distinct.positionOf? atOther (Text.sameName_refl _)
  | named other plain none _ =>
      cases plain
      exact ⟨name.text, rfl, positionOf?_append_of_visible found⟩
  | hidden column member computes none uncalled => exact absurd called (uncalled _ rfl)

/-- **Any other key** is looked up at the position of a column that computes it. -/
theorem ReadsAsWritten.computed_position (clear : ReadsAsWritten scope part term)
    (distinct : DistinctNames part.columns) (named : HiddenNamed part.hidden)
    (listed : part.columns ≠ []) (other : ¬ IsOutputName part.columns term)
    (planning : sortExpr scope term = .ok written)
    (sorts : SortsBy part.columns part.hidden written expr) :
    Expr.ofTerm scope term = .ok written ∧
      ∃ key position item, expr = .column key ∧
        positionOf? (part.columns ++ part.hidden) key = some position ∧
        (part.columns ++ part.hidden)[position]? = some item ∧ item.expr = written := by
  have clear := clear.computed other
  have meant := clear.meant planning
  refine ⟨meant, ?_⟩
  cases sorts with
  | star none => exact absurd none listed
  | item column first =>
      have member := List.mem_of_find?_eq_some first
      obtain ⟨position, atPosition⟩ := List.mem_iff_getElem?.mp member
      obtain ⟨bound, -⟩ := List.getElem?_eq_some_iff.mp atPosition
      refine ⟨column.name, position, column, rfl, positionOf?_append_of_visible
        (distinct.positionOf? atPosition (Text.sameName_refl _)), ?_, ?_⟩
      · rwa [List.getElem?_append_left bound]
      · exact clear.exact written meant column (List.mem_append_left _ member)
          (List.find?_some (p := fun item => Expr.same (NamedExpr.expr item) written) first)
  | named name plain none called =>
      rw [plain] at meant none
      exact absurd called (clear.plain name meant none)
  | hidden column member computes none uncalled =>
      have same : column.expr = written := by
        rcases computes with same | same
        · exact same
        · exact clear.exact written meant column (List.mem_append_right _ member) same
      obtain ⟨position, atPosition⟩ := List.mem_iff_getElem?.mp member
      refine ⟨column.name, _, column, rfl, positionOf?_append_of_hidden named atPosition
        (clear.apart written meant column member same), ?_, same⟩
      rw [List.getElem?_append_right (by omega), Nat.add_sub_cancel]
      exact atPosition

end Lookup

end Plan

end ScalarSql
