import ScalarSql.Proofs.Expr.Rank

/-!
# Legible expressions can be told from their texts

The text of a legible expression determines its pieces, because they are well formed.  The
pieces determine the rank, and with the rank which expression it is: the operands are found
in the pieces from the outside in.

**Legible expressions with the same text are equal**, `Expr.eq_of_text`.
-/

set_option autoImplicit false

namespace ScalarSql

/-! ## The pieces are well formed -/

namespace Value

open Piece (AllWellFormed)

theorem wellFormed_digits {digits : List Char} (nonempty : digits ≠ [])
    (all : ∀ c ∈ digits, c.isDigit = true) : (Piece.word digits).WellFormed := by
  refine ⟨nonempty, ?_, ?_⟩
  · rintro rfl
    exact absurd (all 'N' (by decide)) (by decide)
  · intro c member
    have digit := all c member
    cases delimits : isDelimiter c with
    | false => rfl
    | true =>
        simp only [isDelimiter, List.contains_eq_mem, List.mem_cons, List.not_mem_nil, or_false,
          decide_eq_true_eq] at delimits
        rcases delimits with rfl | rfl | rfl | rfl | rfl | rfl | rfl <;>
          exact absurd digit (by decide)

theorem allWellFormed_signed {negative : Bool} {pieces : List Piece}
    (numeral : IsNumeral pieces) : AllWellFormed (signed negative pieces) := by
  have unsigned : AllWellFormed pieces := by
    cases numeral with
    | integer nonempty all =>
        exact Piece.allWellFormed_singleton (wellFormed_digits nonempty all)
    | fraction wholeNonempty wholeAll nonempty all =>
        exact Piece.allWellFormed_cons_cons (wellFormed_digits wholeNonempty wholeAll) rfl
          (Piece.allWellFormed_cons trivial rfl
            (Piece.allWellFormed_singleton (wellFormed_digits nonempty all)))
  cases negative with
  | false => exact unsigned
  | true => exact Piece.allWellFormed_cons trivial rfl unsigned

theorem allWellFormed_pieces {value : Value} (legible : Expr.isLegibleLiteral value = true) :
    AllWellFormed value.pieces := by
  cases value with
  | int number | long number => exact allWellFormed_signed (isNumeral_digits number)
  | decimal number => exact allWellFormed_signed (isNumeral_decimal number)
  | boolean value =>
      refine Piece.allWellFormed_singleton ?_
      cases value <;> exact Piece.wellFormed_word (by decide) (by decide) (by decide)
  | null =>
      exact Piece.allWellFormed_singleton
        (Piece.wellFormed_word (by decide) (by decide) (by decide))
  | string text =>
      refine Piece.allWellFormed_singleton ?_
      simpa [Expr.isLegibleLiteral, Piece.WellFormed] using legible
  | _ => cases legible

end Value

namespace Expr

open Piece (AllWellFormed)

theorem wellFormed_plainType {target : DataType} (plain : isPlainType target = true) :
    (Piece.word target.text.toList).WellFormed := by
  cases target with
  | struct _ | array _ => cases plain
  | _ => exact Piece.wellFormed_word (by decide) (by decide) (by decide)

theorem plainType_injective {left right : DataType} (leftPlain : isPlainType left = true)
    (rightPlain : isPlainType right = true) (same : left.text.toList = right.text.toList) :
    left = right := by
  let plainTypes : List DataType :=
    [.int, .long, .double, .string, .boolean, .decimal, .unresolved]
  have all : ∀ {type : DataType}, isPlainType type = true → type ∈ plainTypes := by
    intro type plain
    cases type with
    | struct _ | array _ => cases plain
    | _ => decide
  have each : ∀ left ∈ plainTypes, ∀ right ∈ plainTypes, left.text = right.text →
      left = right := by
    decide
  exact each left (all leftPlain) right (all rightPlain) (String.toList_inj.mp same)

theorem allWellFormed_intercalate {rows : List (List Piece)}
    (each : ∀ row ∈ rows, AllWellFormed row) :
    AllWellFormed ([.mark .comma].intercalate rows) := by
  induction rows with
  | nil => exact trivial
  | cons first rest ih =>
      obtain ⟨here, later⟩ := List.forall_mem_cons.mp each
      cases rest with
      | nil => simpa using here
      | cons second others =>
          rw [List.intercalate_cons_cons, List.append_assoc]
          exact Piece.allWellFormed_append_cons here rfl
            (Piece.allWellFormed_cons trivial rfl (ih later))

theorem allWellFormed_operandPieces {operand : Expr} (formed : AllWellFormed operand.pieces) :
    AllWellFormed operand.operandPieces := by
  unfold operandPieces
  split
  · exact Piece.allWellFormed_singleton formed
  · exact formed

/-- The pieces of a legible expression are well formed. -/
theorem allWellFormed_pieces {expr : Expr} (legible : expr.legible = true) :
    AllWellFormed expr.pieces := by
  induction expr using inductionOn with
  | column name => exact Piece.allWellFormed_singleton (of_isPlainName legible).1
  | literal value => exact Value.allWellFormed_pieces legible
  | binary op left right leftFormed rightFormed =>
      simp only [Expr.legible, Bool.and_eq_true] at legible
      have second : AllWellFormed (.mark (.operator op) :: right.operandPieces) :=
        Piece.allWellFormed_cons trivial rfl
          (allWellFormed_operandPieces (rightFormed legible.2))
      exact Piece.allWellFormed_append_cons
        (allWellFormed_operandPieces (leftFormed legible.1)) rfl second
  | not operand formed | negate operand formed =>
      simp only [Expr.legible, Bool.and_eq_true] at legible
      exact Piece.allWellFormed_cons trivial rfl (formed legible.1)
  | isNull operand formed | isNotNull operand formed =>
      simp only [Expr.legible, Bool.and_eq_true] at legible
      exact Piece.allWellFormed_append_cons (formed legible.1) rfl
        (Piece.allWellFormed_singleton trivial)
  | cast operand target checked formed =>
      simp only [Expr.legible, Bool.and_eq_true] at legible
      have typed : AllWellFormed [.mark .as, .word target.text.toList] :=
        Piece.allWellFormed_cons trivial rfl
          (Piece.allWellFormed_singleton (wellFormed_plainType legible.1.2))
      have content := Piece.allWellFormed_append_cons (formed legible.1.1) rfl typed
      exact Piece.allWellFormed_cons_cons
        (Piece.wellFormed_word (by decide) (by decide) (by decide)) rfl
        (Piece.allWellFormed_singleton content)
  | call name arguments each =>
      simp only [Expr.legible, Bool.and_eq_true, allLegible_iff] at legible
      have content : AllWellFormed ([.mark .comma].intercalate (piecesOfAll arguments)) := by
        refine allWellFormed_intercalate ?_
        rw [piecesOfAll_eq_map]
        intro row member
        obtain ⟨argument, inArguments, rfl⟩ := List.mem_map.mp member
        exact each argument inArguments (legible.2 argument inArguments)
      exact Piece.allWellFormed_cons_cons (of_isPlainName legible.1).1 rfl
        (Piece.allWellFormed_singleton content)
  | invocation function arguments _ => cases legible
  | field base name formed =>
      simp only [Expr.legible, Bool.and_eq_true] at legible
      have fieldFormed : AllWellFormed [.mark .dot, .word name.toList] :=
        Piece.allWellFormed_cons trivial rfl
          (Piece.allWellFormed_singleton (of_isPlainName legible.2).1)
      exact Piece.allWellFormed_append_cons (formed legible.1.1) rfl fieldFormed

end Expr

/-! ## Literals are found in their pieces -/

namespace Value

theorem pieces_ne_nil_and_comma_not_mem (value : Value) :
    value.pieces ≠ [] ∧ Piece.mark .comma ∉ value.pieces := by
  have ofNumeral : ∀ {negative : Bool} {pieces : List Piece}, IsNumeral pieces →
      signed negative pieces ≠ [] ∧ Piece.mark .comma ∉ signed negative pieces := by
    intro negative pieces numeral
    cases negative <;> cases numeral <;> simp [signed]
  cases value with
  | int number | long number => exact ofNumeral (isNumeral_digits number)
  | decimal number => exact ofNumeral (isNumeral_decimal number)
  | _ => simp [pieces]

theorem signed_inj {left right : Bool} {leftPieces rightPieces : List Piece}
    (leftNumeral : IsNumeral leftPieces) (rightNumeral : IsNumeral rightPieces)
    (same : signed left leftPieces = signed right rightPieces) :
    left = right ∧ leftPieces = rightPieces := by
  cases left <;> cases right
  · exact ⟨rfl, same⟩
  · cases leftNumeral <;> cases same
  · cases rightNumeral <;> cases same
  · exact ⟨rfl, List.tail_eq_of_cons_eq same⟩

theorem val_eq_of_signed {bits otherBits : Nat} {left : BoundedInt bits}
    {right : BoundedInt otherBits}
    (same : signed (left.val < 0) [.word left.digits]
      = signed (right.val < 0) [.word right.digits]) : left.val = right.val := by
  obtain ⟨signs, words⟩ := signed_inj (isNumeral_digits left) (isNumeral_digits right) same
  exact BoundedInt.val_eq_of_digits (decide_eq_decide.mp signs)
    (Piece.word.inj (List.head_eq_of_cons_eq words))

/-- An integer has no point. -/
theorem integer_ne_decimal {bits : Nat} {integer : BoundedInt bits} {number : Decimal}
    (scaled : number.scale ≠ 0) :
    signed (integer.val < 0) [.word integer.digits] ≠ (Value.decimal number).pieces := by
  intro same
  have words := (signed_inj (isNumeral_digits integer) (isNumeral_decimal number) same).2
  rw [if_neg scaled] at words
  cases List.tail_eq_of_cons_eq words

/-- Legible literals with the same pieces are equal. -/
theorem eq_of_pieces {left right : Value} (leftLegible : Expr.isLegibleLiteral left = true)
    (rightLegible : Expr.isLegibleLiteral right = true) (same : left.pieces = right.pieces) :
    left = right := by
  have ranks : (Expr.literal left).rank = (Expr.literal right).rank := by
    rw [← rankOf_pieces leftLegible, same, rankOf_pieces rightLegible]
  -- A long number in the range of the integers is not legible.
  have long : ∀ {number : BoundedInt 64} {other : BoundedInt 32},
      Expr.isLegibleLiteral (.long number) = true → number.val ≠ other.val := by
    intro number other legible values
    rw [Expr.isLegibleLiteral, values, BoundedInt.ofInt?_val] at legible
    cases legible
  have point : ∀ {number : Decimal}, Expr.isLegibleLiteral (.decimal number) = true →
      number.scale ≠ 0 := bne_iff_ne.mp
  cases left with
  | int left =>
      cases right with
      | int right => rw [BoundedInt.ext_val (val_eq_of_signed same)]
      | long right => exact absurd (val_eq_of_signed same).symm (long rightLegible)
      | decimal right => exact absurd same (integer_ne_decimal (point rightLegible))
      | _ => cases ranks
  | long left =>
      cases right with
      | int right => exact absurd (val_eq_of_signed same) (long leftLegible)
      | long right => rw [BoundedInt.ext_val (val_eq_of_signed same)]
      | decimal right => exact absurd same (integer_ne_decimal (point rightLegible))
      | _ => cases ranks
  | decimal left =>
      cases right with
      | int right | long right => exact absurd same.symm (integer_ne_decimal (point leftLegible))
      | decimal right =>
          obtain ⟨signs, words⟩ :=
            signed_inj (isNumeral_decimal left) (isNumeral_decimal right) same
          rw [if_neg (point leftLegible), if_neg (point rightLegible)] at words
          simp only [List.cons.injEq, Piece.word.injEq, and_true, true_and] at words
          rw [Decimal.eq_of_digits signs words.1 words.2]
      | _ => cases ranks
  | string left =>
      cases right with
      | string right =>
          have characters := Piece.quoted.inj (List.head_eq_of_cons_eq same)
          rw [String.toList_inj.mp characters]
      | int _ | long _ | decimal _ => cases ranks
      | null | boolean _ => cases List.head_eq_of_cons_eq same
      | _ => cases rightLegible
  | boolean left =>
      cases right with
      | boolean right =>
          cases left <;> cases right <;> first | rfl | exact absurd same (by simp [pieces, text])
      | null => cases left <;> exact absurd same (by simp [pieces, text])
      | int _ | long _ | decimal _ => cases ranks
      | string _ => cases List.head_eq_of_cons_eq same
      | _ => cases rightLegible
  | null =>
      cases right with
      | null => rfl
      | boolean right => cases right <;> exact absurd same (by simp [pieces, text])
      | int _ | long _ | decimal _ => cases ranks
      | string _ => cases List.head_eq_of_cons_eq same
      | _ => cases rightLegible
  | _ => cases leftLegible

end Value

/-! ## Expressions are found in their pieces -/

namespace Expr

/-- An expression has pieces, and no comma outside of parentheses. -/
theorem pieces_ne_nil_and_comma_not_mem (expr : Expr) :
    expr.pieces ≠ [] ∧ Piece.mark .comma ∉ expr.pieces := by
  induction expr using inductionOn with
  | literal value => exact value.pieces_ne_nil_and_comma_not_mem
  | binary op left right leftFree rightFree =>
      have operand : ∀ {operand : Expr}, Piece.mark .comma ∉ operand.pieces →
          Piece.mark .comma ∉ operand.operandPieces := by
        intro operand free
        unfold operandPieces
        split
        · simp
        · exact free
      refine ⟨by simp [pieces], ?_⟩
      show Piece.mark .comma ∉ left.operandPieces ++ .mark (.operator op) :: right.operandPieces
      simp [operand leftFree.2, operand rightFree.2]
  | not operand free | negate operand free | isNull operand free | isNotNull operand free
  | field operand _ free => simp [pieces, free.2]
  | _ => simp [pieces]

/-- Rows that hold no comma and are not empty are found between commas. -/
theorem intercalate_inj {rows others : List (List Piece)}
    (rowsFree : ∀ row ∈ rows, row ≠ [] ∧ Piece.mark .comma ∉ row)
    (othersFree : ∀ row ∈ others, row ≠ [] ∧ Piece.mark .comma ∉ row)
    (same : [Piece.mark .comma].intercalate rows = [Piece.mark .comma].intercalate others) :
    rows = others := by
  classical
  have nonempty : ∀ {rows : List (List Piece)},
      (∀ row ∈ rows, row ≠ [] ∧ Piece.mark .comma ∉ row) →
        [Piece.mark .comma].intercalate rows = [] → rows = [] := by
    intro rows free empty
    cases rows with
    | nil => rfl
    | cons first rest =>
        have some := (free first List.mem_cons_self).1
        cases rest with
        | nil => simp [some] at empty
        | cons _ _ => simp [List.intercalate_cons_cons] at empty
  by_cases empty : rows = []
  · subst empty
    exact (nonempty othersFree same.symm).symm
  · have filled : others ≠ [] := by
      rintro rfl
      exact empty (nonempty rowsFree same)
    rw [← List.splitOn_intercalate _ (fun row member => (rowsFree row member).2) empty, same,
      List.splitOn_intercalate _ (fun row member => (othersFree row member).2) filled]

/-- An operand of a binary operation is found in its pieces. -/
theorem pieces_of_operandPieces {left right : Expr} (leftLegible : left.legible = true)
    (rightLegible : right.legible = true) (same : left.operandPieces = right.operandPieces) :
    left.pieces = right.pieces := by
  -- Only a binary operation stands in parentheses of its own.
  have grouped : ∀ {expr : Expr} {content : List Piece}, expr.legible = true →
      expr.pieces = [.group content] → expr.isBinary = true := by
    intro expr content legible alone
    rw [isBinary_eq, ← rankOf_pieces legible, alone]
    rfl
  unfold operandPieces at same
  split at same
  · split at same
    · exact Piece.group.inj (List.head_eq_of_cons_eq same)
    · next other => exact absurd (grouped rightLegible same.symm) other
  · split at same
    · next other _ => exact absurd (grouped leftLegible same) other
    · exact same

/-- There is no operator in an operand outside of parentheses. -/
theorem noOperator_operandPieces {operand : Expr} (legible : operand.legible = true) :
    ∀ piece ∈ operand.operandPieces, piece.isOperator = false := by
  have none : operand.operandPieces.any Piece.isOperator = false := by
    unfold operandPieces
    split
    · rfl
    · next single =>
        rw [isBinary_eq, beq_iff_eq] at single
        refine Piece.noOperator_of_rankOf ?_
        rw [rankOf_pieces legible]
        exact Nat.pos_of_ne_zero single
  simpa using none

theorem eq_of_map_pieces {lefts rights : List Expr}
    (same : lefts.map pieces = rights.map pieces)
    (each : ∀ left ∈ lefts, ∀ right ∈ rights, left.pieces = right.pieces → left = right) :
    lefts = rights := by
  induction lefts generalizing rights with
  | nil => exact (List.map_eq_nil_iff.mp same.symm).symm
  | cons left lefts ih =>
      cases rights with
      | nil => cases same
      | cons right rights =>
          obtain ⟨heads, tails⟩ := List.cons.inj same
          rw [each left List.mem_cons_self right List.mem_cons_self heads,
            ih tails fun first member second otherMember =>
              each first (List.mem_cons_of_mem _ member) second
                (List.mem_cons_of_mem _ otherMember)]

theorem ranks_of_pieces {left right : Expr} (leftLegible : left.legible = true)
    (rightLegible : right.legible = true) (same : left.pieces = right.pieces) :
    left.rank = right.rank ∧ left.isLiteral = right.isLiteral := by
  have ranks : left.rank = right.rank := by
    rw [← rankOf_pieces leftLegible, same, rankOf_pieces rightLegible]
  exact ⟨ranks, by rw [isLiteral_eq, isLiteral_eq, ranks]⟩

/-- The operator of a binary operation is the first one outside of parentheses. -/
theorem binary_of_pieces {op otherOp : Operator} {left right otherLeft otherRight : Expr}
    (legible : (binary op left right).legible = true)
    (otherLegible : (binary otherOp otherLeft otherRight).legible = true)
    (same : (binary op left right).pieces = (binary otherOp otherLeft otherRight).pieces) :
    op = otherOp ∧ left.pieces = otherLeft.pieces ∧ right.pieces = otherRight.pieces := by
  simp only [Expr.legible, Bool.and_eq_true] at legible otherLegible
  have stops : ∀ {op : Operator} {rest : List Piece},
      ∀ piece ∈ (Piece.mark (.operator op) :: rest).head?, piece.isOperator = true := by
    rintro op rest _ ⟨⟩
    rfl
  obtain ⟨lefts, rights⟩ := Piece.append_inj_of_stops (noOperator_operandPieces legible.1)
    (noOperator_operandPieces otherLegible.1) stops stops same
  obtain ⟨ops, rights⟩ := List.cons.inj rights
  exact ⟨Mark.operator.inj (Piece.mark.inj ops),
    pieces_of_operandPieces legible.1 otherLegible.1 lefts,
    pieces_of_operandPieces legible.2 otherLegible.2 rights⟩

theorem cast_of_pieces {operand other : Expr} {target otherTarget : DataType}
    {checked otherChecked : Bool}
    (same : (cast operand target checked).pieces = (cast other otherTarget otherChecked).pieces) :
    operand.pieces = other.pieces ∧ target.text.toList = otherTarget.text.toList := by
  have content := Piece.group.inj (List.head_eq_of_cons_eq (List.tail_eq_of_cons_eq same))
  obtain ⟨operands, targets⟩ := List.append_inj' content rfl
  exact ⟨operands, Piece.word.inj (List.head_eq_of_cons_eq (List.tail_eq_of_cons_eq targets))⟩

/-- The arguments of a call are found between its commas. -/
theorem call_of_pieces {name otherName : String} {arguments others : List Expr}
    (same : (call name arguments).pieces = (call otherName others).pieces) :
    name = otherName ∧ arguments.map pieces = others.map pieces := by
  have names := Piece.word.inj (List.head_eq_of_cons_eq same)
  have content := Piece.group.inj (List.head_eq_of_cons_eq (List.tail_eq_of_cons_eq same))
  rw [piecesOfAll_eq_map, piecesOfAll_eq_map] at content
  have free : ∀ arguments : List Expr, ∀ row ∈ arguments.map pieces,
      row ≠ [] ∧ Piece.mark .comma ∉ row := by
    intro arguments
    exact List.forall_mem_map.mpr fun argument _ => argument.pieces_ne_nil_and_comma_not_mem
  exact ⟨String.toList_inj.mp names, intercalate_inj (free _) (free _) content⟩

theorem field_of_pieces {base other : Expr} {name otherName : String}
    (same : (field base name).pieces = (field other otherName).pieces) :
    base.pieces = other.pieces ∧ name = otherName := by
  obtain ⟨bases, fields⟩ := List.append_inj' same rfl
  have names := Piece.word.inj (List.head_eq_of_cons_eq (List.tail_eq_of_cons_eq fields))
  exact ⟨bases, String.toList_inj.mp names⟩

/-- **Legible expressions with the same pieces are equal.** -/
theorem eq_of_pieces {left right : Expr} (leftLegible : left.legible = true)
    (rightLegible : right.legible = true) (same : left.pieces = right.pieces) :
    left = right := by
  induction left using inductionOn generalizing right with
  | column name =>
      obtain ⟨ranks, literals⟩ := ranks_of_pieces leftLegible rightLegible same
      cases right with
      | column other =>
          have names := Piece.word.inj (List.head_eq_of_cons_eq same)
          rw [String.toList_inj.mp names]
      | literal _ => cases literals
      | _ => cases ranks
  | literal value =>
      obtain ⟨-, literals⟩ := ranks_of_pieces leftLegible rightLegible same
      cases right with
      | literal other => rw [Value.eq_of_pieces leftLegible rightLegible same]
      | _ => cases literals
  | binary op left₁ left₂ ih₁ ih₂ =>
      obtain ⟨ranks, literals⟩ := ranks_of_pieces leftLegible rightLegible same
      cases right with
      | binary otherOp right₁ right₂ =>
          obtain ⟨rfl, firsts, seconds⟩ := binary_of_pieces leftLegible rightLegible same
          simp only [legible, Bool.and_eq_true] at leftLegible rightLegible
          rw [ih₁ leftLegible.1 rightLegible.1 firsts, ih₂ leftLegible.2 rightLegible.2 seconds]
      | literal _ => cases literals
      | _ => cases ranks
  | not operand ih =>
      obtain ⟨ranks, literals⟩ := ranks_of_pieces leftLegible rightLegible same
      cases right with
      | not other =>
          simp only [legible, Bool.and_eq_true] at leftLegible rightLegible
          rw [ih leftLegible.1 rightLegible.1 (List.tail_eq_of_cons_eq same)]
      | literal _ => cases literals
      | _ => cases ranks
  | negate operand ih =>
      obtain ⟨ranks, literals⟩ := ranks_of_pieces leftLegible rightLegible same
      cases right with
      | negate other =>
          simp only [legible, Bool.and_eq_true] at leftLegible rightLegible
          rw [ih leftLegible.1 rightLegible.1 (List.tail_eq_of_cons_eq same)]
      | literal _ => cases literals
      | _ => cases ranks
  | isNull operand ih =>
      obtain ⟨ranks, literals⟩ := ranks_of_pieces leftLegible rightLegible same
      cases right with
      | isNull other =>
          simp only [legible, Bool.and_eq_true] at leftLegible rightLegible
          rw [ih leftLegible.1 rightLegible.1 (List.append_cancel_right same)]
      | literal _ => cases literals
      | _ => cases ranks
  | isNotNull operand ih =>
      obtain ⟨ranks, literals⟩ := ranks_of_pieces leftLegible rightLegible same
      cases right with
      | isNotNull other =>
          simp only [legible, Bool.and_eq_true] at leftLegible rightLegible
          rw [ih leftLegible.1 rightLegible.1 (List.append_cancel_right same)]
      | literal _ => cases literals
      | _ => cases ranks
  | cast operand target checked ih =>
      obtain ⟨ranks, literals⟩ := ranks_of_pieces leftLegible rightLegible same
      cases right with
      | cast other otherTarget otherChecked =>
          obtain ⟨operands, texts⟩ := cast_of_pieces same
          simp only [legible, Bool.and_eq_true, Bool.not_eq_true'] at leftLegible rightLegible
          rw [ih leftLegible.1.1 rightLegible.1.1 operands,
            plainType_injective leftLegible.1.2 rightLegible.1.2 texts, leftLegible.2,
            rightLegible.2]
      | literal _ => cases literals
      | _ => cases ranks
  | call name arguments each =>
      obtain ⟨ranks, literals⟩ := ranks_of_pieces leftLegible rightLegible same
      cases right with
      | call other others =>
          obtain ⟨rfl, rows⟩ := call_of_pieces same
          simp only [legible, Bool.and_eq_true, allLegible_iff] at leftLegible rightLegible
          have equal : arguments = others := by
            refine eq_of_map_pieces rows ?_
            intro argument member other otherMember
            exact each argument member (leftLegible.2 argument member)
              (rightLegible.2 other otherMember)
          rw [equal]
      | invocation _ _ => cases rightLegible
      | literal _ => cases literals
      | _ => cases ranks
  | invocation function arguments _ => cases leftLegible
  | field base name ih =>
      obtain ⟨ranks, literals⟩ := ranks_of_pieces leftLegible rightLegible same
      cases right with
      | field other otherName =>
          obtain ⟨bases, rfl⟩ := field_of_pieces same
          simp only [legible, Bool.and_eq_true] at leftLegible rightLegible
          rw [ih leftLegible.1.1 rightLegible.1.1 bases]
      | literal _ => cases literals
      | _ => cases ranks

/-- **Legible expressions with the same text are equal.** -/
theorem eq_of_text {left right : Expr} (leftLegible : left.legible = true)
    (rightLegible : right.legible = true) (same : left.text = right.text) : left = right := by
  have spelled : Piece.spellAll left.pieces ++ [] = Piece.spellAll right.pieces ++ [] := by
    rw [spellAll_pieces, spellAll_pieces, same]
  have ends : Piece.Ends [] := Piece.ends_nil
  exact eq_of_pieces leftLegible rightLegible
    (Piece.spellAll_append_inj _ _ (allWellFormed_pieces leftLegible)
      (allWellFormed_pieces rightLegible) ends ends spelled).1

end Expr

end ScalarSql
