import ScalarSql.Proofs.Expr.Spelling

/-!
# Legible expressions

Only binary operations in binary operations are put in parentheses.  Whatever else is put
in front of an expression or after it may read as a part of the expression:
`-(a + b)` has the text of `-a + b`, and `(NOT a) IS NULL` that of `NOT (a IS NULL)`.

`Expr.rank` orders expressions by what holds their text together: a binary operation is
split first, then `NOT` is taken from the front, then a test for `NULL` from the end, then
a minus sign from the front.  An expression is `Expr.legible` if its operands are ranked so
that they are split after it, its names are words, and its literals are not spelled like
other literals.

**The rank of a legible expression shows in its pieces**, `Expr.rankOf_pieces`.
-/

set_option autoImplicit false

namespace ScalarSql

/-! ## Legible expressions -/

namespace Expr

/-- Words that the text of an expression contains without being names. -/
def reserved : List String := ["NOT", "CAST", "NULL", "true", "false"]

/-- Whether the characters can start a number. -/
def startsWithDigit (characters : List Char) : Bool := characters.head?.any Char.isDigit

/-- Whether a name is a word of its own. -/
def isPlainName (name : String) : Bool :=
  !name.isEmpty && name.toList.all (!isDelimiter ·) && !startsWithDigit name.toList
    && !reserved.contains name

/-- Whether no other literal has the text: texts hold no quote, a long number is none that
is an integer, and a decimal has a point. -/
def isLegibleLiteral : Value → Bool
  | .string text => !text.toList.contains '\''
  | .null | .boolean _ | .int _ => true
  | .long number => (BoundedInt.ofInt? number.val : Option (BoundedInt 32)).isNone
  | .decimal number => number.scale != 0
  | _ => false

/-- How late the text of an expression is taken apart when it is read. -/
def rank : Expr → Nat
  | .binary .. => 0
  | .not _ => 1
  | .isNull _ => 2
  | .isNotNull _ => 3
  | .literal (.int _) | .literal (.long _) | .literal (.decimal _) => 4
  | .negate _ => 5
  | .literal _ => 6
  | .column _ => 7
  | .cast .. => 8
  | .call .. | .invocation .. => 9
  | .field .. => 10

/-- Binary operations have a rank of their own. -/
theorem isBinary_eq (expr : Expr) : expr.isBinary = (expr.rank == 0) := by
  cases expr with
  | literal value => cases value <;> rfl
  | _ => rfl

/-- Literals have ranks of their own. -/
theorem isLiteral_eq (expr : Expr) : expr.isLiteral = (expr.rank == 4 || expr.rank == 6) := by
  cases expr with
  | literal value => cases value <;> rfl
  | _ => rfl

/-- Whether a type has no parts. -/
def isPlainType : DataType → Bool
  | .struct _ | .array _ => false
  | _ => true

mutual

/-- Whether an expression can be told from its text among the expressions that can. -/
def legible : Expr → Bool
  | .column name => isPlainName name
  | .literal value => isLegibleLiteral value
  | .binary _ left right => left.legible && right.legible
  -- An operand that is split earlier would be split together with what stands around it.
  | .not operand => operand.legible && 1 ≤ operand.rank
  | .isNull operand | .isNotNull operand => operand.legible && 2 ≤ operand.rank
  | .negate operand => operand.legible && 5 ≤ operand.rank
  | .cast operand target checked => operand.legible && isPlainType target && !checked
  | .call name arguments => isPlainName name && allLegible arguments
  | .invocation .. => false
  | .field base name => base.legible && 7 ≤ base.rank && isPlainName name

/-- Whether several expressions can be told from their texts. -/
def allLegible : List Expr → Bool
  | [] => true
  | argument :: rest => argument.legible && allLegible rest

end

theorem allLegible_iff {arguments : List Expr} :
    allLegible arguments = true ↔ ∀ argument ∈ arguments, argument.legible = true := by
  induction arguments with
  | nil => simp [allLegible]
  | cons first rest ih => simp [allLegible, ih]

end Expr

/-! ## Ranks of rows of pieces -/

namespace Piece

/-- Whether the piece is the given mark. -/
def isMark (wanted : Mark) : Piece → Bool
  | .mark sign => sign == wanted
  | _ => false

/-- Whether the piece is a binary operator. -/
def isOperator : Piece → Bool
  | .mark (.operator _) => true
  | _ => false

/-- The rank that the beginning of a row shows. -/
def rankOfStart : List Piece → Nat
  | .mark _ :: .word characters :: _ => if Expr.startsWithDigit characters then 4 else 5
  | .mark _ :: _ => 5
  | .quoted _ :: _ => 6
  | .word characters :: rest =>
      if Expr.startsWithDigit characters then 4
      else match rest with
        | [] =>
            if characters ∈ ["NULL".toList, "true".toList, "false".toList] then 6 else 7
        | [.group _] => if characters = "CAST".toList then 8 else 9
        | _ => 10
  | _ => 0

/-- The rank of the expression that a row of pieces spells. -/
def rankOf (pieces : List Piece) : Nat :=
  if pieces.any isOperator then 0
  else if pieces.head?.any (isMark .not) then 1
  else if pieces.getLast?.any (isMark .isNull) then 2
  else if pieces.getLast?.any (isMark .isNotNull) then 3
  else rankOfStart pieces

section RankOf

variable {pieces : List Piece}

theorem noOperator_of_rankOf (late : 1 ≤ rankOf pieces) : pieces.any isOperator = false := by
  unfold rankOf at late
  split at late
  · omega
  · next none => exact Bool.eq_false_iff.mpr none

theorem noNot_of_rankOf (late : 2 ≤ rankOf pieces) :
    pieces.head?.any (isMark .not) = false := by
  unfold rankOf at late
  split at late
  · omega
  · split at late
    · omega
    · next none => exact Bool.eq_false_iff.mpr none

theorem noTest_of_rankOf (late : 4 ≤ rankOf pieces) :
    pieces.getLast?.any (isMark .isNull) = false ∧
      pieces.getLast?.any (isMark .isNotNull) = false ∧ rankOf pieces = rankOfStart pieces := by
  unfold rankOf at late ⊢
  split at late
  · omega
  · split at late
    · omega
    · split at late
      · omega
      · split at late
        · omega
        · simp_all

theorem ne_nil_of_rankOf (late : 1 ≤ rankOf pieces) : pieces ≠ [] := by
  rintro rfl
  exact absurd late (by decide)

end RankOf

end Piece

/-! ## The rank shows in the pieces -/

namespace Value

open Piece (rankOf)

theorem startsWithDigit_of_digits {characters : List Char} (nonempty : characters ≠ [])
    (digits : ∀ c ∈ characters, c.isDigit = true) :
    Expr.startsWithDigit characters = true := by
  obtain ⟨c, _, rfl⟩ := List.exists_cons_of_ne_nil nonempty
  exact digits c List.mem_cons_self

/-- The pieces of a number without its sign. -/
inductive IsNumeral : List Piece → Prop where
  | integer {digits : List Char} (nonempty : digits ≠ [])
      (all : ∀ c ∈ digits, c.isDigit = true) : IsNumeral [.word digits]
  | fraction {whole digits : List Char} (wholeNonempty : whole ≠ [])
      (wholeAll : ∀ c ∈ whole, c.isDigit = true) (nonempty : digits ≠ [])
      (all : ∀ c ∈ digits, c.isDigit = true) : IsNumeral [.word whole, .mark .dot, .word digits]

theorem rankOf_signed {negative : Bool} {pieces : List Piece} (numeral : IsNumeral pieces) :
    rankOf (signed negative pieces) = 4 := by
  cases numeral with
  | integer nonempty all =>
      have starts := startsWithDigit_of_digits nonempty all
      cases negative <;>
        simp [signed, rankOf, Piece.isOperator, Piece.isMark, Piece.rankOfStart, starts]
  | fraction nonempty all _ _ =>
      have starts := startsWithDigit_of_digits nonempty all
      cases negative <;>
        simp [signed, rankOf, Piece.isOperator, Piece.isMark, Piece.rankOfStart, starts]

theorem isNumeral_digits {bits : Nat} (number : BoundedInt bits) :
    IsNumeral [.word number.digits] :=
  .integer number.digits_ne_nil fun _ => BoundedInt.isDigit_of_mem_digits

theorem isNumeral_decimal (number : Decimal) :
    IsNumeral (.word number.wholeDigits ::
      if number.scale = 0 then [] else [.mark .dot, .word number.fractionDigits]) := by
  have wholeAll : ∀ c ∈ number.wholeDigits, c.isDigit = true := fun c member =>
    Decimal.isDigit_of_mem_digits (List.mem_of_mem_take member)
  split
  · exact .integer number.wholeDigits_ne_nil wholeAll
  · next scaled =>
      refine .fraction number.wholeDigits_ne_nil wholeAll ?_ fun c member =>
        Decimal.isDigit_of_mem_digits (List.mem_of_mem_drop member)
      rw [← List.length_pos_iff, number.length_fractionDigits]
      omega

theorem rankOf_pieces {value : Value} (legible : Expr.isLegibleLiteral value = true) :
    rankOf value.pieces = (Expr.literal value).rank := by
  cases value with
  | int number | long number => exact rankOf_signed (isNumeral_digits number)
  | decimal number => exact rankOf_signed (isNumeral_decimal number)
  | boolean value => cases value <;> decide
  | null => decide
  | string text => rfl
  | _ => cases legible

end Value

namespace Expr

open Piece (rankOf)

/-- What it means for a name to be a word of its own. -/
theorem of_isPlainName {name : String} (plain : isPlainName name = true) :
    (Piece.word name.toList).WellFormed ∧ startsWithDigit name.toList = false ∧
      ∀ word ∈ reserved, name.toList ≠ word.toList := by
  simp only [isPlainName, Bool.and_eq_true, Bool.not_eq_true', List.contains_eq_mem,
    decide_eq_false_iff_not] at plain
  obtain ⟨⟨⟨nonempty, separate⟩, letter⟩, free⟩ := plain
  have other : ∀ word ∈ reserved, name.toList ≠ word.toList := by
    intro word member same
    exact free (String.toList_inj.mp same ▸ member)
  have some : name.toList ≠ [] := by
    intro empty
    rw [String.toList_eq_nil_iff.mp empty] at nonempty
    cases nonempty
  exact ⟨Piece.wellFormed_word some (other "NOT" (by decide)) separate, letter, other⟩

/-- Appending a mark after pieces that show a late rank. -/
theorem rankOf_append {pieces after : List Piece} {last : Piece}
    (late : 2 ≤ rankOf pieces) (plain : after.any Piece.isOperator = false)
    (ends : after.getLast? = some last) :
    rankOf (pieces ++ after)
      = if last.isMark .isNull then 2
        else if last.isMark .isNotNull then 3
        else Piece.rankOfStart (pieces ++ after) := by
  have operators := Piece.noOperator_of_rankOf (Nat.le_of_succ_le late)
  have heads := Piece.noNot_of_rankOf late
  obtain ⟨first, rest, rfl⟩ := List.exists_cons_of_ne_nil
    (Piece.ne_nil_of_rankOf (Nat.le_of_succ_le late))
  have lasts : ((first :: rest) ++ after).getLast? = some last := by
    rw [List.getLast?_append, ends]
    rfl
  unfold rankOf
  rw [List.any_append, operators, plain, lasts]
  simp only [List.cons_append, List.head?_cons] at heads ⊢
  simp [heads]

/-- A minus sign in front of pieces that do not spell a number. -/
theorem rankOf_minus {pieces : List Piece} (late : 5 ≤ rankOf pieces) :
    rankOf (.mark .minus :: pieces) = 5 := by
  have operators := Piece.noOperator_of_rankOf (Nat.le_trans (by decide) late)
  obtain ⟨isNull, isNotNull, start⟩ := Piece.noTest_of_rankOf (Nat.le_trans (by decide) late)
  rw [start] at late
  obtain ⟨first, rest, rfl⟩ :=
    List.exists_cons_of_ne_nil (Piece.ne_nil_of_rankOf (Nat.le_trans (by decide) (start ▸ late)))
  have starts : Piece.rankOfStart (.mark .minus :: first :: rest) = 5 := by
    cases first with
    | word characters =>
        have letter : startsWithDigit characters = false := by
          cases digit : startsWithDigit characters with
          | false => rfl
          | true => simp [Piece.rankOfStart, digit] at late
        simp [Piece.rankOfStart, letter]
    | _ => rfl
  unfold rankOf
  rw [List.any_cons, operators, List.getLast?_cons_cons, isNull, isNotNull, starts]
  rfl

/-- Pieces that show a rank from that of names on start with a name. -/
theorem word_of_rankOfStart {pieces : List Piece} (late : 7 ≤ Piece.rankOfStart pieces) :
    ∃ characters rest, pieces = .word characters :: rest ∧
      startsWithDigit characters = false := by
  unfold Piece.rankOfStart at late
  split at late
  · split at late <;> omega
  · omega
  · omega
  · next characters rest =>
      refine ⟨characters, rest, rfl, ?_⟩
      cases digit : startsWithDigit characters with
      | false => rfl
      | true => simp [digit] at late
  · omega

/-- The field of an expression that starts with a name. -/
theorem rankOfStart_field {pieces : List Piece} {name : List Char}
    (late : 7 ≤ Piece.rankOfStart pieces) :
    Piece.rankOfStart (pieces ++ [.mark .dot, .word name]) = 10 := by
  obtain ⟨characters, rest, rfl, letter⟩ := word_of_rankOfStart late
  cases rest with
  | nil => simp [Piece.rankOfStart, letter]
  | cons second others => cases others <;> simp [Piece.rankOfStart, letter]

theorem rankOf_pieces {expr : Expr} (legible : expr.legible = true) :
    rankOf expr.pieces = expr.rank := by
  induction expr using inductionOn with
  | column name =>
      obtain ⟨-, letter, other⟩ := of_isPlainName legible
      have noKeyword : name.toList ∉ ["NULL".toList, "true".toList, "false".toList] := by
        simp only [List.mem_cons, List.not_mem_nil, or_false, not_or]
        exact ⟨other "NULL" (by decide), other "true" (by decide), other "false" (by decide)⟩
      show Piece.rankOfStart [.word name.toList] = 7
      rw [Piece.rankOfStart, letter, if_neg Bool.false_ne_true, if_neg noKeyword]
  | literal value => exact Value.rankOf_pieces legible
  | binary op left right _ _ => simp [pieces, rankOf, Piece.isOperator, rank]
  | not operand operandRank =>
      simp only [Expr.legible, Bool.and_eq_true, decide_eq_true_eq] at legible
      have late : 1 ≤ rankOf operand.pieces := operandRank legible.1 ▸ legible.2
      have operators := Piece.noOperator_of_rankOf late
      unfold rankOf
      rw [pieces, List.any_cons, operators]
      rfl
  | negate operand operandRank =>
      simp only [Expr.legible, Bool.and_eq_true, decide_eq_true_eq] at legible
      exact rankOf_minus (operandRank legible.1 ▸ legible.2)
  | isNull operand operandRank | isNotNull operand operandRank =>
      simp only [Expr.legible, Bool.and_eq_true, decide_eq_true_eq] at legible
      rw [pieces, rankOf_append (operandRank legible.1 ▸ legible.2) rfl rfl]
      rfl
  | cast operand target checked _ => rfl
  | call name arguments _ =>
      simp only [Expr.legible, Bool.and_eq_true] at legible
      obtain ⟨-, letter, other⟩ := of_isPlainName legible.1
      show Piece.rankOfStart
        [.word name.toList, .group ([.mark .comma].intercalate (piecesOfAll arguments))] = 9
      rw [Piece.rankOfStart, letter, if_neg Bool.false_ne_true,
        if_neg (other "CAST" (by decide))]
  | invocation function arguments _ => cases legible
  | field base name baseRank =>
      simp only [Expr.legible, Bool.and_eq_true, decide_eq_true_eq] at legible
      have late : 7 ≤ rankOf base.pieces := baseRank legible.1.1 ▸ legible.1.2
      obtain ⟨-, -, start⟩ := Piece.noTest_of_rankOf (Nat.le_trans (by decide) late)
      rw [pieces, rankOf_append (Nat.le_trans (by decide) late) rfl rfl]
      exact rankOfStart_field (start ▸ late)

end Expr

end ScalarSql
