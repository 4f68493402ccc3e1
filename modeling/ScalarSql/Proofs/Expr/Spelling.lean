import ScalarSql.Proofs.Expr.Induction
import ScalarSql.Proofs.Expr.Pieces
import ScalarSql.Proofs.Value.Text

/-!
# The pieces of the text of an expression

`Expr.pieces` gives the text of an expression in pieces.  It says where the words, the
quoted texts and the parentheses of the text come from, and parentheses only come from
calls, casts and operands of binary operations that are binary operations themselves.  The
pieces make up the text, whatever the expression, `Expr.spellAll_pieces`.
-/

set_option autoImplicit false

namespace ScalarSql

/-! ## The pieces of an expression -/

namespace Value

/-- Pieces with a sign in front of them if a number is negative. -/
def signed (negative : Bool) (pieces : List Piece) : List Piece :=
  if negative then .mark .minus :: pieces else pieces

/-- The pieces of a literal. -/
def pieces : Value → List Piece
  | .string text => [.quoted text.toList]
  | .int number => signed (number.val < 0) [.word number.digits]
  | .long number => signed (number.val < 0) [.word number.digits]
  | .decimal number =>
      signed number.negative
        (.word number.wholeDigits ::
          if number.scale = 0 then [] else [.mark .dot, .word number.fractionDigits])
  | other => [.word other.text.toList]

theorem spellAll_signed (negative : Bool) (pieces : List Piece) :
    Piece.spellAll (signed negative pieces)
      = (if negative then ['-'] else []) ++ Piece.spellAll pieces := by
  cases negative <;> rfl

theorem spellAll_pieces (value : Value) :
    Piece.spellAll value.pieces = (Expr.literalText value).toList := by
  cases value with
  | string text =>
      simp [pieces, Expr.literalText, Piece.spellAll_singleton, Piece.spell]
  | int number | long number =>
      simp [pieces, Expr.literalText, text, spellAll_signed, Piece.spellAll_singleton,
        Piece.spell, number.toList_text]
  | decimal number =>
      by_cases whole : number.scale = 0 <;>
        simp [pieces, Expr.literalText, text, spellAll_signed, number.toList_text, whole,
          Piece.spellAll, Piece.spell, Mark.text]
  | _ => exact Piece.spellAll_singleton _

end Value

namespace Expr

mutual

/-- The pieces of the text of an expression. -/
def pieces : Expr → List Piece
  | .column name => [.word name.toList]
  | .literal value => value.pieces
  | .binary op left right =>
      (if left.isBinary then [.group left.pieces] else left.pieces)
        ++ .mark (.operator op) ::
          (if right.isBinary then [.group right.pieces] else right.pieces)
  | .not operand => .mark .not :: operand.pieces
  | .negate operand => .mark .minus :: operand.pieces
  | .isNull operand => operand.pieces ++ [.mark .isNull]
  | .isNotNull operand => operand.pieces ++ [.mark .isNotNull]
  | .cast operand target _ =>
      [.word "CAST".toList,
        .group (operand.pieces ++ [.mark .as, .word target.text.toList])]
  | .call name arguments =>
      [.word name.toList, .group ([.mark .comma].intercalate (piecesOfAll arguments))]
  | .invocation function arguments =>
      [.word function.callable.name.toList,
        .group ([.mark .comma].intercalate (piecesOfAll arguments))]
  | .field base name => base.pieces ++ [.mark .dot, .word name.toList]

/-- The pieces of each of several expressions. -/
def piecesOfAll : List Expr → List (List Piece)
  | [] => []
  | argument :: rest => argument.pieces :: piecesOfAll rest

end

/-- The pieces of an operand of a binary operation. -/
def operandPieces (expr : Expr) : List Piece :=
  if expr.isBinary then [.group expr.pieces] else expr.pieces

theorem piecesOfAll_eq_map (arguments : List Expr) :
    piecesOfAll arguments = arguments.map pieces := by
  induction arguments with
  | nil => rfl
  | cons first rest ih => rw [piecesOfAll, ih, List.map_cons]

theorem renderAll_eq_map (arguments : List Expr) :
    renderAll arguments = arguments.map text := by
  induction arguments with
  | nil => rfl
  | cons first rest ih => rw [renderAll, ih, List.map_cons, text]

theorem spellAll_intercalate (rows : List (List Piece)) :
    Piece.spellAll ([.mark .comma].intercalate rows)
      = ", ".toList.intercalate (rows.map Piece.spellAll) := by
  induction rows with
  | nil => rfl
  | cons first rest ih =>
      cases rest with
      | nil => simp
      | cons second others =>
          rw [List.intercalate_cons_cons, Piece.spellAll_append, Piece.spellAll_append, ih]
          simp [List.intercalate_cons_cons, Piece.spellAll_singleton, Piece.spell, Mark.text]

/-- The text of an operand is that of the expression, in parentheses if it is a binary
operation. -/
theorem toList_render_true (expr : Expr) :
    (expr.render true).toList
      = if expr.isBinary then '(' :: (expr.text.toList ++ [')']) else expr.text.toList := by
  cases expr with
  | binary op left right => simp [render, text, isBinary]
  | _ => rfl

/-- The pieces of an expression make up its text. -/
theorem spellAll_pieces (expr : Expr) : Piece.spellAll expr.pieces = expr.text.toList := by
  have ofOperand : ∀ {operand : Expr}, Piece.spellAll operand.pieces = operand.text.toList →
      Piece.spellAll operand.operandPieces = (operand.render true).toList := by
    intro operand spelled
    rw [toList_render_true, operandPieces]
    split
    · rw [Piece.spellAll_singleton, Piece.spell, spelled]
    · exact spelled
  have ofArguments : ∀ {arguments : List Expr},
      (∀ argument ∈ arguments, Piece.spellAll argument.pieces = argument.text.toList) →
        Piece.spellAll ([.mark .comma].intercalate (piecesOfAll arguments))
          = (", ".intercalate (renderAll arguments)).toList := by
    intro arguments each
    rw [spellAll_intercalate, String.toList_intercalate, piecesOfAll_eq_map, renderAll_eq_map,
      List.map_map, List.map_map]
    exact congrArg _ (List.map_congr_left each)
  induction expr using inductionOn with
  | column name => exact Piece.spellAll_singleton _
  | literal value => exact value.spellAll_pieces
  | binary op left right leftSpelled rightSpelled =>
      show Piece.spellAll (left.operandPieces ++ .mark (.operator op) :: right.operandPieces) = _
      rw [Piece.spellAll_append, Piece.spellAll, ofOperand leftSpelled, ofOperand rightSpelled]
      simp [text, render, Piece.spell, Mark.text]
  | not operand spelled | negate operand spelled =>
      simp [pieces, Piece.spellAll, spelled, text, render, Piece.spell, Mark.text]
  | isNull operand spelled | isNotNull operand spelled =>
      rw [pieces, Piece.spellAll_append, spelled, Piece.spellAll_singleton]
      simp [text, render, Piece.spell, Mark.text]
  | cast operand target checked spelled =>
      simp [pieces, Piece.spellAll, Piece.spellAll_append, Piece.spell, spelled, text, render,
        Mark.text]
  | call name arguments each | invocation function arguments each =>
      simp [pieces, Piece.spellAll, Piece.spell, ofArguments each, text, render]
  | field base name spelled =>
      simp [pieces, Piece.spellAll, Piece.spellAll_append, Piece.spell, spelled, text, render,
        Mark.text]

end Expr

end ScalarSql
