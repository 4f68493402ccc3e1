import ScalarSql.Error

/-!
# Binary operators

The arithmetic, comparison and logical operators, with their static rules: the type of a
result from the types of the operands, and the operator that gives the same answer when
the operands change places.  A bare `NULL` takes the type of the other operand.
-/

set_option autoImplicit false

namespace ScalarSql

/-- The arithmetic operators. -/
inductive Arithmetic where
  | add | sub | mul | div | rem
  deriving DecidableEq

/-- The comparison operators. -/
inductive Comparison where
  | eq | ne | lt | le | gt | ge
  deriving DecidableEq

/-- The logical connectives. -/
inductive Connective where
  | and | or
  deriving DecidableEq

/-- A binary operator. -/
inductive Operator where
  | arithmetic (op : Arithmetic)
  | comparison (op : Comparison)
  | logical (op : Connective)
  deriving DecidableEq

namespace Arithmetic

/-- The sign of the operator. -/
def text : Arithmetic → String
  | .add => "+"
  | .sub => "-"
  | .mul => "*"
  | .div => "/"
  | .rem => "%"

/-- Whether the operator divides, so that a zero on its right has no result. -/
def divides : Arithmetic → Bool
  | .div | .rem => true
  | .add | .sub | .mul => false

/-- The type of a result: the wider of two numeric types. -/
def resultType? : DataType → DataType → Option DataType
  | .unresolved, .unresolved => some .unresolved
  | .unresolved, type => if type.isNumeric then some type else none
  | type, .unresolved => if type.isNumeric then some type else none
  | left, right =>
      match left.numericRank?, right.numericRank? with
      | some leftRank, some rightRank => some (if rightRank ≤ leftRank then left else right)
      | _, _ => none

end Arithmetic

namespace Comparison

/-- The sign of the operator. -/
def text : Comparison → String
  | .eq => "="
  | .ne => "!="
  | .lt => "<"
  | .le => "<="
  | .gt => ">"
  | .ge => ">="

/-- The comparison that holds of swapped operands. -/
def flip : Comparison → Comparison
  | .eq => .eq
  | .ne => .ne
  | .lt => .gt
  | .le => .ge
  | .gt => .lt
  | .ge => .le

/-- Whether the comparison holds of operands in the given order. -/
def holds : Comparison → Ordering → Bool
  | .eq, order => order == .eq
  | .ne, order => order != .eq
  | .lt, order => order == .lt
  | .le, order => order != .gt
  | .gt, order => order == .gt
  | .ge, order => order != .lt

/-- Whether values of two types compare: numbers with numbers, and otherwise values of
one type that is not an array. -/
def comparable : DataType → DataType → Bool
  | .unresolved, _ => true
  | _, .unresolved => true
  | .array _, _ => false
  | _, .array _ => false
  | left, right => (left.isNumeric && right.isNumeric) || left == right

end Comparison

namespace Connective

/-- The keyword of the connective. -/
def text : Connective → String
  | .and => "AND"
  | .or => "OR"

/-- The operand that decides the result on its own. -/
def decisive : Connective → Bool
  | .and => false
  | .or => true

/-- The three-valued connective; an operand that is not a truth value counts as unknown. -/
def combine (op : Connective) : Option Bool → Option Bool → Option Bool
  | some left, some right =>
      some (if left == op.decisive then op.decisive else right)
  | some left, none => if left == op.decisive then some op.decisive else none
  | none, some right => if right == op.decisive then some op.decisive else none
  | none, none => none

/-- Whether a type can be an operand. -/
def accepts : DataType → Bool
  | .boolean | .unresolved => true
  | _ => false

end Connective

namespace Operator

/-- The spelling of the operator. -/
def text : Operator → String
  | .arithmetic op => op.text
  | .comparison op => op.text
  | .logical op => op.text

/-- All operators. -/
def all : List Operator :=
  [.arithmetic .add, .arithmetic .sub, .arithmetic .mul, .arithmetic .div, .arithmetic .rem,
    .comparison .eq, .comparison .ne, .comparison .lt, .comparison .le, .comparison .gt,
    .comparison .ge, .logical .and, .logical .or]

/-- The operator with the given spelling. -/
def ofText? (text : String) : Option Operator :=
  all.find? fun op => op.text == text

/-- Whether the operator is arithmetic. -/
def isArithmetic : Operator → Bool
  | .arithmetic _ => true
  | _ => false

/-- Whether the operator compares. -/
def isComparison : Operator → Bool
  | .comparison _ => true
  | _ => false

/-- Whether the operator is a logical connective. -/
def isLogical : Operator → Bool
  | .logical _ => true
  | _ => false

/-- Whether the operands may change places under the same operator. -/
def isCommutative : Operator → Bool
  | .arithmetic .add | .arithmetic .mul => true
  | .comparison .eq | .comparison .ne => true
  | .logical _ => true
  | _ => false

/-- The operator to use when the operands change places, if there is one. -/
def flip? : Operator → Option Operator
  | .comparison op => some (.comparison op.flip)
  | op => if op.isCommutative then some op else none

/-- The type of the result for operands of the given types. -/
def resultType (op : Operator) (left right : DataType) : Except AnalysisError DataType :=
  let invalid := AnalysisError.invalidOperands op.text left right
  match op with
  | .arithmetic _ =>
      match Arithmetic.resultType? left right with
      | some type => .ok type
      | none => .error invalid
  | .comparison _ =>
      if Comparison.comparable left right then .ok .boolean else .error invalid
  | .logical _ =>
      if Connective.accepts left && Connective.accepts right then .ok .boolean
      else .error invalid

end Operator

end ScalarSql
