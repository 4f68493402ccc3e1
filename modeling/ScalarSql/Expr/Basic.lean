import ScalarSql.Function.Callable
import ScalarSql.Operator
import ScalarSql.Schema
import ScalarSql.Value.Order

/-!
# Expressions

An expression is first written with calls by name and, once analysed, with invocations of
functions.  An invocation carries an identity that survives the rewriting of its
arguments.  The text of an expression serves as a default column name; it is not meant to
be read back.
-/

set_option autoImplicit false

namespace ScalarSql

/-- A function chosen for one particular call. -/
structure ResolvedFunction where
  /-- The identity of the call. -/
  id : Nat
  callable : Callable

/-- An expression over the columns of a row. -/
inductive Expr where
  | column (name : String)
  | literal (value : Value)
  | binary (op : Operator) (left right : Expr)
  | not (operand : Expr)
  | negate (operand : Expr)
  | isNull (operand : Expr)
  | isNotNull (operand : Expr)
  /-- A checked cast refuses to drop the fraction of a decimal. -/
  | cast (operand : Expr) (target : DataType) (checked : Bool)
  /-- A call by name, which has no value until it is resolved. -/
  | call (name : String) (arguments : List Expr)
  | invocation (function : ResolvedFunction) (arguments : List Expr)
  | field (base : Expr) (name : String)

namespace Expr

instance : Inhabited Expr := ⟨.literal .null⟩

/-- Whether the expression is a literal. -/
def isLiteral : Expr → Bool
  | .literal _ => true
  | _ => false

/-- Whether the expression is a binary operation. -/
def isBinary : Expr → Bool
  | .binary .. => true
  | _ => false

/-- The invocation of a function, whose signature must accept the number of arguments. -/
def invoke? (function : ResolvedFunction) (arguments : List Expr) :
    Except AnalysisError Expr :=
  let signature := function.callable.signature
  if signature.accepts arguments.length then .ok (.invocation function arguments)
  else .error (.wrongArity signature.name signature.arity.text arguments.length)

/-! ## Equality -/

mutual

/-- Whether two expressions are interchangeable: literals are compared as keys are,
invocations by identity, name and arguments. -/
def same : Expr → Expr → Bool
  | .column left, .column right => left == right
  | .literal left, .literal right => Value.same left right
  | .binary leftOp left₁ left₂, .binary rightOp right₁ right₂ =>
      leftOp == rightOp && same left₁ right₁ && same left₂ right₂
  | .not left, .not right => same left right
  | .negate left, .negate right => same left right
  | .isNull left, .isNull right => same left right
  | .isNotNull left, .isNotNull right => same left right
  | .cast left leftTarget leftChecked, .cast right rightTarget rightChecked =>
      same left right && leftTarget == rightTarget && leftChecked == rightChecked
  | .call leftName left, .call rightName right => leftName == rightName && sameAll left right
  | .invocation leftFunction left, .invocation rightFunction right =>
      leftFunction.id == rightFunction.id
        && leftFunction.callable.name == rightFunction.callable.name && sameAll left right
  | .field left leftName, .field right rightName => same left right && leftName == rightName
  | _, _ => false

/-- Whether two lists of expressions are interchangeable item by item. -/
def sameAll : List Expr → List Expr → Bool
  | [], [] => true
  | left :: lefts, right :: rights => same left right && sameAll lefts rights
  | _, _ => false

end

/-! ## Text -/

/-- The text of a literal; texts are quoted. -/
def literalText : Value → String
  | .string text => "'" ++ text ++ "'"
  | other => other.text

mutual

/-- The text of an expression, where `nested` says whether it is an operand of a binary
operation.  Only binary operations are put in parentheses there. -/
def render (nested : Bool) : Expr → String
  | .column name => name
  | .literal value => literalText value
  | .binary op left right =>
      let inner := left.render true ++ " " ++ op.text ++ " " ++ right.render true
      if nested then "(" ++ inner ++ ")" else inner
  | .not operand => "NOT " ++ operand.render false
  | .negate operand => "-" ++ operand.render false
  | .isNull operand => operand.render false ++ " IS NULL"
  | .isNotNull operand => operand.render false ++ " IS NOT NULL"
  | .cast operand target _ => "CAST(" ++ operand.render false ++ " AS " ++ target.text ++ ")"
  | .call name arguments => name ++ "(" ++ ", ".intercalate (renderAll arguments) ++ ")"
  | .invocation function arguments =>
      function.callable.name ++ "(" ++ ", ".intercalate (renderAll arguments) ++ ")"
  | .field base name => base.render false ++ "." ++ name

/-- The texts of arguments, which no parentheses surround. -/
def renderAll : List Expr → List String
  | [] => []
  | argument :: rest => argument.render false :: renderAll rest

end

/-- The text of an expression. -/
def text (expr : Expr) : String := expr.render false

/-! ## Traversal -/

mutual

/-- The expression and all expressions in it, each before its parts. -/
def parts : Expr → List Expr
  | .binary op left right => .binary op left right :: (left.parts ++ right.parts)
  | .not operand => .not operand :: operand.parts
  | .negate operand => .negate operand :: operand.parts
  | .isNull operand => .isNull operand :: operand.parts
  | .isNotNull operand => .isNotNull operand :: operand.parts
  | .cast operand target checked => .cast operand target checked :: operand.parts
  | .call name arguments => .call name arguments :: partsOfAll arguments
  | .invocation function arguments => .invocation function arguments :: partsOfAll arguments
  | .field base name => .field base name :: base.parts
  | other => [other]

/-- The expressions in several expressions, in order. -/
def partsOfAll : List Expr → List Expr
  | [] => []
  | argument :: rest => argument.parts ++ partsOfAll rest

end

mutual

/-- The name of the first call that is not resolved. -/
def unresolvedCall? : Expr → Option String
  | .column _ | .literal _ => none
  | .binary _ left right => left.unresolvedCall?.or right.unresolvedCall?
  | .not operand | .negate operand | .isNull operand | .isNotNull operand
  | .cast operand _ _ | .field operand _ => operand.unresolvedCall?
  | .call name _ => some name
  | .invocation _ arguments => unresolvedCallIn? arguments

/-- The name of the first call in several expressions that is not resolved. -/
def unresolvedCallIn? : List Expr → Option String
  | [] => none
  | argument :: rest => argument.unresolvedCall?.or (unresolvedCallIn? rest)

end

mutual

/-- Rewrites an expression from its leaves to its root: `step` is applied to every
expression after its parts have been rewritten. -/
def rewrite (step : Expr → Expr) : Expr → Expr
  | .column name => step (.column name)
  | .literal value => step (.literal value)
  | .binary op left right => step (.binary op (left.rewrite step) (right.rewrite step))
  | .not operand => step (.not (operand.rewrite step))
  | .negate operand => step (.negate (operand.rewrite step))
  | .isNull operand => step (.isNull (operand.rewrite step))
  | .isNotNull operand => step (.isNotNull (operand.rewrite step))
  | .cast operand target checked => step (.cast (operand.rewrite step) target checked)
  | .call name arguments => step (.call name (rewriteAll step arguments))
  | .invocation function arguments => step (.invocation function (rewriteAll step arguments))
  | .field base name => step (.field (base.rewrite step) name)

/-- Rewrites each of several expressions. -/
def rewriteAll (step : Expr → Expr) : List Expr → List Expr
  | [] => []
  | argument :: rest => argument.rewrite step :: rewriteAll step rest

end

/-! ## Types -/

/-- The type of an expression over rows of the given schema.  The operand of a logical
negation or of a test for `NULL` is not looked at, nor are the arguments of an
invocation. -/
def dataType (schema : Schema) : Expr → Except Error DataType
  | .column name =>
      match schema.column? name with
      | some found => .ok found.type
      | none => .error (.analysis (.unknownColumn name))
  | .literal value => .ok value.ownType
  | .binary op left right =>
      match left.dataType schema with
      | .error error => .error error
      | .ok leftType =>
          match right.dataType schema with
          | .error error => .error error
          | .ok rightType => (op.resultType leftType rightType).mapError .analysis
  | .not _ | .isNull _ | .isNotNull _ => .ok .boolean
  | .negate operand => operand.dataType schema
  | .cast _ target _ => .ok target
  | .call name _ => .error (.evaluation (.unresolvedCall name))
  | .invocation function _ => .ok function.callable.signature.returnType
  | .field base name =>
      match base.dataType schema with
      | .error error => .error error
      | .ok type => (type.fieldType name).mapError .analysis

end Expr

end ScalarSql
