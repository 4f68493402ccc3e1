import ScalarSql.Expr.Basic
import ScalarSql.Syntax.Tree
import ScalarSql.Text.Case

/-!
# From terms to expressions

A term becomes an expression by giving its names a meaning.  A name that a select list
introduces stands for the expression behind it, unless the table has a column of that
name; any other name is a column.  Numbers take the smallest of the types `INT`, `BIGINT`
and `DECIMAL` that holds them, and a point or an exponent makes a number a decimal.
-/

set_option autoImplicit false

namespace ScalarSql

/-- What names stand for in the clauses of a query. -/
structure NameScope where
  /-- The names of the select list in lower case, the latest one first. -/
  aliases : List (String × Expr) := []
  /-- The columns of the table in lower case. -/
  columns : List String := []

namespace NameScope

/-- The expression that a name of the select list stands for. -/
def alias? (scope : NameScope) (name : String) : Option Expr :=
  if scope.columns.contains (Text.lower name) then none
  else scope.aliases.lookup (Text.lower name)

/-- The meaning of a name. -/
def meaning (scope : NameScope) (name : String) : Expr :=
  (scope.alias? name).getD (.column name)

/-- The scope with one more name, which hides an earlier one. -/
def define (scope : NameScope) (name : String) (expr : Expr) : NameScope :=
  { scope with aliases := (Text.lower name, expr) :: scope.aliases }

end NameScope

/-! ## Literals -/

/-- The integer that digits write, in the smallest type that holds it. -/
def Value.ofInteger? (text : String) : Option Value :=
  (readInt? text.toList).bind fun number =>
    ((BoundedInt.ofInt? number).map Value.int).or ((BoundedInt.ofInt? number).map Value.long)

/-- The value of a number: an integer if it is one in range, otherwise a decimal. -/
def Value.ofNumber (text : String) : Except Error Value :=
  match (Value.ofInteger? text).or ((Decimal.readExact? text).map Value.decimal) with
  | some found => .ok found
  | none => .error (.schema (.invalidNumber text))

/-- The value of a literal. -/
def Value.ofLiteral : Syntax.Literal → Except Error Value
  | .number text _ => Value.ofNumber text
  | .text value => .ok (.string value)
  | .boolean value => .ok (.boolean value)
  | .null => .ok .null
  | .other label _ => .error (.notImplemented ("Unsupported value: " ++ label))

/-! ## Types -/

/-- The names that a cast can give each type. -/
def DataType.spellings : List (DataType × List String) :=
  [(.int, ["INT", "INTEGER", "INT4"]),
    (.long, ["BIGINT", "LONG", "INT8"]),
    (.double, ["DOUBLE", "DOUBLE PRECISION", "FLOAT", "FLOAT8", "REAL"]),
    (.decimal, ["DECIMAL", "NUMERIC", "DEC"]),
    (.string, ["STRING", "TEXT", "VARCHAR", "CHAR", "CHARACTER VARYING"]),
    (.boolean, ["BOOLEAN", "BOOL"])]

/-- The type that a cast names; sizes in parentheses do not matter. -/
def DataType.ofSpelling (text : String) : Except Error DataType :=
  let upper := Text.upper text
  let base := Text.trim (String.ofList (upper.toList.takeWhile (· != '(')))
  match DataType.spellings.find? fun entry => entry.2.contains base with
  | some (type, _) => .ok type
  | none =>
      .error (.unsupported ("CAST to " ++ upper)
        "Supported: INT, BIGINT, DOUBLE, DECIMAL, STRING, BOOLEAN")

/-! ## Terms -/

namespace Expr

/-- The negated literal, if the negative number has the same type. -/
def negatedLiteral? : Value → Option Value
  | .int number => (BoundedInt.ofInt? (-number.val)).map Value.int
  | .long number => (BoundedInt.ofInt? (-number.val)).map Value.long
  | .decimal number => some (.decimal number.neg)
  | _ => none

/-- The negation of an expression; a negated number is a literal again. -/
def negated : Expr → Expr
  | .literal value =>
      match negatedLiteral? value with
      | some result => .literal result
      | none => .negate (.literal value)
  | other => .negate other

/-- Fields of fields of an expression. -/
def fields (base : Expr) (names : List Syntax.Name) : Expr :=
  names.foldl (fun expr name => .field expr name.text) base

/-- The binary operation that a sign writes. -/
def ofSign (sign : Syntax.BinarySign) (left right : Expr) : Except Error Expr :=
  match sign.meaning with
  | some op => .ok (.binary op left right)
  | none => .error (.notImplemented ("Unsupported binary operator: " ++ sign.label))

/-- The name under which a function is called: the last one of a path. -/
def functionName (path : List Syntax.Name) : String :=
  (path.getLast?.map Syntax.Name.text).getD ""

mutual

/-- The expression that a term writes. -/
def ofTerm (scope : NameScope) : Syntax.Term → Except Error Expr
  | .identifier name => .ok (scope.meaning name.text)
  | .path first rest => .ok ((scope.meaning first.text).fields rest)
  | .literal value => (Value.ofLiteral value).map .literal
  | .binary left sign right => do
      let left ← ofTerm scope left
      let right ← ofTerm scope right
      ofSign sign left right
  | .not operand => (ofTerm scope operand).map .not
  | .plus operand => ofTerm scope operand
  | .minus operand => (ofTerm scope operand).map negated
  | .factorial operand => do
      let _ ← ofTerm scope operand
      .error (.notImplemented "Unsupported unary operator: PGPostfixFactorial")
  | .isNull operand => (ofTerm scope operand).map .isNull
  | .isNotNull operand => (ofTerm scope operand).map .isNotNull
  | .cast _ operand target _ => do
      let operand ← ofTerm scope operand
      let type ← DataType.ofSpelling target
      .ok (.cast operand type false)
  | .call function _ arguments =>
      (ofTerms scope arguments).map (.call (functionName function))
  | .queryCall _ => .error (.notImplemented "Subquery function arguments")
  | .nested inner => ofTerm scope inner
  | .subquery spelling =>
      .error (.notImplemented ("Unsupported expression: (" ++ spelling ++ ")"))
  | .star => .ok (.column "*")
  | .labelled spelling =>
      .error (.unsupported ("function argument " ++ spelling) "Use positional arguments")
  | .other spelling => .error (.notImplemented ("Unsupported expression: " ++ spelling))

/-- The expressions that several terms write. -/
def ofTerms (scope : NameScope) : List Syntax.Term → Except Error (List Expr)
  | [] => .ok []
  | first :: rest => do
      let expr ← ofTerm scope first
      let others ← ofTerms scope rest
      .ok (expr :: others)

end

end Expr

end ScalarSql
