import ScalarSql.Document.Type
import ScalarSql.Expr.Resolution

/-!
# Expressions in documents

An expression is written as an object whose members say what kind of expression it is.  A
resolved call is written with the signature of its function; it is read with the name of
the function alone, and every call that is read has an identity of its own.
-/

set_option autoImplicit false

namespace ScalarSql

/-- The data that a document gives, which must be well formed. -/
def ofDocument {α : Type} (content : Option α) : Except Error α :=
  match content with
  | some found => .ok found
  | none => .error .malformedDocument

/-- The member of a document under a name, read as data. -/
def Json.get {α : Type} [FromJson α] (json : Json) (name : String) : Except Error α :=
  ofDocument (json.get? name)

instance : ToJson Operator := ⟨fun op => .string op.text⟩

instance : FromJson Operator := ⟨fun json => (fromJson? json).bind Operator.ofText?⟩

/-- The function that a resolved call in a document stands for: under its name, the first
one that accepts the number of arguments, or else the first one. -/
def FunctionScope.candidate? (scope : FunctionScope) (name : String) (count : Nat) :
    Option Callable :=
  (scope.lookup name).bind fun candidates =>
    (candidates.find? fun callable => callable.signature.accepts count).or candidates.head?

namespace Expr

mutual

/-- The document for an expression. -/
def toDocument : Expr → Json
  | .column name => .object [("col", toJson name)]
  | .literal value => .object [("lit", toJson value)]
  | .binary op left right =>
      .object [("bin", .array [toJson op, left.toDocument, right.toDocument])]
  | .not operand => .object [("not", operand.toDocument)]
  | .negate operand => .object [("neg", operand.toDocument)]
  | .isNull operand => .object [("isnull", operand.toDocument)]
  | .isNotNull operand => .object [("isnotnull", operand.toDocument)]
  | .cast operand target checked =>
      .object [("cast", operand.toDocument), ("to", toJson target), ("checked", toJson checked)]
  | .call name arguments =>
      .object [("call", toJson name), ("args", .array (argumentDocuments arguments))]
  | .invocation function arguments =>
      .object
        [("inv", toJson function.callable.signature.text),
          ("args", .array (argumentDocuments arguments))]
  | .field base name => .object [("field", base.toDocument), ("name", toJson name)]

/-- The documents of several expressions. -/
def argumentDocuments : List Expr → List Json
  | [] => []
  | argument :: rest => argument.toDocument :: argumentDocuments rest

end

/-- Items read one after the other. -/
def readEach {α : Type} (readOne : Json → Resolving α) : List Json → Resolving (List α)
  | [] => pure []
  | item :: rest => do
      let first ← readOne item
      let others ← readEach readOne rest
      pure (first :: others)

/-- An invocation with an identity of its own. -/
def invoke (callable : Callable) (arguments : List Expr) : Resolving Expr := do
  let id ← freshId
  (invoke? { id, callable } arguments).mapError Error.analysis

/-- The expression that an object of several members gives; `readOne` reads its parts. -/
def ofMembers (scope : FunctionScope) (readOne : Json → Resolving Expr) (json : Json) :
    Resolving Expr := do
  if json.has "cast" then
    let operand ← readOne (json.member "cast")
    let target ← json.get "to"
    let checked ← json.get "checked"
    pure (.cast operand target checked)
  else if json.has "field" then
    let base ← readOne (json.member "field")
    let name ← json.get "name"
    pure (.field base name)
  else
    let items ← json.get "args"
    let arguments ← readEach readOne items
    if json.has "call" then
      let name ← json.get "call"
      pure (.call name arguments)
    else
      let name ← json.get "inv"
      let callable ← ofDocument (scope.candidate? name arguments.length)
      invoke callable arguments

/-- The expression that a document of a given depth gives. -/
def ofDocumentAt (scope : FunctionScope) : Nat → Json → Resolving Expr
  | 0, _ => throw .malformedDocument
  | depth + 1, json =>
      match json with
      | .object [("col", .string name)] => pure (.column name)
      | .object [("lit", content)] => do
          let value ← ScalarSql.ofDocument (fromJson? content)
          pure (.literal value)
      | .object [("bin", .array [sign, left, right])] => do
          let op ← ScalarSql.ofDocument (fromJson? sign)
          let left ← ofDocumentAt scope depth left
          let right ← ofDocumentAt scope depth right
          pure (.binary op left right)
      | .object [("not", operand)] => .not <$> ofDocumentAt scope depth operand
      | .object [("neg", operand)] => .negate <$> ofDocumentAt scope depth operand
      | .object [("isnull", operand)] => .isNull <$> ofDocumentAt scope depth operand
      | .object [("isnotnull", operand)] => .isNotNull <$> ofDocumentAt scope depth operand
      | members => ofMembers scope (ofDocumentAt scope depth) members

/-- The expression that a document gives. -/
def ofDocument (scope : FunctionScope) (json : Json) : Resolving Expr :=
  ofDocumentAt scope json.depth json

end Expr

instance : ToJson Expr := ⟨Expr.toDocument⟩

end ScalarSql
