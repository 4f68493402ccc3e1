import ScalarSql.DataType

/-!
# What can go wrong

Errors are causes, and `Error.message` is the one place where they are put into words.
Analysis errors are found before any row is read.  A failing function is reported with
the name of the function and, once it is known, the row that was being evaluated.
-/

set_option autoImplicit false

namespace ScalarSql

/-- A query that cannot be given a meaning. -/
inductive AnalysisError where
  | undefinedFunction (name : String)
  | wrongArity (name expected : String) (actual : Nat)
  | typeMismatch (name : String) (position : Nat) (expected actual : DataType)
  | unknownColumn (name : String)
  | noSuchField (field : String) (type : DataType)
  | notAStruct (field : String) (type : DataType)
  | invalidOperands (operator : String) (left right : DataType)
  | nonBooleanPredicate (clause : String) (actual : DataType)
  deriving DecidableEq

/-- The wording of an analysis error. -/
def AnalysisError.message : AnalysisError → String
  | .undefinedFunction name => "undefined function: " ++ name
  | .wrongArity name expected actual =>
      "wrong number of arguments for function '" ++ name ++ "': expected " ++ expected
        ++ ", got " ++ Nat.repr actual
  | .typeMismatch name position expected actual =>
      "type mismatch in call to '" ++ name ++ "': argument " ++ Nat.repr position
        ++ " expects " ++ expected.text ++ ", got " ++ actual.text
  | .unknownColumn name => "unknown column '" ++ name ++ "'"
  | .noSuchField field type => "struct " ++ type.text ++ " has no field '" ++ field ++ "'"
  | .notAStruct field type =>
      "cannot access field '" ++ field ++ "' of non-struct type " ++ type.text
  | .invalidOperands operator left right =>
      "invalid operands for '" ++ operator ++ "': " ++ left.text ++ " and " ++ right.text
  | .nonBooleanPredicate clause actual =>
      clause ++ " predicate must be BOOLEAN, got " ++ actual.text

/-- Why a function cannot be registered. -/
inductive SignatureFault where
  | badName
  | tooManyParameters (count limit : Nat)
  | arityMismatch (arity parameters : Nat)
  | nothingToRepeat
  | parameter (position : Nat) (fault : DataType.Fault)
  | returnType (fault : DataType.Fault)
  deriving DecidableEq

/-- The wording of a signature fault. -/
def SignatureFault.message : SignatureFault → String
  | .badName => "function name must be a non-empty SQL identifier"
  | .tooManyParameters count limit =>
      Nat.repr count ++ " parameters declared, at most " ++ Nat.repr limit ++ " are supported"
  | .arityMismatch arity parameters =>
      "arity " ++ Nat.repr arity ++ " does not match " ++ Nat.repr parameters
        ++ " parameter types"
  | .nothingToRepeat => "variadic signature needs a repeated parameter type"
  | .parameter position fault => "parameter " ++ Nat.repr position ++ ": " ++ fault.message
  | .returnType fault => "return type: " ++ fault.message

/-- Why stored data or literals do not fit their schema. -/
inductive SchemaFault where
  | invalidNumber (text : String)
  | invalidRowCount (text : String)
  | negativeDecimalScale (scale : Int)
  | decimalOutOfRange
  | decimalTooWide (decimal : String) (precision scale : Nat)
  | noBatches (table : String)
  | batchSchemaDiffers (table : String)
  deriving DecidableEq

/-- The wording of a schema fault. -/
def SchemaFault.message : SchemaFault → String
  | .invalidNumber text => "Invalid number: " ++ text
  | .invalidRowCount text => "LIMIT/OFFSET value must be a positive integer, got: " ++ text
  | .negativeDecimalScale scale =>
      "negative decimal scale " ++ (if scale < 0 then "-" else "") ++ Nat.repr scale.natAbs
        ++ " is not supported"
  | .decimalOutOfRange => "decimal out of range"
  | .decimalTooWide decimal precision scale =>
      "decimal " ++ decimal ++ " does not fit DECIMAL(" ++ Nat.repr precision ++ ", "
        ++ Nat.repr scale ++ ")"
  | .noBatches table => "table '" ++ table ++ "' needs at least one batch"
  | .batchSchemaDiffers table => "table '" ++ table ++ "': batch schema"

/-- Why the value of an expression cannot be computed, other than by a failing
function. -/
inductive EvaluationFault where
  | numericOverflow (operator : String)
  | notRepresentable (number : String)
  | inexactNarrowing (decimal : String) (target : DataType)
  | cannotCast (value : String) (target : DataType)
  | missingColumn (name : String)
  | columnOutOfRange (index width : Nat)
  | unresolvedCall (name : String)
  /-- A fault that the body of a function words itself. -/
  | reported (message context : String)
  deriving DecidableEq

/-- What happened, in words. -/
def EvaluationFault.message : EvaluationFault → String
  | .numericOverflow _ => "numeric overflow"
  | .notRepresentable number => number ++ " is not representable"
  | .inexactNarrowing decimal target =>
      decimal ++ " cannot be narrowed to " ++ target.text ++ " exactly"
  | .cannotCast value target => "cannot cast " ++ value ++ " to " ++ target.text
  | .missingColumn name => "column '" ++ name ++ "' not in input"
  | .columnOutOfRange index width =>
      "column index " ++ Nat.repr index ++ " out of range (" ++ Nat.repr width ++ ")"
  | .unresolvedCall _ => "unresolved function call"
  | .reported message _ => message

/-- Where it happened. -/
def EvaluationFault.context : EvaluationFault → String
  | .numericOverflow operator => operator
  | .notRepresentable _ => "DECIMAL"
  | .inexactNarrowing .. => "CAST"
  | .cannotCast .. => "CAST"
  | .missingColumn _ => "evaluate"
  | .columnOutOfRange .. => "evaluate"
  | .unresolvedCall name => name
  | .reported _ context => context

/-- Why a configuration cannot be read. -/
inductive ConfigFault where
  | unknownErrorPolicy (text : String)
  | unknownNarrowing (text : String)
  | badPassCount (setting value : String)
  /-- The text of a configuration file is malformed. -/
  | malformed
  deriving DecidableEq

/-- The wording of a configuration fault; a malformed file is not described further. -/
def ConfigFault.message : ConfigFault → String
  | .unknownErrorPolicy text =>
      "unknown UDF error policy '" ++ text ++ "' (expected abort|null)"
  | .unknownNarrowing text => "unknown decimal narrowing policy '" ++ text ++ "'"
  | .badPassCount setting value =>
      setting ++ " must be a positive integer, got '" ++ value ++ "'"
  | .malformed => ""

/-- Any failure of the library. -/
inductive Error where
  | signature (name : String) (fault : SignatureFault)
  | analysis (error : AnalysisError)
  | functionFailed (function : String) (row : Option Nat) (message : String)
  /-- A text without a statement, or, with no message, one that is not SQL. -/
  | parse (message : Option String) (sql : String)
  | unsupported (feature hint : String)
  | notImplemented (what : String)
  | tableNotFound (name : String)
  | schema (fault : SchemaFault)
  | typeMismatch (expected actual : String)
  | evaluation (fault : EvaluationFault)
  | columnar
  | missingFile
  | config (fault : ConfigFault)
  /-- A document does not describe what it should. -/
  | malformedDocument
  /-- A sort gives up, and what it is a part of ends without an answer. -/
  | inconsistentOrder
  deriving DecidableEq

namespace Error

/-- The wording of an error. -/
def message : Error → String
  | .signature name fault =>
      "signature inference error for '" ++ name ++ "': " ++ fault.message
  | .analysis error => "analysis error: " ++ error.message
  | .functionFailed function row message =>
      let place := match row with
        | some index => " at row " ++ Nat.repr index
        | none => ""
      "UDF '" ++ function ++ "' failed" ++ place ++ ": " ++ message
  | .parse message sql => "SQL parse error: " ++ message.getD "" ++ "\nSQL: " ++ sql
  | .unsupported feature hint =>
      "SQL feature not supported: " ++ feature ++ "\nHint: " ++ hint
  | .notImplemented what => "not implemented: " ++ what
  | .tableNotFound name => "table '" ++ name ++ "' not found"
  | .schema fault => "schema error: " ++ fault.message
  | .typeMismatch expected actual =>
      "type mismatch: expected " ++ expected ++ ", got " ++ actual
  | .evaluation fault =>
      "execution error: " ++ fault.message ++ "\nContext: " ++ fault.context
  | .columnar => "arrow error"
  | .missingFile => "io error"
  | .config fault => "serialization error: " ++ fault.message
  | .malformedDocument => "malformed document"
  | .inconsistentOrder =>
      "user-provided comparison function does not correctly implement a total order"

/-- The error with the row that was being evaluated, if a function failed and the row is
not known yet. -/
def withRow (error : Error) (row : Nat) : Error :=
  match error with
  | .functionFailed function none message => .functionFailed function (some row) message
  | other => other

end Error

end ScalarSql
