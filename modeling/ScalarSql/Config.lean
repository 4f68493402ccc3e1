import ScalarSql.Expr.Evaluation
import ScalarSql.Json.Reading
import ScalarSql.Text.Case

/-!
# Session settings

Settings start from defaults and can be changed one by one, read from a JSON document, or
taken from named variables of the environment.  A document is an object, where members
that are missing keep their default and members of other names are ignored, or an array
with the settings in order.  At least one rewriting pass is always made.
-/

set_option autoImplicit false

namespace ScalarSql

/-- The settings of a session. -/
structure Config where
  /-- Whether the names of registered functions are told apart by case. -/
  caseSensitive : Bool := false
  narrowing : Narrowing := .exact
  onError : FailurePolicy := .abort
  /-- The most passes of rewriting and analysing that are made. -/
  maxPasses : Nat := 4
  deriving DecidableEq

/-- The policy with the given name, in any case of ASCII letters. -/
def FailurePolicy.ofText? (text : String) : Except ConfigFault FailurePolicy :=
  let lowered := String.ofList (text.toList.map Char.toLower)
  if lowered == FailurePolicy.abort.text then .ok .abort
  else if lowered == FailurePolicy.null.text then .ok .null
  else .error (.unknownErrorPolicy lowered)

/-- The policy with the given name, in any case. -/
def Narrowing.ofText? (text : String) : Except ConfigFault Narrowing :=
  let lowered := Text.lower text
  if lowered == Narrowing.exact.text then .ok .exact
  else if lowered == Narrowing.truncate.text then .ok .truncate
  else .error (.unknownNarrowing lowered)

namespace Config

/-- The settings with another number of passes, which is at least one. -/
def withMaxPasses (config : Config) (passes : Nat) : Config :=
  { config with maxPasses := max passes 1 }

/-! ## Variables of the environment -/

/-- The variable for telling names apart by case. -/
def caseSensitiveVariable : String := "DBX_UDF_CASE_SENSITIVE"

/-- The variable for the narrowing policy. -/
def narrowingVariable : String := "DBX_UDF_DECIMAL_NARROWING"

/-- The variable for the error policy. -/
def onErrorVariable : String := "DBX_UDF_ON_ERROR"

/-- The variable for the number of passes. -/
def maxPassesVariable : String := "DBX_UDF_MAX_REWRITE_PASSES"

/-- Whether the value of a variable switches a setting on. -/
def switchesOn (value : String) : Bool :=
  Text.sameName value "true" || value == "1"

/-- A setting changed by a variable, if the variable is set. -/
def override (setting : Option String)
    (change : Config → String → Except ConfigFault Config) (config : Config) :
    Except ConfigFault Config :=
  match setting with
  | none => .ok config
  | some value => change config value

/-- The settings with the number of passes that a text gives. -/
def setPasses (config : Config) (value : String) : Except ConfigFault Config :=
  match readCount? value.toList with
  | some passes => .ok (config.withMaxPasses passes)
  | none => .error (.badPassCount maxPassesVariable value)

/-- The settings after the variables that are set. -/
def applyEnvironment (config : Config) (lookup : String → Option String) :
    Except ConfigFault Config := do
  let config ← override (lookup caseSensitiveVariable)
    (fun config value => .ok { config with caseSensitive := switchesOn value }) config
  let config ← override (lookup narrowingVariable)
    (fun config value => (Narrowing.ofText? value).map fun narrowing =>
      { config with narrowing }) config
  let config ← override (lookup onErrorVariable)
    (fun config value => (FailurePolicy.ofText? value).map fun onError =>
      { config with onError }) config
  override (lookup maxPassesVariable) setPasses config

/-! ## Documents -/

/-- The name of a choice: a text, or an object with the name as its only member. -/
def choice? : Json → Option String
  | .string name => some name
  | .object [(name, .null)] => some name
  | _ => none

/-- One member of a document set. -/
def setMember? (config : Config) (name : String) (value : Json) : Option Config :=
  if name == "case_sensitive" then
    match value with
    | .bool caseSensitive => some { config with caseSensitive }
    | _ => none
  else if name == "decimal_narrowing" then
    match choice? value with
    | some "exact" => some { config with narrowing := .exact }
    | some "truncate" => some { config with narrowing := .truncate }
    | _ => none
  else if name == "on_udf_error" then
    match choice? value with
    | some "abort" => some { config with onError := .abort }
    | some "null" => some { config with onError := .null }
    | _ => none
  else if name == "max_rewrite_passes" then
    match value with
    | .number text =>
        (readDigits? text.toList).bind fun maxPasses =>
          if maxPasses < twoPow 64 then some { config with maxPasses } else none
    | _ => none
  else some config

/-- The names of the settings in a document, in order. -/
def memberNames : List String :=
  ["case_sensitive", "decimal_narrowing", "on_udf_error", "max_rewrite_passes"]

/-- The members of a document set one after the other; a setting is given only once. -/
def setMembers? (config : Config) (given : List String) : List (String × Json) → Option Config
  | [] => some config
  | (name, value) :: rest =>
      if given.contains name then none
      else
        (setMember? config name value).bind fun changed =>
          setMembers? changed (if memberNames.contains name then name :: given else given) rest

/-- The settings in a document. -/
def ofJson? : Json → Option Config
  | .object members => setMembers? {} [] members
  | .array items =>
      if items.length ≤ memberNames.length then setMembers? {} [] (memberNames.zip items)
      else none
  | _ => none

/-- The settings that a document gives. -/
def read (document : String) : Except Error Config :=
  match (Json.read? document).bind ofJson? with
  | some config => .ok (config.withMaxPasses config.maxPasses)
  | none => .error (.config .malformed)

/-- The settings as a JSON value. -/
def toJson (config : Config) : Json :=
  .object
    [("case_sensitive", .bool config.caseSensitive),
      ("decimal_narrowing", .string config.narrowing.text),
      ("on_udf_error", .string config.onError.text),
      ("max_rewrite_passes", .ofNat config.maxPasses)]

/-- The settings as a document. -/
def write (config : Config) : String := config.toJson.pretty

end Config

end ScalarSql
