import ScalarSql.Syntax.Query

/-!
# Definitions of tables and other objects

What follows `CREATE`.  Of a definition it only matters whether it is well formed and what
kind of object it defines.
-/

set_option autoImplicit false

namespace ScalarSql.Syntax.Definition

/-! ## Common parts -/

/-- Takes `IF EXISTS`, if it comes next. -/
def ifExists : TokenParser Unit := do
  let _ ← Phrase.keywords ["IF", "EXISTS"]

/-- Takes `IF NOT EXISTS`, if it comes next. -/
def ifNotExists : TokenParser Unit := do
  let _ ← Phrase.keywords ["IF", "NOT", "EXISTS"]

/-- Takes the cluster that a change is made on, if it is given. -/
def onCluster : TokenParser Unit := do
  let _ ← Phrase.afterAll ["ON", "CLUSTER"] Phrase.name

/-- Options with names behind a keyword, if it comes next. -/
def optionsAfter (nested : Nested) (word : String) : TokenParser Unit := do
  let _ ← Phrase.after word (Column.namedOptions nested)

/-- A column with its type and its rules. -/
def column (nested : Nested) : TokenParser Unit := do
  let _ ← Column.definition nested (TypeName.spelled nested)

/-- A comment behind its keyword, with an optional equals sign. -/
def comment : TokenParser Unit := do
  let _ ← Phrase.after "COMMENT" (Phrase.sign "=" *> Column.plainText)

/-- A user, or a word for the current one. -/
def owner : TokenParser Unit := do
  let _ ← Phrase.name

/-! ## Rules on several columns -/

/-- The name of an index, if it comes next. -/
def indexName : TokenParser Unit := do
  let _ ← Parser.attempt Phrase.name

/-- How an index is stored, if it is said. -/
def indexStorage : TokenParser Unit := do
  let _ ← Phrase.after "USING" (Phrase.needOneOf ["BTREE", "HASH"])

/-- A property of an index, if one comes next. -/
def indexProperty : TokenParser (Option Unit) := do
  match ← Phrase.oneOf ["USING", "COMMENT"] with
  | some "USING" =>
      let _ ← Phrase.needOneOf ["BTREE", "HASH"]
      pure (some ())
  | some _ =>
      let _ ← Column.plainText
      pure (some ())
  | none => pure none

/-- The columns of an index with what stands in front of them and behind them. -/
def indexedColumns : TokenParser Unit := do
  indexName
  indexStorage
  let _ ← Phrase.nameList
  let _ ← Parser.many indexProperty
  let _ ← Column.Checking.parser

/-- The columns of another table, after the keywords. -/
def foreignKey : TokenParser Unit := do
  let _ ← Phrase.nameList
  Phrase.needKeyword "REFERENCES"
  let _ ← Phrase.path
  let _ ← Phrase.nameList
  let _ ← Column.ReferenceActions.parser
  let _ ← Column.Checking.parser

/-- The words that start a rule on several columns; the last four start no rule with a
name. -/
def tableRuleWords (isNamed : Bool) : List String :=
  ["UNIQUE", "PRIMARY", "FOREIGN", "CHECK"]
    ++ if isNamed then [] else ["INDEX", "KEY", "FULLTEXT", "SPATIAL"]

/-- A rule on several columns after the word that starts it. -/
def tableRuleAfter (nested : Nested) (word : String) : TokenParser Unit := do
  match word with
  | "UNIQUE" =>
      let _ ← Phrase.oneOf ["KEY", "INDEX"]
      indexedColumns
  | "PRIMARY" => Phrase.needKeyword "KEY" *> indexedColumns
  | "FOREIGN" => Phrase.needKeyword "KEY" *> foreignKey
  | "CHECK" =>
      let _ ← nested.enclosed
  | "INDEX" | "KEY" =>
      if !(← Phrase.isNext ["USING"]) then indexName
      indexStorage
      let _ ← Phrase.nameList
  | _ =>
      let _ ← Phrase.oneOf ["KEY", "INDEX"]
      indexName
      let _ ← Phrase.nameList

/-- Takes a rule on several columns, if one comes next, and says whether it did. -/
def tableRule (nested : Nested) : TokenParser Bool := do
  let name ← Phrase.after "CONSTRAINT" Phrase.name
  match ← Phrase.oneOf (tableRuleWords name.isSome) with
  | some word => tableRuleAfter nested word *> pure true
  | none => if name.isSome then Parser.fail else pure false

/-! ## Tables -/

/-- A column of a new table, or a rule on several columns. -/
def tableElement (nested : Nested) : TokenParser Unit := do
  if !(← tableRule nested) then
    if TypeName.isWord (← Parser.peek?) then column nested else Parser.fail

/-- The columns of a new table and their rules, if they come next. -/
def tableElements (nested : Nested) : TokenParser Unit := do
  if ← Phrase.sign "(" then
    let _ ← Phrase.listUntil ")" (tableElement nested)

/-- How the rows of a new table are spread over partitions. -/
def partitioning (nested : Nested) : TokenParser Unit := do
  let _ ← Phrase.afterAll ["PARTITIONED", "BY"] (Phrase.inParens (Phrase.list (column nested)))

/-- How the rows of a new table are spread over buckets. -/
def buckets (nested : Nested) : TokenParser Unit := do
  let _ ← Phrase.afterAll ["CLUSTERED", "BY"] (do
    let _ ← Phrase.nameList
    let _ ← Phrase.afterAll ["SORTED", "BY"]
      (Phrase.inParens (Phrase.list (Term.orderItem nested)))
    Phrase.needKeyword "INTO"
    let _ ← Phrase.signedNumber
    Phrase.needKeyword "BUCKETS")

/-- The characters that divide rows, if a statement on them comes next.  After a word that
starts one but is not continued nothing more is said. -/
def rowDelimiter (isOver : Bool) : TokenParser (Option Bool) := do
  if isOver then pure none
  else
    match ← Phrase.oneOf ["FIELDS", "COLLECTION", "MAP", "LINES", "NULL"] with
    | some "FIELDS" =>
        if ← Phrase.keywords ["TERMINATED", "BY"] then
          let _ ← Phrase.name
          let _ ← Phrase.afterAll ["ESCAPED", "BY"] Phrase.name
          pure (some false)
        else pure (some true)
    | some "COLLECTION" => character ["ITEMS", "TERMINATED", "BY"]
    | some "MAP" => character ["KEYS", "TERMINATED", "BY"]
    | some "LINES" => character ["TERMINATED", "BY"]
    | some _ => character ["DEFINED", "AS"]
    | none => pure none
where
  /-- A character behind several words. -/
  character (words : List String) : TokenParser (Option Bool) := do
    match ← Phrase.afterAll words Phrase.name with
    | some _ => pure (some false)
    | none => pure (some true)

/-- How rows are written to the files of a new table, after the first keyword. -/
def rowFormat : TokenParser Unit := do
  Phrase.needKeyword "FORMAT"
  if ← Phrase.keyword "SERDE" then
    let _ ← Phrase.textValue
  else
    let _ ← Phrase.keyword "DELIMITED"
    let _ ← Parser.iterate rowDelimiter false

/-- How the files of a new table are written, if a statement on that comes next. -/
def storage (nested : Nested) : TokenParser (Option Unit) := do
  if ← Phrase.keyword "ROW" then some <$> rowFormat
  else if ← Phrase.keywords ["STORED", "AS"] then
    if ← Phrase.keyword "INPUTFORMAT" then
      let _ ← nested.whole
      Phrase.needKeyword "OUTPUTFORMAT"
      let _ ← nested.whole
      pure (some ())
    else
      let _ ← Phrase.needOneOf Modification.fileFormats
      pure (some ())
  else if ← Phrase.keyword "LOCATION" then
    let _ ← Phrase.textValue
    pure (some ())
  else if ← Phrase.keywords ["WITH", "SERDEPROPERTIES"] then
    let _ ← Column.namedOptions nested
    pure (some ())
  else pure none

/-- Takes a word behind an equals sign. -/
def assignedWord : TokenParser Unit := do
  Phrase.needSign "="
  match ← Parser.next with
  | .word _ _ => pure ()
  | _ => Parser.fail

/-- The program that stores a new table, with its parameters. -/
def engine : TokenParser Unit := do
  assignedWord
  if ← Phrase.isSignNext "(" then
    Phrase.needSign "("
    let _ ← Phrase.listUntil ")" Phrase.name

/-- The order of the rows of a new table. -/
def tableOrder (nested : Nested) : TokenParser Unit := do
  if ← Phrase.sign "(" then
    let _ ← Phrase.listUntil ")" nested.whole
  else
    let _ ← nested.whole

/-- What happens to the rows of a temporary table at the end of a transaction. -/
def afterCommit : TokenParser Unit := do
  match ← Phrase.needOneOf ["DELETE", "PRESERVE", "DROP"] with
  | "DROP" => pure ()
  | _ => Phrase.needKeyword "ROWS"

/-- The properties of a new table between its columns and its rows. -/
def tableProperties (nested : Nested) : TokenParser Unit := do
  let _ ← Phrase.keywords ["WITHOUT", "ROWID"]
  partitioning nested
  buckets nested
  let _ ← Parser.many (storage nested)
  optionsAfter nested "WITH"
  optionsAfter nested "TBLPROPERTIES"
  let _ ← Phrase.after "ENGINE" engine
  let _ ← Phrase.after "AUTO_INCREMENT" (Phrase.sign "=" *> Phrase.count)
  let _ ← Phrase.afterAll ["PRIMARY", "KEY"] nested.whole
  let _ ← Phrase.afterAll ["ORDER", "BY"] (tableOrder nested)
  let _ ← Phrase.afterAll ["PARTITION", "BY"] nested.whole
  let _ ← Phrase.afterAll ["CLUSTER", "BY"] (Phrase.list Phrase.name)
  optionsAfter nested "OPTIONS"
  let _ ← Phrase.afterAll ["DEFAULT", "CHARSET"] assignedWord
  let _ ← Phrase.after "COLLATE" assignedWord
  let _ ← Phrase.afterAll ["ON", "COMMIT"] afterCommit
  let _ ← Phrase.keyword "STRICT"
  comment

/-- A new table, after its keywords. -/
def table (nested : Nested) : TokenParser Unit := do
  ifNotExists
  let _ ← Phrase.path
  onCluster
  if (← Phrase.oneOf ["LIKE", "ILIKE"]).isSome then
    Phrase.pathOrToken
  let _ ← Phrase.after "CLONE" Phrase.pathOrToken
  tableElements nested
  tableProperties nested
  let _ ← Phrase.after "AS" nested.query

/-- A table in files, after its first keyword. -/
def externalTable (nested : Nested) : TokenParser Unit := do
  Phrase.needKeyword "TABLE"
  ifNotExists
  let _ ← Phrase.path
  tableElements nested
  partitioning nested
  let _ ← Parser.many (storage nested)
  optionsAfter nested "TBLPROPERTIES"

/-- A table that a module provides, after its first keyword. -/
def virtualTable : TokenParser Unit := do
  Phrase.needKeyword "TABLE"
  ifNotExists
  let _ ← Phrase.path
  Phrase.needKeyword "USING"
  let _ ← Phrase.name
  let _ ← Column.optionalNames

/-! ## Views and indexes -/

/-- A column of a new view. -/
def viewColumn (nested : Nested) : TokenParser Unit := do
  let _ ← Phrase.name
  if ← Phrase.isNext ["OPTIONS", "COMMENT"] then
    let _ ← Column.rule nested

/-- A new view, after its keywords. -/
def view (nested : Nested) : TokenParser Unit := do
  ifNotExists
  let _ ← Phrase.path
  if ← Phrase.sign "(" then
    let _ ← Phrase.listUntil ")" (viewColumn nested)
  optionsAfter nested "WITH"
  let _ ← Phrase.afterAll ["CLUSTER", "BY"] Column.optionalNames
  optionsAfter nested "OPTIONS"
  let _ ← Phrase.after "TO" Phrase.path
  let _ ← Phrase.after "COMMENT" (Phrase.needSign "=" *> Column.plainText)
  Phrase.needKeyword "AS"
  let _ ← nested.query
  let _ ← Phrase.keywords ["WITH", "NO", "SCHEMA", "BINDING"]

/-- The name of a new index and the keyword in front of its table. -/
def indexTarget : TokenParser Unit := do
  if ← Phrase.keywords ["IF", "NOT", "EXISTS"] then
    let _ ← Phrase.path
    Phrase.needKeyword "ON"
  else if !(← Phrase.keyword "ON") then
    let _ ← Phrase.path
    Phrase.needKeyword "ON"

/-- A new index, after its keywords. -/
def index (nested : Nested) : TokenParser Unit := do
  let _ ← Phrase.keyword "CONCURRENTLY"
  indexTarget
  let _ ← Phrase.path
  let _ ← Phrase.after "USING" Phrase.name
  let _ ← Phrase.inParens (Phrase.list (Term.orderItem nested))
  let _ ← Phrase.after "INCLUDE" Phrase.nameList
  let _ ← Phrase.after "NULLS" (Phrase.keyword "NOT" *> Phrase.needKeyword "DISTINCT")
  let _ ← Phrase.after "WITH" (Phrase.inParens nested.terms)
  let _ ← Phrase.after "WHERE" nested.whole

/-! ## Functions -/

/-- A parameter of a function: a type that may follow a direction and a name. -/
def parameter (nested : Nested) : TokenParser Unit := do
  let _ ← Phrase.oneOf ["IN", "OUT", "INOUT"]
  let first ← TypeName.parser nested
  if first.closesOuter then Parser.fail
  if first.kind == .custom then
    let _ ← TypeName.spelled nested
  let announced ← Phrase.keyword "DEFAULT"
  let assigned ← if announced then pure true else Phrase.sign "="
  if assigned then
    let _ ← nested.whole

/-- The parameters of a function in parentheses. -/
def parameters (nested : Nested) : TokenParser Unit := do
  Phrase.needSign "("
  let _ ← Phrase.listUntil ")" (parameter nested)

/-- The name of a function with its parameters, which can be left out. -/
def functionName (nested : Nested) : TokenParser Unit := do
  let _ ← Phrase.path
  if ← Phrase.isSignNext "(" then parameters nested

/-- The text of a function. -/
def functionText : TokenParser Unit := do
  match ← Parser.peek? with
  | some (.markedText (.dollar _) _) =>
      let _ ← Parser.next
  | _ =>
      let _ ← Phrase.textValue

/-- The statements on a new function, by what they are about. -/
def functionClause (nested : Nested) : TokenParser (Option String) := do
  if ← Phrase.keywords ["RETURNS", "NULL", "ON", "NULL", "INPUT"] then pure (some "NULL")
  else if ← Phrase.keywords ["CALLED", "ON", "NULL", "INPUT"] then pure (some "NULL")
  else
    match ← Phrase.oneOf ["AS", "LANGUAGE", "IMMUTABLE", "STABLE", "VOLATILE", "STRICT", "PARALLEL",
        "RETURN"] with
    | some "AS" => functionText *> pure (some "BODY")
    | some "LANGUAGE" => Phrase.name *> pure (some "LANGUAGE")
    | some "STRICT" => pure (some "NULL")
    | some "PARALLEL" =>
        Phrase.needOneOf ["UNSAFE", "RESTRICTED", "SAFE"] *> pure (some "PARALLEL")
    | some "RETURN" => nested.whole *> pure (some "BODY")
    | some _ => pure (some "BEHAVIOR")
    | none => pure none

/-- The statements on a new function, of which there is at most one about anything. -/
def functionClauses (nested : Nested) : TokenParser Unit := do
  let topics ← Parser.many (functionClause nested)
  if topics.eraseDups.length == topics.length then pure () else Parser.fail

/-- A new function, after its keyword. -/
def function (nested : Nested) : TokenParser Unit := do
  let _ ← Phrase.path
  parameters nested
  let _ ← Phrase.after "RETURNS" (TypeName.spelled nested)
  functionClauses nested

/-- A parameter of a macro. -/
def macroParameter (nested : Nested) : TokenParser Unit := do
  let _ ← Phrase.name
  let assigned ← Phrase.sign ":="
  let pointed ← if assigned then pure true else Phrase.sign "=>"
  if pointed then
    let _ ← nested.whole

/-- A new macro, after its keyword. -/
def macroDefinition (nested : Nested) : TokenParser Unit := do
  let _ ← Phrase.path
  Phrase.needSign "("
  let _ ← Phrase.listUntil ")" (macroParameter nested)
  Phrase.needKeyword "AS"
  if ← Phrase.keyword "TABLE" then
    let _ ← nested.query
  else
    let _ ← nested.whole

/-! ## Triggers and policies -/

/-- A change that starts a trigger. -/
def triggerEvent : TokenParser Unit := do
  match ← Phrase.needOneOf ["INSERT", "UPDATE", "DELETE", "TRUNCATE"] with
  | "UPDATE" =>
      let _ ← Phrase.after "OF" (Phrase.list Phrase.name)
  | _ => pure ()

/-- A name for the changed rows, if one comes next. -/
def changedRows : TokenParser (Option Unit) := do
  let oldRows ← Phrase.keywords ["OLD", "TABLE"]
  let newRows ← if oldRows then pure true else Phrase.keywords ["NEW", "TABLE"]
  if newRows then
    let _ ← Phrase.keyword "AS"
    let _ ← Phrase.path
    pure (some ())
  else pure none

/-- A new trigger, after its keyword. -/
def trigger (nested : Nested) : TokenParser Unit := do
  let _ ← Phrase.path
  if (← Phrase.needOneOf ["BEFORE", "AFTER", "INSTEAD"]) == "INSTEAD" then
    Phrase.needKeyword "OF"
  let _ ← Parser.separatedBy (Phrase.keyword "OR") triggerEvent
  Phrase.needKeyword "ON"
  let _ ← Phrase.path
  let _ ← Phrase.after "FROM" Phrase.path
  let _ ← Column.Checking.parser
  let _ ← Phrase.after "REFERENCING" (Parser.many changedRows)
  Phrase.needKeyword "FOR"
  let _ ← Phrase.keyword "EACH"
  let _ ← Phrase.needOneOf ["ROW", "STATEMENT"]
  let _ ← Phrase.after "WHEN" nested.whole
  Phrase.needKeyword "EXECUTE"
  let _ ← Phrase.needOneOf ["FUNCTION", "PROCEDURE"]
  functionName nested

/-- What a policy lets users do: whom it holds for and which rows they see and write. -/
def policyTerms (nested : Nested) : TokenParser Unit := do
  let _ ← Phrase.after "TO" (Phrase.list owner)
  let _ ← Phrase.after "USING" nested.enclosed
  let _ ← Phrase.afterAll ["WITH", "CHECK"] nested.enclosed

/-- A new policy, after its keyword. -/
def policy (nested : Nested) : TokenParser Unit := do
  let _ ← Phrase.name
  Phrase.needKeyword "ON"
  let _ ← Phrase.path
  let _ ← Phrase.after "AS" (Phrase.needOneOf ["PERMISSIVE", "RESTRICTIVE"])
  let _ ← Phrase.after "FOR" (Phrase.needOneOf ["ALL", "SELECT", "INSERT", "UPDATE", "DELETE"])
  policyTerms nested

/-! ## Other objects -/

/-- A new schema, after its keyword. -/
def schema : TokenParser Unit := do
  ifNotExists
  if ← Phrase.keyword "AUTHORIZATION" then
    let _ ← Phrase.name
  else
    let _ ← Phrase.path
    let _ ← Phrase.after "AUTHORIZATION" Phrase.name

/-- A new database, after its keyword. -/
def database : TokenParser Unit := do
  ifNotExists
  let _ ← Phrase.path
  let _ ← Parser.many (do
    match ← Phrase.oneOf ["LOCATION", "MANAGEDLOCATION"] with
    | some _ => some <$> Phrase.textValue
    | none => pure none)

/-- New roles, after their keyword. -/
def role : TokenParser Unit := do
  ifNotExists
  let _ ← Phrase.list Phrase.path
  let _ ← Phrase.keyword "WITH"

/-- A new sequence of numbers, after its keyword. -/
def sequence (nested : Nested) : TokenParser Unit := do
  ifNotExists
  let _ ← Phrase.path
  let _ ← Phrase.after "AS" (TypeName.spelled nested)
  let _ ← Column.sequenceOptions
  let _ ← Phrase.afterAll ["OWNED", "BY"] Phrase.path

/-- A member of a new type. -/
def typeMember (nested : Nested) : TokenParser Unit := do
  let _ ← Phrase.name
  let _ ← TypeName.spelled nested
  let _ ← Phrase.after "COLLATE" Phrase.path

/-- A new type, after its keyword. -/
def type (nested : Nested) : TokenParser Unit := do
  let _ ← Phrase.path
  Phrase.needKeyword "AS"
  if ← Phrase.sign "(" then
    if !(← Phrase.sign ")") then
      let _ ← typeMember nested
      let _ ← Parser.many (do
        let comma ← Phrase.sign ","
        if ← Phrase.isSignNext ")" then pure none
        else if comma then some <$> typeMember nested
        else Parser.fail)
      Phrase.needSign ")"

/-- A new secret, after its keyword. -/
def secret : TokenParser Unit := do
  ifNotExists
  if !(← Phrase.isSignNext "(") then
    let announced ← Phrase.keyword "IN"
    let named ← Phrase.nameOrToken
    if ← Parser.provided (!(announced && named)) (Phrase.keyword "IN") then
      let _ ← Phrase.nameOrToken
  Phrase.needSign "("
  Phrase.needKeyword "TYPE"
  let _ ← Phrase.name
  if ← Phrase.sign "," then
    let _ ← Phrase.list (Phrase.name *> Phrase.name)
  Phrase.needSign ")"

/-- A new extension, after its keyword. -/
def extension : TokenParser Unit := do
  ifNotExists
  let _ ← Phrase.name
  if ← Phrase.keyword "WITH" then
    let _ ← Phrase.after "SCHEMA" Phrase.name
    let _ ← Phrase.after "VERSION" Phrase.name
    let _ ← Phrase.keyword "CASCADE"

/-- A parameter of a procedure, which may be missing, and the comma behind it; nothing at
the closing parenthesis. -/
def procedureParameter (nested : Nested) : TokenParser (Option Unit) := do
  if TypeName.isWord (← Parser.peek?) then
    let _ ← Phrase.name
    let _ ← TypeName.spelled nested
  let comma ← Phrase.sign ","
  if ← Phrase.isSignNext ")" then pure none
  else if comma then pure (some ())
  else Parser.fail

/-- A new procedure, after its keyword; `statements` reads what it does. -/
def procedure (nested : Nested) (statements : TokenParser Unit) : TokenParser Unit := do
  let _ ← Phrase.path
  if ← Phrase.sign "(" then
    if !(← Phrase.sign ")") then
      let _ ← Parser.many (procedureParameter nested)
      Phrase.needSign ")"
  Phrase.needKeywords ["AS", "BEGIN"]
  statements
  Phrase.needKeyword "END"

/-! ## All objects -/

/-- An object that can replace another one, after the keywords in front of its kind: how
messages name its definition. -/
def replaceable (nested : Nested) : TokenParser (Option String) := do
  if ← Phrase.keywords ["CONSTRAINT", "TRIGGER"] then
    trigger nested *> pure (some "CreateTrigger")
  else
    match ← Phrase.oneOf ["TABLE", "MATERIALIZED", "VIEW", "POLICY", "EXTERNAL", "FUNCTION",
        "TRIGGER", "MACRO", "SECRET"] with
    | some "TABLE" => table nested *> pure (some "CreateTable(CreateTable")
    | some "MATERIALIZED" => Phrase.needKeyword "VIEW" *> view nested *> pure (some "CreateView")
    | some "VIEW" => view nested *> pure (some "CreateView")
    | some "POLICY" => policy nested *> pure (some "CreatePolicy")
    | some "EXTERNAL" => externalTable nested *> pure (some "CreateTable(CreateTable")
    | some "FUNCTION" => function nested *> pure (some "CreateFunction")
    | some "TRIGGER" => trigger nested *> pure (some "CreateTrigger")
    | some "MACRO" => macroDefinition nested *> pure (some "CreateMacro")
    | some _ => secret *> pure (some "CreateSecret")
    | none => pure none

/-- Another object, after the keywords in front of its kind: how messages name its
definition. -/
def lasting (nested : Nested) (statements : TokenParser Unit) : TokenParser String := do
  if ← Phrase.keywords ["UNIQUE", "INDEX"] then index nested *> pure "CreateIndex(CreateIndex"
  else
    match ← Phrase.needOneOf ["EXTENSION", "INDEX", "VIRTUAL", "SCHEMA", "DATABASE", "ROLE",
        "SEQUENCE", "TYPE", "PROCEDURE"] with
    | "EXTENSION" => extension *> pure "CreateExtension"
    | "INDEX" => index nested *> pure "CreateIndex(CreateIndex"
    | "VIRTUAL" => virtualTable *> pure "CreateVirtualTable"
    | "SCHEMA" => schema *> pure "CreateSchema"
    | "DATABASE" => database *> pure "CreateDatabase"
    | "ROLE" => role *> pure "CreateRole"
    | "SEQUENCE" => sequence nested *> pure "CreateSequence"
    | "TYPE" => type nested *> pure "CreateType"
    | _ => procedure nested statements *> pure "CreateProcedure"

/-- A new object, after its keyword: how messages name its definition.  `statements` reads
what a procedure does. -/
def parser (nested : Nested) (statements : TokenParser Unit) : TokenParser String := do
  let replaces ← Phrase.keywords ["OR", "REPLACE"]
  let _ ← Phrase.keywords ["OR", "ALTER"]
  let _ ← Phrase.keyword "LOCAL"
  let _ ← Phrase.keyword "GLOBAL"
  let _ ← Phrase.keyword "TRANSIENT"
  let _ ← Phrase.oneOf ["TEMP", "TEMPORARY"]
  match ← replaceable nested with
  | some label => pure label
  | none => if replaces then Parser.fail else lasting nested statements

end ScalarSql.Syntax.Definition
