import ScalarSql.Syntax.Query

/-!
# Commands

Statements that neither read nor define tables: they manage transactions, privileges,
settings, cursors and prepared statements.  It only matters whether such a statement is
well formed and how messages name it.
-/

set_option autoImplicit false

namespace ScalarSql.Syntax.Command

/-! ## Transactions -/

/-- A property of a transaction, if one comes next. -/
def transactionMode : TokenParser (Option Unit) := do
  if ← Phrase.keywords ["ISOLATION", "LEVEL"] then
    if ← Phrase.keywords ["READ", "UNCOMMITTED"] then pure (some ())
    else if ← Phrase.keywords ["READ", "COMMITTED"] then pure (some ())
    else if ← Phrase.keywords ["REPEATABLE", "READ"] then pure (some ())
    else some <$> Phrase.needKeyword "SERIALIZABLE"
  else if ← Phrase.keywords ["READ", "ONLY"] then pure (some ())
  else if ← Phrase.keywords ["READ", "WRITE"] then pure (some ())
  else pure none

/-- The properties of a transaction; a comma between them can be left out. -/
def transactionModes : TokenParser Unit := do
  let _ ← Parser.iterate (fun required => do
    match ← transactionMode with
    | some _ => some <$> Phrase.sign ","
    | none => if required then Parser.fail else pure none) false

/-- The end of a transaction, after its keyword. -/
def transactionEnd : TokenParser Unit := do
  let _ ← Phrase.oneOf ["TRANSACTION", "WORK"]
  if ← Phrase.keyword "AND" then
    let _ ← Phrase.keyword "NO"
    Phrase.needKeyword "CHAIN"

/-- The start of a transaction, after `BEGIN`. -/
def transactionStart : TokenParser Unit := do
  let _ ← Phrase.oneOf ["DEFERRED", "IMMEDIATE", "EXCLUSIVE"]
  let _ ← Phrase.oneOf ["TRANSACTION", "WORK"]
  transactionModes

/-- The return to an earlier state, after its keyword. -/
def rollback : TokenParser Unit := do
  transactionEnd
  let _ ← Phrase.after "TO" (Phrase.keyword "SAVEPOINT" *> Phrase.name)

/-! ## Privileges -/

/-- Something that a user may do. -/
def privilege : TokenParser Unit := do
  let word ← Phrase.needOneOf ["CONNECT", "CREATE", "DELETE", "EXECUTE", "INSERT", "REFERENCES",
    "SELECT", "TEMPORARY", "TRIGGER", "TRUNCATE", "UPDATE", "USAGE"]
  if ["INSERT", "REFERENCES", "SELECT", "UPDATE"].contains word then
    let _ ← Column.optionalNames

/-- What users may do and with which objects. -/
def privileges : TokenParser Unit := do
  if ← Phrase.keyword "ALL" then
    let _ ← Phrase.keyword "PRIVILEGES"
  else
    let _ ← Phrase.list privilege
  Phrase.needKeyword "ON"
  if !(← Phrase.keywords ["ALL", "TABLES", "IN", "SCHEMA"]) then
    if !(← Phrase.keywords ["ALL", "SEQUENCES", "IN", "SCHEMA"]) then
      let _ ← Phrase.oneOf ["SEQUENCE", "SCHEMA", "TABLE"]
  let _ ← Phrase.list Phrase.path

/-- A grant of privileges, after its keyword. -/
def grant : TokenParser Unit := do
  privileges
  Phrase.needKeyword "TO"
  let _ ← Phrase.list Phrase.name
  let _ ← Phrase.keywords ["WITH", "GRANT", "OPTION"]
  let _ ← Phrase.afterAll ["GRANTED", "BY"] Phrase.name

/-- A withdrawal of privileges, after its keyword. -/
def revocation : TokenParser Unit := do
  privileges
  Phrase.needKeyword "FROM"
  let _ ← Phrase.list Phrase.name
  let _ ← Phrase.afterAll ["GRANTED", "BY"] Phrase.name
  let cascade ← Phrase.keyword "CASCADE"
  let restrict ← Phrase.keyword "RESTRICT"
  if cascade && restrict then Parser.fail

/-! ## Settings -/

/-- A role that a session takes on, after the keyword. -/
def role : TokenParser Unit := do
  Phrase.needKeyword "ROLE"
  let _ ← Phrase.name

/-- The name of a setting, or several names in parentheses. -/
def settingNames : TokenParser (List Name × Bool) := do
  if ← Phrase.keywords ["TIME", "ZONE"] then
    pure ([{ text := "TIMEZONE", quote := none }], false)
  else if ← Phrase.isSignNext "(" then
    let names ← Phrase.nameList
    pure (names, true)
  else
    let path ← Phrase.path
    pure (path, false)

/-- A value of a setting. -/
def settingValue (nested : Nested) : TokenParser Unit := do
  if ← Nested.startsQuery then
    let _ ← nested.query
  else
    let _ ← nested.whole

/-- The character set of a session, after the keyword: how messages name it. -/
def characterSet : TokenParser String := do
  if ← Phrase.keyword "DEFAULT" then pure "SetNamesDefault"
  else
    let _ ← Phrase.textValue
    let _ ← Phrase.after "COLLATE" Phrase.textValue
    pure "SetNames"

/-- A setting without an equals sign: how messages name it. -/
def specialSetting (nested : Nested) (name : String) (hasScope : Bool) : TokenParser String := do
  if name.map Char.toUpper == "TIMEZONE" then
    let _ ← nested.whole
    pure "SetTimeZone"
  else if name == "CHARACTERISTICS" then
    Phrase.needKeywords ["AS", "TRANSACTION"]
    transactionModes
    pure "SetTransaction"
  else if name == "TRANSACTION" && !hasScope then
    if ← Phrase.keyword "SNAPSHOT" then
      let _ ← Phrase.literal
    else transactionModes
    pure "SetTransaction"
  else Parser.fail

/-- A setting by name or by several names in parentheses: how messages name it. -/
def namedSetting (nested : Nested) (hasScope : Bool) : TokenParser String := do
  let (names, enclosed) ← settingNames
  let spelling := Name.pathSpelling names
  if !enclosed && spelling.map Char.toUpper == "NAMES" then characterSet
  else
    let assigned ← Phrase.sign "="
    let announced ← if assigned then pure true else Phrase.keyword "TO"
    if announced then
      let values := Phrase.list (settingValue nested)
      let _ ← if enclosed then Phrase.inParens values else values
      pure "SetVariable"
    else if enclosed then Parser.fail
    else specialSetting nested spelling hasScope

/-- A change of a setting, after its keyword: how messages name it. -/
def setting (nested : Nested) : TokenParser String := do
  let scope ← Phrase.oneOf ["SESSION", "LOCAL", "HIVEVAR"]
  if scope == some "HIVEVAR" then
    Phrase.needSign ":"
    namedSetting nested true
  else
    match ← Parser.attempt role with
    | some _ => pure "SetRole"
    | none => namedSetting nested scope.isSome

/-- The value of a switch of a file. -/
def switchValue : TokenParser Unit := do
  match ← Parser.peek? with
  | some (.text _) | some (.number _ _) | some (.placeholder _) | some (.sign _)
  | some (.word _ (some _)) =>
      let _ ← Phrase.literal
  | _ => Parser.fail

/-- A switch of a file, after its keyword. -/
def switch : TokenParser Unit := do
  let _ ← Phrase.path
  if ← Phrase.isSignNext "(" then Phrase.inParens switchValue
  else if ← Phrase.sign "=" then switchValue

/-! ## Listings -/

/-- Which objects are listed, if it is said. -/
def listingFilter (nested : Nested) : TokenParser Unit := do
  match ← Phrase.oneOf ["LIKE", "ILIKE", "WHERE"] with
  | some "WHERE" =>
      let _ ← nested.whole
  | some _ =>
      let _ ← Phrase.textValue
  | none =>
      let _ ← Parser.attempt Phrase.textValue

/-- The words behind which the place of the listed objects stands. -/
def placeWords : List String := ["FROM", "IN"]

/-- The columns of a table, after the keyword. -/
def columnListing (nested : Nested) : TokenParser Unit := do
  let _ ← Phrase.needOneOf placeWords
  let _ ← Phrase.path
  if (← Phrase.oneOf placeWords).isSome then
    let _ ← Phrase.name
  listingFilter nested

/-- The tables of a database, after the keyword. -/
def tableListing (nested : Nested) : TokenParser Unit := do
  if (← Phrase.oneOf placeWords).isSome then
    let _ ← Phrase.name
  listingFilter nested

/-- What else can be listed, and how messages name the statement that lists it. -/
def listings : List (String × String) :=
  [("COLLATION", "ShowCollation"), ("VARIABLES", "ShowVariables"), ("STATUS", "ShowStatus"),
    ("DATABASES", "ShowDatabases"), ("SCHEMAS", "ShowSchemas")]

/-- A variable, whose name takes up the rest of the text up to an equals sign, or a listing
of another kind: how messages name it. -/
def otherListing (nested : Nested) : TokenParser String := do
  if ← Phrase.keyword "CREATE" then
    let _ ← Phrase.needOneOf ["TABLE", "TRIGGER", "FUNCTION", "PROCEDURE", "EVENT", "VIEW"]
    let _ ← Phrase.path
    pure "ShowCreate"
  else
    match ← Phrase.oneOf (listings.map Prod.fst) with
    | some word => listingFilter nested *> pure ((listings.lookup word).getD word)
    | none =>
        let _ ← Parser.takeWhile fun token => !token.isSign "="
        pure "ShowVariable"

/-- A request to list objects or to show a variable, after its keyword: how messages name
it. -/
def listing (nested : Nested) : TokenParser String := do
  let extended ← Phrase.keyword "EXTENDED"
  let full ← Phrase.keyword "FULL"
  let _ ← Phrase.keyword "SESSION"
  let _ ← Phrase.keyword "GLOBAL"
  if ← Phrase.keywords ["MATERIALIZED", "VIEWS"] then tableListing nested *> pure "ShowViews"
  else
    match ← Phrase.oneOf ["COLUMNS", "FIELDS", "TABLES", "VIEWS", "FUNCTIONS"] with
    | some "TABLES" => tableListing nested *> pure "ShowTables"
    | some "VIEWS" => tableListing nested *> pure "ShowViews"
    | some "FUNCTIONS" => listingFilter nested *> pure "ShowFunctions"
    | some _ => columnListing nested *> pure "ShowColumns"
    | none => if extended || full then Parser.fail else otherListing nested

/-! ## Cursors -/

/-- A query that is read step by step, after the keyword. -/
def cursor (nested : Nested) : TokenParser Unit := do
  let _ ← Phrase.name
  let _ ← Phrase.keyword "BINARY"
  let _ ← Phrase.oneOf ["INSENSITIVE", "ASENSITIVE"]
  if !(← Phrase.keyword "SCROLL") then
    let _ ← Phrase.keywords ["NO", "SCROLL"]
  Phrase.needKeyword "CURSOR"
  if (← Phrase.oneOf ["WITH", "WITHOUT"]).isSome then Phrase.needKeyword "HOLD"
  Phrase.needKeyword "FOR"
  let _ ← nested.query

/-- A number without a sign, or a placeholder for one. -/
def number : TokenParser Unit := do
  match ← Parser.peek? with
  | some (.number _ _) | some (.placeholder _) | some (.sign ":") | some (.sign "@") =>
      let _ ← Phrase.literal
  | _ => Parser.fail

/-- Which rows of a cursor are read. -/
def direction : TokenParser Unit := do
  match ← Phrase.oneOf ["NEXT", "PRIOR", "FIRST", "LAST", "ABSOLUTE", "RELATIVE", "FORWARD",
      "BACKWARD", "ALL"] with
  | some "ABSOLUTE" | some "RELATIVE" => number
  | some "FORWARD" | some "BACKWARD" => if ← Phrase.keyword "ALL" then pure () else number
  | some _ => pure ()
  | none => number

/-- Rows that are read from a cursor, after the keyword. -/
def fetch : TokenParser Unit := do
  direction
  let _ ← Phrase.needOneOf ["FROM", "IN"]
  let _ ← Phrase.name
  let _ ← Phrase.after "INTO" Phrase.path

/-! ## Calls and prepared statements -/

/-- A call of a procedure, after the keyword. -/
def call (nested : Nested) : TokenParser Unit := do
  let path ← Phrase.path
  if ← Phrase.sign "(" then
    let _ ← Term.callOf nested path

/-- A run of a prepared statement, after the keyword. -/
def execution (nested : Nested) : TokenParser Unit := do
  let _ ← Phrase.path
  if ← Phrase.sign "(" then
    let _ ← Phrase.listUntil ")" nested.whole
  else
    match ← Parser.peek? with
    | none | some (.sign ";") => pure ()
    | some token => if token.isKeyword "USING" then pure () else let _ ← nested.terms
  let _ ← Phrase.after "USING" nested.terms

/-- The name and the types of the parameters of a prepared statement, after the keyword. -/
def preparation (nested : Nested) : TokenParser Unit := do
  let _ ← Phrase.name
  if ← Phrase.isSignNext "(" then
    let _ ← Phrase.inParens (Phrase.list (TypeName.spelled nested))
  Phrase.needKeyword "AS"

/-! ## Storage -/

/-- The logs that can be flushed. -/
def logWords : List String := ["BINARY", "ENGINE", "ERROR", "GENERAL", "RELAY", "SLOW"]

/-- Tables that are flushed, after the keyword.  The token behind them belongs to the
statement. -/
def flushedTables : TokenParser Unit := do
  let _ ← Parser.many (do
    match ← Parser.peek? with
    | some (.word text quote) =>
        if Keyword.isPlainWord (.word text quote) then Phrase.list Phrase.path *> pure (some ())
        else
          match ← Phrase.oneOf ["WITH", "FOR"] with
          | some "WITH" => Phrase.keywords ["READ", "LOCK"] *> pure (some ())
          | some _ => Phrase.keyword "EXPORT" *> pure (some ())
          | none => Parser.next *> pure (some ())
    | _ => pure none)
  let _ ← Parser.accept fun _ => true

/-- What is written to storage at once, after the keyword. -/
def flush : TokenParser Unit := do
  let _ ← Phrase.oneOf ["NO_WRITE_TO_BINLOG", "LOCAL"]
  match ← Phrase.needOneOf (logWords ++ ["HOSTS", "PRIVILEGES", "OPTIMIZER_COSTS", "STATUS",
      "USER_RESOURCES", "LOGS", "TABLES"]) with
  | "TABLES" => flushedTables
  | "RELAY" => do
      Phrase.needKeyword "LOGS"
      let _ ← Phrase.afterAll ["FOR", "CHANNEL"] Phrase.path
  | word => if logWords.contains word then Phrase.needKeyword "LOGS" else pure ()

/-- What is found out about a table, if a clause on that comes next. -/
def analysisClause (nested : Nested) : TokenParser (Option Unit) := do
  match ← Phrase.oneOf ["PARTITION", "FOR", "CACHE", "NOSCAN", "COMPUTE"] with
  | some "PARTITION" => Phrase.inParens nested.terms *> pure (some ())
  | some "FOR" => do
      Phrase.needKeyword "COLUMNS"
      Parser.attempt (Phrase.list Phrase.name) *> pure (some ())
  | some "CACHE" => some <$> Phrase.needKeyword "METADATA"
  | some "COMPUTE" => some <$> Phrase.needKeyword "STATISTICS"
  | some _ => pure (some ())
  | none => pure none

/-- An analysis of a table, after the keyword. -/
def analysis (nested : Nested) : TokenParser Unit := do
  Phrase.needKeyword "TABLE"
  let _ ← Phrase.path
  let _ ← Parser.many (analysisClause nested)

/-- A table that is kept in memory, after the keyword. -/
def caching (nested : Nested) : TokenParser Unit := do
  if !(← Phrase.isNext ["TABLE"]) then
    let _ ← Phrase.path
  Phrase.needKeyword "TABLE"
  let _ ← Phrase.path
  let _ ← Phrase.after "OPTIONS" (Column.namedOptions nested)
  match ← Parser.peek? with
  | none => pure ()
  | some (.word _ _) =>
      let _ ← Phrase.keyword "AS"
      let _ ← nested.query
  | some _ => Parser.fail

/-- A table that is no longer kept in memory, after the keyword. -/
def uncaching : TokenParser Unit := do
  Phrase.needKeyword "TABLE"
  let _ ← Phrase.keywords ["IF", "EXISTS"]
  let _ ← Phrase.path

/-- A query whose rows are written to files, after the keyword. -/
def unloading (nested : Nested) : TokenParser Unit := do
  let _ ← nested.enclosedQuery
  Phrase.needKeyword "TO"
  let _ ← Phrase.name
  let _ ← Phrase.after "WITH" (Column.namedOptions nested)

/-- A table whose files are put in order, after the keyword. -/
def optimization (nested : Nested) : TokenParser Unit := do
  Phrase.needKeyword "TABLE"
  let _ ← Phrase.path
  let _ ← Phrase.afterAll ["ON", "CLUSTER"] Phrase.name
  if ← Phrase.keyword "PARTITION" then
    if ← Phrase.keyword "ID" then
      let _ ← Phrase.name
    else
      let _ ← nested.whole
  let _ ← Phrase.keyword "FINAL"
  if ← Phrase.keyword "DEDUPLICATE" then
    let _ ← Phrase.after "BY" nested.whole

/-- The partitions of a table that are checked. -/
def partitionCheck : TokenParser Unit := do
  let _ ← Phrase.oneOf ["ADD", "DROP", "SYNC"]
  Phrase.needKeyword "PARTITIONS"

/-- A check of the files of a table, after the keyword. -/
def repair : TokenParser Unit := do
  let _ ← Phrase.keyword "REPAIR"
  Phrase.needKeyword "TABLE"
  let _ ← Phrase.path
  let _ ← Parser.attempt partitionCheck

/-- A file that is opened as a database, after the keyword. -/
def attachment (nested : Nested) : TokenParser Unit := do
  let _ ← Phrase.keyword "DATABASE"
  let _ ← nested.whole
  Phrase.needKeyword "AS"
  let _ ← Phrase.name

/-- A database that is closed, after the keyword. -/
def detachment : TokenParser Unit := do
  let _ ← Phrase.keyword "DATABASE"
  let _ ← Phrase.keywords ["IF", "EXISTS"]
  let _ ← Phrase.name

/-- A condition that must hold, after the keyword. -/
def assertion (nested : Nested) : TokenParser Unit := do
  let _ ← nested.whole
  let _ ← Phrase.after "AS" nested.whole

/-- A query or a connection that is ended, after the keyword. -/
def ending : TokenParser Unit := do
  let _ ← Phrase.oneOf ["CONNECTION", "QUERY", "MUTATION"]
  let _ ← Phrase.count

/-! ## All commands -/

/-- A command after its first word: how messages name it, if it is one. -/
def afterWord? (nested : Nested) (word : String) : Option (TokenParser String) :=
  match word with
  | "BEGIN" => some (transactionStart *> pure "StartTransaction")
  | "START" =>
      some (Phrase.needKeyword "TRANSACTION" *> transactionModes *> pure "StartTransaction")
  | "COMMIT" | "END" => some (transactionEnd *> pure "Commit")
  | "ROLLBACK" => some (rollback *> pure "Rollback")
  | "SAVEPOINT" => some (Phrase.name *> pure "Savepoint")
  | "RELEASE" => some (Phrase.keyword "SAVEPOINT" *> Phrase.name *> pure "ReleaseSavepoint")
  | "GRANT" => some (grant *> pure "Grant")
  | "REVOKE" => some (revocation *> pure "Revoke")
  | "SET" => some (setting nested)
  | "PRAGMA" => some (switch *> pure "Pragma")
  | "SHOW" => some (listing nested)
  | "USE" => some (Phrase.path *> pure "Use(Object(ObjectName([Ident")
  | "DECLARE" => some (cursor nested *> pure "Declare")
  | "FETCH" => some (fetch *> pure "Fetch")
  | "CLOSE" => some (Phrase.name *> pure "Close")
  | "CALL" => some (call nested *> pure "Call(Function")
  | "EXECUTE" | "EXEC" => some (execution nested *> pure "Execute")
  | "DEALLOCATE" => some (Phrase.keyword "PREPARE" *> Phrase.name *> pure "Deallocate")
  | "FLUSH" => some (flush *> pure "Flush")
  | "DISCARD" =>
      some (Phrase.needOneOf ["ALL", "PLANS", "SEQUENCES", "TEMP", "TEMPORARY"] *> pure "Discard")
  | "ANALYZE" => some (analysis nested *> pure "Analyze")
  | "CACHE" => some (caching nested *> pure "Cache")
  | "UNCACHE" => some (uncaching *> pure "UNCache")
  | "UNLOAD" => some (unloading nested *> pure "Unload")
  | "OPTIMIZE" => some (optimization nested *> pure "OptimizeTable")
  | "MSCK" => some (repair *> pure "Msck")
  | "ATTACH" => some (attachment nested *> pure "AttachDatabase")
  | "DETACH" => some (detachment *> pure "DetachDuckDBDatabase")
  | "ASSERT" => some (assertion nested *> pure "Assert")
  | "KILL" => some (ending *> pure "Kill")
  | "INSTALL" => some (Phrase.name *> pure "Install")
  | "LOAD" => some (Phrase.name *> pure "Load")
  | _ => none

end ScalarSql.Syntax.Command
