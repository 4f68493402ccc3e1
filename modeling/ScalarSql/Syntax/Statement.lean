import ScalarSql.Error
import ScalarSql.Syntax.Alteration
import ScalarSql.Syntax.Command
import ScalarSql.Syntax.Merging

/-!
# Reading statements

A text holds statements with semicolons between them.  Queries are read in full; of other
statements it only matters whether they are well formed and how messages name them.
`Statement.ofDepth` ties statements to the queries and statements within them: each level
of nesting takes one from a given depth.
-/

set_option autoImplicit false

namespace ScalarSql.Syntax.Statement

/-! ## Explanations -/

/-- How messages name the explanation of a statement. -/
def explained : String := "Explain"

/-- How messages name the description of a table. -/
def described : String := "ExplainTable"

/-- Whether a statement explains another one or describes a table. -/
def isExplanation : Statement → Bool
  | .query _ => false
  | .other label => label == explained || label == described

/-- An option of an explanation. -/
def explanationOption (nested : Nested) : TokenParser Unit := do
  let _ ← Phrase.name
  let comma ← Phrase.isSignNext ","
  let closing ← Phrase.isSignNext ")"
  if !(comma || closing) then
    let _ ← nested.whole

/-- How much an explanation tells, and in which format. -/
def explanationTerms : TokenParser Unit := do
  if !(← Phrase.keywords ["QUERY", "PLAN"]) then
    let _ ← Phrase.keyword "ANALYZE"
    let _ ← Phrase.keyword "VERBOSE"
    let _ ← Phrase.after "FORMAT" (Phrase.needOneOf ["TEXT", "GRAPHVIZ", "JSON"])

/-- An explanation of a statement or a description of a table, after its keyword, which is
`word`: how messages name it.  An explanation cannot be explained in turn. -/
def explanation (nested : Nested) (inner : TokenParser Statement) (word : String) :
    TokenParser String := do
  let opens ← Phrase.isSignNext "("
  if word == "EXPLAIN" && opens then
    let _ ← Phrase.inParens (Phrase.list (explanationOption nested))
  else explanationTerms
  match ← Parser.attempt inner with
  | some statement => if isExplanation statement then Parser.fail else pure explained
  | none =>
      let _ ← Phrase.oneOf ["EXTENDED", "FORMATTED"]
      let _ ← Phrase.path
      pure described

/-! ## Sequences -/

/-- Takes any number of semicolons, and says whether there was one. -/
def semicolons : TokenParser Bool := do
  let found ← Parser.takeWhile (Token.isSign ";")
  pure !found.isEmpty

/-- The next statement, if there is one.  After the first statement one can only follow a
semicolon, and the word `END` ends the sequence instead. -/
def next? (statement : TokenParser Statement) (separated : Bool) :
    TokenParser (Option Statement) := do
  match ← Parser.peek? with
  | none => pure none
  | some token =>
      if separated then some <$> statement
      else if token.isKeyword "END" then pure none
      else Parser.fail

/-- At most `fuel` statements of a sequence; `separated` tells whether one can start
here. -/
def sequenceUpTo (statement : TokenParser Statement) : Nat → Bool →
    TokenParser (List Statement)
  | 0, _ => pure []
  | fuel + 1, separated => do
      let divided ← semicolons
      match ← next? statement (separated || divided) with
      | none => pure []
      | some first =>
          let rest ← sequenceUpTo statement fuel false
          pure (first :: rest)

/-- The statements of a sequence. -/
def sequence (statement : TokenParser Statement) : TokenParser (List Statement) := fun input =>
  sequenceUpTo statement (input.length + 1) true input

/-! ## Statements -/

/-- How messages name an insertion. -/
def insertionLabel : Modification.InsertionKind → String
  | .table => "Insert(Insert"
  | .files => "Directory"

/-- A statement that is no query, after its first word: how messages name it.  `inner`
reads the statements within it. -/
def afterWord (nested : Nested) (inner : TokenParser Statement) (word : String) :
    TokenParser String :=
  match word with
  | "CREATE" => Definition.parser nested (sequence inner *> pure ())
  | "ALTER" => Alteration.parser nested
  | "DROP" => Alteration.removalOfObjects nested
  | "TRUNCATE" => Alteration.truncation nested *> pure "Truncate"
  | "INSERT" | "REPLACE" =>
      (fun found => insertionLabel found.1) <$> Modification.insertion nested
  | "UPDATE" => Modification.update nested *> pure "Update"
  | "DELETE" => Merging.deletion nested *> pure "Delete(Delete"
  | "MERGE" => Merging.merge nested *> pure "Merge"
  | "COPY" => Merging.copy nested *> pure "Copy"
  | "PREPARE" => Command.preparation nested *> inner *> pure "Prepare"
  | "EXPLAIN" | "DESCRIBE" | "DESC" => explanation nested inner word
  | _ => (Command.afterWord? nested word).getD Parser.fail

/-- A statement, given the parsers for what it contains. -/
def parser (nested : Nested) (inner : TokenParser Statement) : TokenParser Statement := do
  let opens ← Phrase.isSignNext "("
  let starts ← Phrase.isNext ["SELECT", "WITH", "VALUES"]
  if opens || starts then .query <$> nested.query
  else
    match (← Parser.next).keyword? with
    | some word => .other <$> afterWord nested inner word
    | none => Parser.fail

/-- A statement that nests at most `depth` levels deep. -/
def ofDepth : Nat → TokenParser Statement
  | 0 => Parser.tooDeep
  | depth + 1 => fun input => parser (Nested.ofDepth depth) (ofDepth depth) input

/-- How many levels deep a statement can nest, itself included. -/
def depthLimit : Nat := 50

/-! ## Texts -/

/-- The statements of a text, or nothing if it is not well formed. -/
def readAll? (sql : String) : Option (List Statement) := do
  let tokens ← Token.scan? sql
  match sequence (ofDepth depthLimit) tokens with
  | .ok (statements, _) => some statements
  | .error _ => none

/-- The statements of a text. -/
def readAll (sql : String) : Except Error (List Statement) :=
  match readAll? sql with
  | some statements => .ok statements
  | none => .error (.parse none sql)

/-- The only statement of a text. -/
def read (sql : String) : Except Error Statement := do
  match ← readAll sql with
  | [statement] => pure statement
  | [] => throw (.parse (some "empty statement") sql)
  | several =>
      throw (.unsupported (Nat.repr several.length ++ " statements in one query")
        "Submit one SELECT statement at a time")

end ScalarSql.Syntax.Statement
