import ScalarSql.Syntax.Phrase

/-!
# Columns of new tables

A column is defined by its name, its type and the rules that its values obey.  Types have
columns too, so the parser for types is a parameter here.
-/

set_option autoImplicit false

namespace ScalarSql.Syntax.Column

/-! ## When a rule is checked -/

/-- When a rule is checked, as far as it was said. -/
structure Checking where
  deferrable : Option Bool
  initially : Option String
  enforced : Option Bool

namespace Checking

/-- What a flag says about a word. -/
def flagText (word : String) (flag : Bool) : String :=
  if flag then " " ++ word else " NOT " ++ word

/-- The spelling of a statement when a rule is checked. -/
def text (checking : Checking) : String :=
  checking.deferrable.elim "" (flagText "DEFERRABLE")
    ++ checking.initially.elim "" (" INITIALLY " ++ ·)
    ++ checking.enforced.elim "" (flagText "ENFORCED")

/-- One more statement when a rule is checked, if it comes next. -/
def step (checking : Checking) : TokenParser (Option Checking) := do
  if ← Parser.provided checking.deferrable.isNone (Phrase.keywords ["NOT", "DEFERRABLE"]) then
    pure (some { checking with deferrable := some false })
  else if ← Parser.provided checking.deferrable.isNone (Phrase.keyword "DEFERRABLE") then
    pure (some { checking with deferrable := some true })
  else if ← Parser.provided checking.initially.isNone (Phrase.keyword "INITIALLY") then
    let time ← Phrase.needOneOf ["DEFERRED", "IMMEDIATE"]
    pure (some { checking with initially := some time })
  else if ← Parser.provided checking.enforced.isNone (Phrase.keyword "ENFORCED") then
    pure (some { checking with enforced := some true })
  else if ← Parser.provided checking.enforced.isNone (Phrase.keywords ["NOT", "ENFORCED"]) then
    pure (some { checking with enforced := some false })
  else pure none

/-- When a rule is checked. -/
def parser : TokenParser String :=
  text <$> Parser.iterate step { deferrable := none, initially := none, enforced := none }

end Checking

/-! ## References to other tables -/

/-- What happens to a row whose reference is lost. -/
def referenceAction : TokenParser String := do
  match ← Phrase.needOneOf ["RESTRICT", "CASCADE", "SET", "NO"] with
  | "SET" =>
      let value ← Phrase.needOneOf ["NULL", "DEFAULT"]
      pure ("SET " ++ value)
  | "NO" => Phrase.needKeyword "ACTION" *> pure "NO ACTION"
  | word => pure word

/-- What happens when the row that is referred to is removed or changed. -/
structure ReferenceActions where
  onDelete : Option String
  onUpdate : Option String

namespace ReferenceActions

/-- One more action, if it comes next. -/
def step (actions : ReferenceActions) : TokenParser (Option ReferenceActions) := do
  if ← Parser.provided actions.onDelete.isNone (Phrase.keywords ["ON", "DELETE"]) then
    let action ← referenceAction
    pure (some { actions with onDelete := some action })
  else if ← Parser.provided actions.onUpdate.isNone (Phrase.keywords ["ON", "UPDATE"]) then
    let action ← referenceAction
    pure (some { actions with onUpdate := some action })
  else pure none

/-- The actions of a reference. -/
def parser : TokenParser String := do
  let actions ← Parser.iterate step { onDelete := none, onUpdate := none }
  pure (actions.onDelete.elim "" (" ON DELETE " ++ ·)
    ++ actions.onUpdate.elim "" (" ON UPDATE " ++ ·))

end ReferenceActions

/-- Names in parentheses, if they come next. -/
def optionalNames : TokenParser String := do
  if ← Phrase.isSignNext "(" then
    let names ← Phrase.nameList
    pure (" " ++ Phrase.nameListText names)
  else pure ""

/-- A reference to a row of another table, after its keyword. -/
def reference : TokenParser String := do
  let table ← Phrase.path
  let columns ← optionalNames
  let actions ← ReferenceActions.parser
  let checking ← Checking.parser
  pure ("REFERENCES " ++ Name.pathSpelling table ++ columns ++ actions ++ checking)

/-! ## Generated values -/

/-- A bound of a sequence, if it comes next. -/
def sequenceBound (word : String) : TokenParser String := do
  if ← Phrase.keyword word then
    let bound ← Phrase.signedNumber
    pure (" " ++ word ++ " " ++ bound)
  else if ← Phrase.keywords ["NO", word] then pure (" NO " ++ word)
  else pure ""

/-- A number of a sequence behind a keyword and an optional second one. -/
def sequenceNumber (word second : String) : TokenParser String := do
  if ← Phrase.keyword word then
    let longer ← Phrase.keyword second
    let number ← Phrase.signedNumber
    pure (" " ++ word ++ (if longer then " " ++ second else "") ++ " " ++ number)
  else pure ""

/-- The options of a sequence of numbers. -/
def sequenceOptions : TokenParser String := do
  let increment ← sequenceNumber "INCREMENT" "BY"
  let low ← sequenceBound "MINVALUE"
  let high ← sequenceBound "MAXVALUE"
  let start ← sequenceNumber "START" "WITH"
  let cache ← do
    if ← Phrase.keyword "CACHE" then
      let number ← Phrase.signedNumber
      pure (" CACHE " ++ number)
    else pure ""
  let cycle ← do
    if ← Phrase.keywords ["NO", "CYCLE"] then pure " NO CYCLE"
    else if ← Phrase.keyword "CYCLE" then pure " CYCLE"
    else pure ""
  pure (increment ++ low ++ high ++ start ++ cache ++ cycle)

/-- A number that a sequence generates, after its keywords. -/
def identity (mode : String) : TokenParser String := do
  let options ← do
    if ← Phrase.sign "(" then
      let options ← sequenceOptions
      Phrase.needSign ")"
      pure options
    else pure ""
  pure ("GENERATED " ++ mode ++ " AS IDENTITY"
    ++ (if options == "" then "" else " (" ++ options ++ " )"))

/-- A value that is computed from other columns, after its keywords. -/
def computed (nested : Nested) (before : String) : TokenParser String := do
  let term ← nested.enclosed
  let storage := (← Phrase.oneOf ["STORED", "VIRTUAL"]).elim "" (" " ++ ·)
  pure (before ++ " (" ++ term.text ++ ")" ++ storage)

/-- A generated value, after the first keyword; without a known continuation it is no
rule. -/
def generated (nested : Nested) : TokenParser (Option String) := do
  if ← Phrase.keywords ["ALWAYS", "AS", "IDENTITY"] then some <$> identity "ALWAYS"
  else if ← Phrase.keywords ["BY", "DEFAULT", "AS", "IDENTITY"] then some <$> identity "BY DEFAULT"
  else if ← Phrase.keywords ["ALWAYS", "AS"] then
    if ← Phrase.isSignNext "(" then some <$> computed nested "GENERATED ALWAYS AS"
    else pure none
  else pure none

/-- The start and the step of a numbering in parentheses, if they come next. -/
def numbering : TokenParser String := do
  if ← Phrase.sign "(" then
    let start ← Phrase.signedNumber
    Phrase.needSign ","
    let step ← Phrase.signedNumber
    Phrase.needSign ")"
    pure ("IDENTITY(" ++ start ++ ", " ++ step ++ ")")
  else pure "IDENTITY"

/-! ## Rules -/

/-- A column that the rows of a table are ordered by. -/
def orderedName : TokenParser String := do
  let name ← Phrase.name
  let direction := (← Phrase.oneOf ["ASC", "DESC"]).elim "" (" " ++ ·)
  pure (name.spelling ++ direction)

/-- The order that the rows of a table are stored in, after its first keyword. -/
def clustering : TokenParser String := do
  if ← Phrase.keywords ["COLUMNSTORE", "INDEX", "ORDER"] then
    let names ← Phrase.nameList
    pure ("CLUSTERED COLUMNSTORE INDEX ORDER " ++ Phrase.nameListText names)
  else if ← Phrase.keywords ["COLUMNSTORE", "INDEX"] then pure "CLUSTERED COLUMNSTORE INDEX"
  else
    Phrase.needKeyword "INDEX"
    let columns ← Phrase.inParens (Phrase.list orderedName)
    pure ("CLUSTERED INDEX (" ++ ", ".intercalate columns ++ ")")

/-- The column and the bounds of the partitions of a table, after its first keyword. -/
def partitioning (nested : Nested) : TokenParser String :=
  Phrase.inParens (do
    let column ← Phrase.name
    Phrase.needKeyword "RANGE"
    let side := (← Phrase.oneOf ["LEFT", "RIGHT"]).elim "" (" " ++ ·)
    Phrase.needKeywords ["FOR", "VALUES"]
    let bounds ← Phrase.inParens nested.terms
    pure ("PARTITION (" ++ column.spelling ++ " RANGE" ++ side ++ " FOR VALUES ("
      ++ Term.listText bounds ++ "))"))

/-- An option of a table: the way it is stored, or a name, an equals sign and a term. -/
def namedOption (nested : Nested) : TokenParser String := do
  match ← Phrase.oneOf ["CLUSTERED", "PARTITION"] with
  | some "CLUSTERED" => clustering
  | some _ => partitioning nested
  | none =>
      if ← Phrase.isNext ["HEAP"] then Name.spelling <$> Phrase.name
      else
        let key ← Phrase.name
        Phrase.needSign "="
        let value ← nested.whole
        pure (key.spelling ++ " = " ++ value.text)

/-- Options with names in parentheses; there may be none. -/
def namedOptions (nested : Nested) : TokenParser String := do
  Phrase.needSign "("
  let options ← Phrase.listUntil ")" (namedOption nested)
  pure ("(" ++ ", ".intercalate options ++ ")")

/-- A text in single quotes. -/
def plainText : TokenParser String := do
  match ← Parser.next with
  | .text value => pure value
  | _ => Parser.fail

/-- A term after a keyword. -/
def termRule (nested : Nested) (word : String) : TokenParser (Option String) := do
  let term ← nested.whole
  pure (some (word ++ " " ++ term.text))

/-- The words that start a rule. -/
def ruleWords : List String :=
  ["COMMENT", "NULL", "DEFAULT", "MATERIALIZED", "ALIAS", "EPHEMERAL", "UNIQUE", "REFERENCES",
    "CHECK", "AUTO_INCREMENT", "AUTOINCREMENT", "GENERATED", "OPTIONS", "AS", "IDENTITY",
    "ASC", "DESC"]

/-- A rule after the word that starts it. -/
def ruleAfter (nested : Nested) (word : String) : TokenParser (Option String) := do
  match word with
  | "COMMENT" =>
      let text ← plainText
      pure (some ("COMMENT " ++ quotedText '\'' text))
  | "EPHEMERAL" =>
      let comma ← Phrase.isSignNext ","
      let closing ← Phrase.isSignNext ")"
      if comma || closing then pure (some "EPHEMERAL") else termRule nested "EPHEMERAL"
  | "UNIQUE" =>
      let checking ← Checking.parser
      pure (some ("UNIQUE" ++ checking))
  | "REFERENCES" => some <$> reference
  | "CHECK" =>
      let term ← nested.enclosed
      pure (some ("CHECK (" ++ term.text ++ ")"))
  | "GENERATED" => generated nested
  | "OPTIONS" =>
      let options ← namedOptions nested
      pure (some ("OPTIONS" ++ options))
  | "AS" => some <$> computed nested "AS"
  | "IDENTITY" => some <$> numbering
  | "DEFAULT" | "MATERIALIZED" | "ALIAS" => termRule nested word
  | _ => pure (some word)

/-- A rule that a column obeys, if one comes next. -/
def rule (nested : Nested) : TokenParser (Option String) := do
  if ← Phrase.keywords ["CHARACTER", "SET"] then
    let charset ← Phrase.path
    pure (some ("CHARACTER SET " ++ Name.pathSpelling charset))
  else if ← Phrase.keywords ["NOT", "NULL"] then pure (some "NOT NULL")
  else if ← Phrase.keywords ["PRIMARY", "KEY"] then
    let checking ← Checking.parser
    pure (some ("PRIMARY KEY" ++ checking))
  else if ← Phrase.keywords ["ON", "UPDATE"] then termRule nested "ON UPDATE"
  else if ← Phrase.keywords ["ON", "CONFLICT"] then
    let action ← Phrase.needOneOf ["ROLLBACK", "ABORT", "FAIL", "IGNORE", "REPLACE"]
    pure (some ("ON CONFLICT " ++ action))
  else
    match ← Phrase.oneOf ruleWords with
    | some word => ruleAfter nested word
    | none => pure none

/-! ## Definitions -/

/-- What was read of a definition behind the type: the collation and the rules. -/
structure Rules where
  collation : Option String
  rules : List String

namespace Rules

/-- The spelling of rules. -/
def text (found : Rules) : String :=
  found.collation.elim "" (" COLLATE " ++ ·) ++ String.join (found.rules.map (" " ++ ·))

/-- A collation, if one comes next. -/
def readCollation : TokenParser (Option String) :=
  Phrase.after "COLLATE" (Name.pathSpelling <$> Phrase.path)

/-- One more rule or another collation, if one comes next. -/
def step (nested : Nested) (found : Rules) : TokenParser (Option Rules) := do
  if ← Phrase.keyword "CONSTRAINT" then
    let name ← Phrase.name
    match ← rule nested with
    | some text =>
        let named := "CONSTRAINT " ++ name.spelling ++ " " ++ text
        pure (some { found with rules := found.rules ++ [named] })
    | none => Parser.fail
  else
    match ← rule nested with
    | some text => pure (some { found with rules := found.rules ++ [text] })
    | none =>
        match ← readCollation with
        | some collation => pure (some { found with collation := some collation })
        | none => pure none

/-- The collation and the rules of a column. -/
def parser (nested : Nested) : TokenParser Rules := do
  let collation ← readCollation
  Parser.iterate (step nested) { collation, rules := [] }

end Rules

/-- A column with its type and its rules, in its spelling. -/
def definition (nested : Nested) (type : TokenParser String) : TokenParser String := do
  let name ← Phrase.name
  let typeText ← type
  let rules ← Rules.parser nested
  pure (name.spelling ++ " " ++ typeText ++ rules.text)

end ScalarSql.Syntax.Column
