import ScalarSql.Syntax.BinaryOperator
import ScalarSql.Syntax.Call

/-!
# Terms that start with a word

A word at the start of a term is the name of a column or a function, unless it is one of
the keywords with a grammar of their own.
-/

set_option autoImplicit false

namespace ScalarSql.Syntax.Term

/-- One case of a choice. -/
def caseBranch (nested : Nested) : TokenParser String := do
  let condition ← nested.whole
  Phrase.needKeyword "THEN"
  let result ← nested.whole
  pure (" WHEN " ++ condition.text ++ " THEN " ++ result.text)

/-- A choice between cases, after its first keyword. -/
def cases (nested : Nested) : TokenParser Term := do
  let operand ← do
    if ← Phrase.isNext ["WHEN"] then pure none else some <$> nested.whole
  Phrase.needKeyword "WHEN"
  let branches ← Parser.separatedBy (Phrase.keyword "WHEN") (caseBranch nested)
  let otherwise ← Phrase.after "ELSE" nested.whole
  Phrase.needKeyword "END"
  pure (.other ("CASE" ++ operand.elim "" (fun term => " " ++ term.text) ++ String.join branches
    ++ otherwise.elim "" (fun term => " ELSE " ++ term.text) ++ " END"))

/-- The format that a cast reads or writes texts in, if it is given. -/
def castFormat : TokenParser String := do
  if ← Phrase.keyword "FORMAT" then
    let format ← Phrase.literal
    let zone ← Phrase.afterAll ["AT", "TIME", "ZONE"] Phrase.literal
    pure (" FORMAT " ++ format.spelling
      ++ zone.elim "" (fun found => " AT TIME ZONE " ++ found.spelling))
  else pure ""

/-- A cast, after its keyword. -/
def castCall (nested : Nested) (form : CastForm) : TokenParser Term :=
  Phrase.inParens (do
    let operand ← nested.whole
    Phrase.needKeyword "AS"
    let target ← TypeName.spelled nested
    let format ← castFormat
    pure (.cast form operand target format))

/-- A conversion, after its keyword. -/
def convert (nested : Nested) (word : String) : TokenParser Term :=
  Phrase.inParens (do
    let operand ← nested.whole
    if ← Phrase.keyword "USING" then
      let charset ← Phrase.path
      pure (.other (word ++ "(" ++ operand.text ++ " USING " ++ Name.pathSpelling charset ++ ")"))
    else
      Phrase.needSign ","
      let target ← TypeName.spelled nested
      let charset ← Phrase.afterAll ["CHARACTER", "SET"] Phrase.path
      pure (.other (word ++ "(" ++ operand.text ++ ", " ++ target
        ++ charset.elim "" (fun name => " CHARACTER SET " ++ Name.pathSpelling name) ++ ")")))

/-- A test whether a query has rows, after its keyword. -/
def existence (nested : Nested) (negated : Bool) : TokenParser Term := do
  let query ← nested.enclosedQuery
  pure (.other ((if negated then "NOT EXISTS (" else "EXISTS (") ++ query.spelling ++ ")"))

/-- A part of a date, after its keyword. -/
def extract (nested : Nested) : TokenParser Term :=
  Phrase.inParens (do
    let unit ← Phrase.temporalField
    let between ← do
      if ← Phrase.keyword "FROM" then pure " FROM "
      else
        Phrase.needSign ","
        pure ", "
    let operand ← nested.whole
    pure (.other ("EXTRACT(" ++ unit ++ between ++ operand.text ++ ")")))

/-- A number literal. -/
def numberLiteral : TokenParser Literal := do
  match ← Phrase.literal with
  | .number text long => pure (.number text long)
  | _ => Parser.fail

/-- A rounded number or date, after its keyword. -/
def rounding (nested : Nested) (word : String) : TokenParser Term :=
  Phrase.inParens (do
    let operand ← nested.whole
    if ← Phrase.keyword "TO" then
      let unit ← Phrase.temporalField
      pure (.other (word ++ "(" ++ operand.text ++ " TO " ++ unit ++ ")"))
    else if ← Phrase.sign "," then
      let scale ← numberLiteral
      pure (.other (word ++ "(" ++ operand.text ++ ", " ++ scale.spelling ++ ")"))
    else pure (.other (word ++ "(" ++ operand.text ++ ")")))

/-- The position of a text in another one, after its keyword. -/
def position (nested : Nested) : TokenParser Term :=
  Phrase.inParens (do
    let part ← nested.term intervalStrength
    Phrase.needKeyword "IN"
    let whole ← nested.whole
    pure (.other ("POSITION(" ++ part.text ++ " IN " ++ whole.text ++ ")")))

/-- A part of a text, after its keyword. -/
def substring (nested : Nested) : TokenParser Term :=
  Phrase.inParens (do
    let operand ← nested.whole
    let commas ← Phrase.sign ","
    let start ← do
      if commas then some <$> nested.whole else Phrase.after "FROM" nested.whole
    let length ← do
      if ← Phrase.keyword "FOR" then some <$> nested.whole
      else if ← Phrase.sign "," then some <$> nested.whole
      else pure none
    let startMark := if commas then ", " else " FROM "
    let lengthMark := if commas then ", " else " FOR "
    pure (.other ("SUBSTRING(" ++ operand.text
      ++ start.elim "" (fun term => startMark ++ term.text)
      ++ length.elim "" (fun term => lengthMark ++ term.text) ++ ")")))

/-- A text with a part of it replaced, after its keyword. -/
def overlay (nested : Nested) : TokenParser Term :=
  Phrase.inParens (do
    let operand ← nested.whole
    Phrase.needKeyword "PLACING"
    let part ← nested.whole
    Phrase.needKeyword "FROM"
    let start ← nested.whole
    let length ← Phrase.after "FOR" nested.whole
    pure (.other ("OVERLAY(" ++ operand.text ++ " PLACING " ++ part.text ++ " FROM " ++ start.text
      ++ length.elim "" (fun term => " FOR " ++ term.text) ++ ")")))

/-- A trimmed text, after its keyword. -/
def trim (nested : Nested) : TokenParser Term :=
  Phrase.inParens (do
    let side ← Phrase.oneOf ["BOTH", "LEADING", "TRAILING"]
    let sideText := side.elim "" (· ++ " ")
    let first ← nested.whole
    if ← Phrase.keyword "FROM" then
      let operand ← nested.whole
      pure (.other ("TRIM(" ++ sideText ++ first.text ++ " FROM " ++ operand.text ++ ")"))
    else if ← Phrase.sign "," then
      let characters ← nested.terms
      pure (.other ("TRIM(" ++ first.text ++ ", " ++ listText characters ++ ")"))
    else pure (.other ("TRIM(" ++ sideText ++ first.text ++ ")")))

/-- Terms in brackets. -/
def arrayItems (nested : Nested) (word : String) : TokenParser Term := do
  let items ← Phrase.listUntil "]" nested.whole
  pure (.other (word ++ "[" ++ listText items ++ "]"))

/-- How a search understands its text, if it is said. -/
def searchMode : TokenParser String := do
  if ← Phrase.keywords ["IN", "NATURAL", "LANGUAGE", "MODE"] then
    if ← Phrase.keywords ["WITH", "QUERY", "EXPANSION"] then
      pure " IN NATURAL LANGUAGE MODE WITH QUERY EXPANSION"
    else pure " IN NATURAL LANGUAGE MODE"
  else if ← Phrase.keywords ["IN", "BOOLEAN", "MODE"] then pure " IN BOOLEAN MODE"
  else if ← Phrase.keywords ["WITH", "QUERY", "EXPANSION"] then pure " WITH QUERY EXPANSION"
  else pure ""

/-- A search in columns, after its keyword. -/
def search : TokenParser Term := do
  let columns ← Phrase.nameList
  Phrase.needKeyword "AGAINST"
  Phrase.needSign "("
  let value ← Phrase.literal
  let mode ← searchMode
  Phrase.needSign ")"
  pure (.other ("MATCH " ++ Phrase.nameListText columns ++ " AGAINST (" ++ value.spelling ++ mode
    ++ ")"))

/-- A member of a structure literal; it has a name only where the members have no
types. -/
def structMember (nested : Nested) (typed : Bool) : TokenParser String := do
  let value ← nested.whole
  if ← Phrase.keyword "AS" then
    if typed then Parser.fail
    else
      let name ← Phrase.name
      pure (value.text ++ " AS " ++ name.spelling)
  else pure value.text

/-- A structure literal, after its keyword. -/
def structLiteral (nested : Nested) : TokenParser Term := do
  let (fields, closesOuter) ← do
    if ← Phrase.sign "<" then TypeName.structFields (TypeName.parser nested)
    else pure ("", false)
  if closesOuter then Parser.fail
  else
    let members ← Phrase.inParens (Phrase.list (structMember nested (fields != "")))
    pure (.other ("STRUCT" ++ fields ++ "(" ++ ", ".intercalate members ++ ")"))

/-- An entry of a dictionary: a key, a colon and a value. -/
def dictionaryEntry (key : TokenParser String) (nested : Nested) : TokenParser String := do
  let found ← key
  Phrase.needSign ":"
  let value ← nested.whole
  pure (found ++ ": " ++ value.text)

/-- A dictionary after its opening brace. -/
def dictionary (key : TokenParser String) (word : String) (nested : Nested) :
    TokenParser Term := do
  let entries ← Phrase.listUntil "\x7d" (dictionaryEntry key nested)
  pure (.other (word ++ "\x7b" ++ ", ".intercalate entries ++ "\x7d"))

/-- The key of an entry of a map. -/
def mapKey (nested : Nested) : TokenParser String := do
  let key ← nested.whole
  pure key.text

/-- The key of an entry of a structure in braces. -/
def memberKey : TokenParser String := do
  let key ← Phrase.name
  pure key.spelling

/-- A name, a path of names, or a call, after its first word. -/
def nameTerm (nested : Nested) (first : Name) : TokenParser Term := do
  match ← Parser.peek? with
  | some (.sign "(") =>
      Phrase.needSign "("
      callOf nested [first]
  | some (.sign ".") => do
      let rest ← Parser.many (do
        if ← Phrase.sign "." then some <$> Phrase.name else pure none)
      if ← Phrase.sign "(" then callOf nested (first :: rest) else pure (.path first rest)
  | some (.text value) =>
      if first.text.startsWith "_" then
        let _ ← Parser.next
        pure (.other (first.text ++ " " ++ quotedText '\'' value))
      else pure (.identifier first)
  | some (.markedText .hexadecimal value) =>
      if first.text.startsWith "_" then
        let _ ← Parser.next
        pure (.other (first.text ++ " X'" ++ value ++ "'"))
      else pure (.identifier first)
  | _ => pure (.identifier first)

/-- The words that are calls without arguments. -/
def sessionWords : List String := ["CURRENT_CATALOG", "CURRENT_USER", "SESSION_USER", "USER"]

/-- The words for the present time. -/
def clockWords : List String :=
  ["CURRENT_TIMESTAMP", "CURRENT_TIME", "CURRENT_DATE", "LOCALTIME", "LOCALTIMESTAMP"]

/-- A term after its first word, which is a keyword that may start a special form; `value`
reads the value of an interval. -/
def keywordTerm (nested : Nested) (value : TokenParser Term) (name : Name) (word : String) :
    TokenParser Term := do
  if word == "TRUE" then pure (.literal (.boolean true))
  else if word == "FALSE" then pure (.literal (.boolean false))
  else if word == "NULL" then pure (.literal .null)
  else if sessionWords.contains word then
    pure (.call [name] noMarks [])
  else if clockWords.contains word then bareCall nested name
  else if word == "CASE" then cases nested
  else if word == "CONVERT" || word == "TRY_CONVERT" then convert nested word
  else if word == "CAST" then castCall nested .plain
  else if word == "TRY_CAST" then castCall nested .attempt
  else if word == "SAFE_CAST" then castCall nested .safe
  else if word == "EXISTS" then existence nested false
  else if word == "EXTRACT" then extract nested
  else if word == "CEIL" || word == "FLOOR" then rounding nested word
  else if word == "SUBSTRING" then substring nested
  else if word == "OVERLAY" then overlay nested
  else if word == "TRIM" then trim nested
  else if word == "INTERVAL" then interval value
  else if word == "MATCH" then search
  else if word == "STRUCT" then structLiteral nested
  else if word == "NOT" then
    if ← Phrase.keyword "EXISTS" then existence nested true
    else .not <$> nested.term notStrength
  else if word == "PRIOR" && nested.linking then
    let term ← nested.term additionStrength
    pure (.other ("PRIOR " ++ term.text))
  else if word == "POSITION" then
    match ← Parser.attempt (position nested) with
    | some found => pure found
    | none => nameTerm nested name
  else if word == "ARRAY" then
    if ← Phrase.sign "[" then arrayItems nested "ARRAY"
    else if ← Phrase.sign "(" then
      let query ← nested.query
      Phrase.needSign ")"
      pure (.queryCall (name.spelling ++ "(" ++ query.spelling ++ ")"))
    else nameTerm nested name
  else if word == "MAP" then
    if ← Phrase.sign "\x7b" then dictionary (mapKey nested) "MAP " nested
    else nameTerm nested name
  else nameTerm nested name

end ScalarSql.Syntax.Term
