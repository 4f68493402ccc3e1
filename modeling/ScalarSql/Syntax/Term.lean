import ScalarSql.Syntax.SpecialForm

/-!
# Reading terms

Terms are read by precedence: after a first operand, operators that bind tighter than the
surrounding ones are taken together with their right operands.
-/

set_option autoImplicit false

namespace ScalarSql.Syntax

namespace Term

/-! ## First operands -/

/-- A text behind the name of a known type, or an interval. -/
def typedText (nested : Nested) (value : TokenParser Term) : TokenParser Term := do
  let type ← TypeName.parser nested
  if type.closesOuter then Parser.fail
  else
    match type.kind with
    | .interval => interval value
    | .custom => Parser.fail
    | .known =>
        let text ← Phrase.textValue
        pure (.other (type.spelling ++ " " ++ quotedText '\'' text))

/-- What stands between parentheses: a query, one term, or several. -/
def parenthesized (nested : Nested) : TokenParser Term := do
  if ← Nested.startsQuery then
    let query ← nested.query
    pure (.subquery query.spelling)
  else
    let terms ← nested.terms
    match terms with
    | [term] => pure (.nested term)
    | several => pure (.other ("(" ++ listText several ++ ")"))

/-- A term in parentheses after the opening one; a point behind them accesses a member. -/
def afterParen (nested : Nested) : TokenParser Term := do
  let inner ← parenthesized nested
  Phrase.needSign ")"
  if ← Phrase.sign "." then
    match ← Parser.next with
    | .word text quote => pure (.other (inner.text ++ "." ++ Name.spelling { text, quote }))
    | _ => Parser.fail
  else pure inner

/-- A term after its first token; `value` reads the value of an interval. -/
def startingWith (nested : Nested) (value : TokenParser Term) (token : Token) :
    TokenParser Term := do
  match token with
  | .word text quote =>
      match token.keyword? with
      | some word => keywordTerm nested value { text, quote } word
      | none => nameTerm nested { text, quote }
  | .sign "[" => arrayItems nested ""
  | .sign "-" => .minus <$> nested.term unaryStrength
  | .sign "+" => .plus <$> nested.term unaryStrength
  | .sign "(" => afterParen nested
  | .sign "\x7b" => dictionary memberKey "" nested
  | .sign ":" => .literal <$> Phrase.namedPlaceholder ":"
  | .sign "@" => .literal <$> Phrase.namedPlaceholder "@"
  | .sign _ => Parser.fail
  | .number text long => pure (.literal (.number text long))
  | .text content => pure (.literal (.text content))
  | .markedText form content => pure (.literal (Phrase.markedLiteral form content))
  | .placeholder text => pure (.literal (Phrase.placeholder text))

/-- The first operand of a term, with at most `fuel` intervals around its value. -/
def operandUpTo (nested : Nested) : Nat → TokenParser Term
  | 0 => Parser.fail
  | fuel + 1 => do
      let value := operandUpTo nested fuel
      match ← Parser.attempt (typedText nested value) with
      | some found => pure found
      | none =>
          let token ← Parser.next
          let term ← startingWith nested value token
          collated term

/-- The first operand of a term. -/
def operand (nested : Nested) : TokenParser Term := fun input =>
  operandUpTo nested (input.length + 1) input

/-! ## What follows an operand -/

/-- A test that is written after `IS`. -/
def isTest (nested : Nested) (left : Term) : TokenParser Term := do
  if ← Phrase.keyword "NULL" then pure (.isNull left)
  else if ← Phrase.keywords ["NOT", "NULL"] then pure (.isNotNull left)
  else
    let negated ← Phrase.keyword "NOT"
    let negation := if negated then "NOT " else ""
    match ← Phrase.oneOf ["TRUE", "FALSE", "UNKNOWN", "DISTINCT"] with
    | none => Parser.fail
    | some "DISTINCT" =>
        Phrase.needKeyword "FROM"
        let right ← nested.whole
        pure (.other (left.text ++ " IS " ++ negation ++ "DISTINCT FROM " ++ right.text))
    | some word => pure (.other (left.text ++ " IS " ++ negation ++ word))

/-- A test for membership, after its keyword. -/
def membership (nested : Nested) (left : Term) (negation : String) : TokenParser Term := do
  if ← Phrase.keyword "UNNEST" then
    let items ← nested.enclosed
    pure (.other (left.text ++ " " ++ negation ++ "IN UNNEST(" ++ items.text ++ ")"))
  else
    Phrase.needSign "("
    let members ← do
      if ← Nested.startsQuery then
        let query ← nested.query
        pure query.spelling
      else
        let terms ← nested.terms
        pure (listText terms)
    Phrase.needSign ")"
    pure (.other (left.text ++ " " ++ negation ++ "IN (" ++ members ++ ")"))

/-- A test for an interval, after its keyword. -/
def between (nested : Nested) (left : Term) (negation : String) : TokenParser Term := do
  let low ← nested.term intervalStrength
  Phrase.needKeyword "AND"
  let high ← nested.term intervalStrength
  pure (.other (left.text ++ " " ++ negation ++ "BETWEEN " ++ low.text ++ " AND " ++ high.text))

/-- The escape character of a pattern, if it is given. -/
def patternEscape : TokenParser String := do
  match ← Phrase.after "ESCAPE" Phrase.textValue with
  | some text => pure (" ESCAPE '" ++ text ++ "'")
  | none => pure ""

/-- A test against a pattern, after its keyword. -/
def pattern (nested : Nested) (left : Term) (negation word : String) (quantified : Bool) :
    TokenParser Term := do
  let any ← if quantified then Phrase.keyword "ANY" else pure false
  let right ← nested.term patternStrength
  let escape ← patternEscape
  pure (.other (left.text ++ " " ++ negation ++ word ++ " " ++ (if any then "ANY " else "")
    ++ right.text ++ escape))

/-- A test against a regular expression, after its keyword. -/
def regex (nested : Nested) (left : Term) (negation word : String) : TokenParser Term := do
  let right ← nested.term patternStrength
  pure (.other (left.text ++ " " ++ negation ++ word ++ " " ++ right.text))

/-- A test that is written as a word and may be negated. -/
def wordTest (nested : Nested) (left : Term) : TokenParser Term := do
  let negated ← Phrase.keyword "NOT"
  let negation := if negated then "NOT " else ""
  let regexp ← Phrase.keyword "REGEXP"
  let rlike ← Phrase.keyword "RLIKE"
  if regexp || rlike then regex nested left negation (if regexp then "REGEXP" else "RLIKE")
  else
    match ← Phrase.oneOf ["IN", "BETWEEN", "LIKE", "ILIKE", "SIMILAR"] with
    | some "IN" => membership nested left negation
    | some "BETWEEN" => between nested left negation
    | some "LIKE" => pattern nested left negation "LIKE" true
    | some "ILIKE" => pattern nested left negation "ILIKE" true
    | some "SIMILAR" =>
        Phrase.needKeyword "TO"
        pattern nested left negation "SIMILAR TO" false
    | _ => Parser.fail

/-- The signs that compare with all or some of several values. -/
def quantifiedSigns : List String := ["=", "<>", "<", "<=", ">", ">="]

/-- What a value is compared with, in its parentheses.  After a query in parentheses the
term may go on. -/
def quantifiedRight (nested : Nested) (strength : Nat) : TokenParser Term := do
  let second := (← Parser.peekAfter? 1).bind Token.keyword?
  let opens ← Phrase.isSignNext "("
  if opens && (second == some "SELECT" || second == some "WITH") then nested.term strength
  else Phrase.inParens (nested.term strength)

/-- A comparison with all or some of several values, after the keyword. -/
def quantified (nested : Nested) (left : Term) (sign : BinarySign) (word : String)
    (strength : Nat) : TokenParser Term := do
  let right ← quantifiedRight nested strength
  let shownRight := match right with
    | .subquery _ => right.text
    | _ => "(" ++ right.text ++ ")"
  if quantifiedSigns.contains sign.spelling then
    pure (.other (left.text ++ " " ++ sign.spelling ++ " " ++ word ++ shownRight))
  else Parser.fail

/-- The end of a range in brackets, after its colon and up to the closing bracket: the
upper bound and the step, each of which can be left out. -/
def rangeEnd (nested : Nested) : TokenParser String := do
  if ← Phrase.sign "]" then pure ""
  else
    let high ← nested.whole
    if ← Phrase.sign "]" then pure high.text
    else
      Phrase.needSign ":"
      if ← Phrase.sign "]" then pure high.text
      else
        let step ← nested.whole
        Phrase.needSign "]"
        pure (high.text ++ ":" ++ step.text)

/-- What stands in brackets behind an operand, after the opening one. -/
def subscript (nested : Nested) (left : Term) : TokenParser Term := do
  if ← Phrase.sign ":" then
    let stop ← rangeEnd nested
    pure (.other (left.text ++ "[:" ++ stop ++ "]"))
  else
    let index ← nested.whole
    if ← Phrase.sign "]" then pure (.other (left.text ++ "[" ++ index.text ++ "]"))
    else
      Phrase.needSign ":"
      let stop ← rangeEnd nested
      pure (.other (left.text ++ "[" ++ index.text ++ ":" ++ stop ++ "]"))

/-- A term that continues an operand, from the operator on. -/
def continuation (nested : Nested) (left : Term) (strength : Nat) : TokenParser Term := do
  let next ← Parser.peek?
  if next == some (.sign "::") then
    Phrase.needSign "::"
    let target ← TypeName.spelled nested
    pure (.cast .colons left target "")
  else if next == some (.sign "[") then
    Phrase.needSign "["
    subscript nested left
  else if next == some (.sign "!") then
    Phrase.needSign "!"
    pure (.factorial left)
  else
    match next.bind Token.keyword? with
    | some "IS" =>
        Phrase.needKeyword "IS"
        isTest nested left
    | some "AT" =>
        Phrase.needKeywords ["AT", "TIME", "ZONE"]
        let zone ← nested.term strength
        pure (.other (left.text ++ " AT TIME ZONE " ++ zone.text))
    | some word =>
        if ["NOT", "IN", "BETWEEN"].contains word || patternWords.contains word then
          wordTest nested left
        else operation nested left strength
    | none => operation nested left strength
where
  /-- A binary operator and its right operand. -/
  operation (nested : Nested) (left : Term) (strength : Nat) : TokenParser Term := do
    match ← binaryOperator (← Parser.next) with
    | none => Parser.fail
    | some sign =>
        match ← Phrase.oneOf ["ANY", "ALL", "SOME"] with
        | some word => quantified nested left sign word strength
        | none => .binary left sign <$> nested.term strength

/-- A term whose operators bind tighter than the given strength. -/
def parser (nested : Nested) (strength : Nat) : TokenParser Term := do
  let first ← operand nested
  Parser.iterate (fun left => do
    let next ← nextStrength
    if next ≤ strength then pure none
    else some <$> continuation nested left next) first

end Term

end ScalarSql.Syntax
