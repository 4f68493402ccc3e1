import ScalarSql.Parser
import ScalarSql.Syntax.Keyword
import ScalarSql.Syntax.Tree
import ScalarSql.Text.Escaped

/-!
# Phrases

The small parts that the grammar of statements is put together from: keywords, signs,
names, literals and lists.
-/

set_option autoImplicit false

namespace ScalarSql.Syntax

/-- Takes a value off the front of a list of tokens. -/
abbrev TokenParser := Parser Token

namespace Phrase

variable {α : Type}

/-! ## Keywords and signs -/

/-- Takes a keyword, if it comes next. -/
def keyword (word : String) : TokenParser Bool := Parser.accept (Token.isKeyword word)

/-- Whether the input starts with the given keywords. -/
def startsWith : List String → List Token → Bool
  | [], _ => true
  | _ :: _, [] => false
  | word :: words, token :: tokens => token.isKeyword word && startsWith words tokens

/-- Takes several keywords, if they all come next. -/
def keywords (words : List String) : TokenParser Bool := fun input =>
  if startsWith words input then .ok (true, input.drop words.length) else .ok (false, input)

/-- Takes a keyword, which must come next. -/
def needKeyword (word : String) : TokenParser Unit := Parser.expect (Token.isKeyword word)

/-- Takes several keywords, which must come next. -/
def needKeywords (words : List String) : TokenParser Unit := do
  if ← keywords words then pure () else Parser.fail

/-- Takes one of the given keywords, if it comes next. -/
def oneOf (words : List String) : TokenParser (Option String) := do
  match (← Parser.peek?).bind Token.keyword? with
  | none => pure none
  | some word =>
      if words.contains word then
        let _ ← Parser.next
        pure (some word)
      else pure none

/-- Takes one of the given keywords, which must come next. -/
def needOneOf (words : List String) : TokenParser String := do
  match ← oneOf words with
  | some word => pure word
  | none => Parser.fail

/-- Whether one of the given keywords comes next. -/
def isNext (words : List String) : TokenParser Bool := do
  match (← Parser.peek?).bind Token.keyword? with
  | none => pure false
  | some word => pure (words.contains word)

/-- Takes a sign, if it comes next. -/
def sign (spelling : String) : TokenParser Bool := Parser.accept (Token.isSign spelling)

/-- Takes a sign, which must come next. -/
def needSign (spelling : String) : TokenParser Unit := Parser.expect (Token.isSign spelling)

/-- Whether a sign comes next. -/
def isSignNext (spelling : String) : TokenParser Bool := do
  match ← Parser.peek? with
  | some token => pure (token.isSign spelling)
  | none => pure false

/-- What a parser finds after a keyword, if the keyword comes next. -/
def after (word : String) (parser : TokenParser α) : TokenParser (Option α) := do
  if ← keyword word then some <$> parser else pure none

/-- What a parser finds after several keywords, if they come next. -/
def afterAll (words : List String) (parser : TokenParser α) : TokenParser (Option α) := do
  if ← keywords words then some <$> parser else pure none

/-! ## Lists -/

/-- One or more parts with commas between them. -/
def list (item : TokenParser α) : TokenParser (List α) := Parser.separatedBy (sign ",") item

/-- A part between parentheses. -/
def inParens (inner : TokenParser α) : TokenParser α := do
  needSign "("
  let found ← inner
  needSign ")"
  pure found

/-- Parts with commas between them up to a closing sign, which is taken; there may be
none. -/
def listUntil (closing : String) (item : TokenParser α) : TokenParser (List α) := do
  if ← sign closing then pure []
  else
    let found ← list item
    needSign closing
    pure found

/-! ## Names -/

/-- The name that a token can be. -/
def nameOf? : Token → Option Name
  | .word text quote => some { text, quote }
  | .text value => some { text := value, quote := some '\'' }
  | _ => none

/-- A name. -/
def name : TokenParser Name := do
  match nameOf? (← Parser.next) with
  | some found => pure found
  | none => Parser.fail

/-- A name with parts joined by points. -/
def path : TokenParser (List Name) := Parser.separatedBy (sign ".") name

/-- Takes the next token, if there is one, and says whether it is a name. -/
def nameOrToken : TokenParser Bool := do
  let token ← Parser.peek?
  let _ ← Parser.accept fun _ => true
  pure (token.bind nameOf?).isSome

/-- Takes a name with parts joined by points; the token that stands in place of a part is
taken as well and ends the name. -/
def pathOrToken : TokenParser Unit := do
  let _ ← Parser.iterate (fun isOver => do
    if isOver then pure none
    else if ← nameOrToken then (some ∘ Bool.not) <$> sign "."
    else pure (some true)) false

/-- Names in parentheses. -/
def nameList : TokenParser (List Name) := inParens (list name)

/-- The spelling of names in parentheses. -/
def nameListText (names : List Name) : String :=
  "(" ++ ", ".intercalate (names.map Name.spelling) ++ ")"

/-- The name given to what stands in front of it, after `AS` or without it.  A reserved
word needs `AS`. -/
def aliasName (reserved : List String) : TokenParser (Option Name) := do
  let announced ← keyword "AS"
  match ← Parser.peek? with
  | none => if announced then Parser.fail else pure none
  | some token =>
      match nameOf? token with
      | none => if announced then Parser.fail else pure none
      | some found =>
          let isReserved := match token.keyword? with
            | some word => reserved.contains word
            | none => false
          if !announced && isReserved then pure none
          else
            let _ ← Parser.next
            pure (some found)

/-! ## Numbers and texts -/

/-- A number without point, exponent or sign, below `2 ^ 64`. -/
def count : TokenParser Nat := do
  match ← Parser.next with
  | .number text _ =>
      match readCount? text.toList with
      | some value => pure value
      | none => Parser.fail
  | _ => Parser.fail

/-- A text; a plain word counts as one. -/
def textValue : TokenParser String := do
  let token ← Parser.next
  match token with
  | .text value => pure value
  | .markedText .escaped value => pure value
  | .markedText .unicode value => pure value
  | .word spelling _ => if Keyword.isPlainWord token then pure spelling else Parser.fail
  | _ => Parser.fail

/-- A literal that messages name by a label and its content. -/
def labelled (label content spelling : String) : Literal :=
  .other (label ++ "(" ++ Text.escaped content ++ ")") spelling

/-- How messages name the texts of a form that stand between quotes. -/
def formLabel : TextForm → String
  | .national => "NationalStringLiteral"
  | .hexadecimal => "HexStringLiteral"
  | .escaped => "EscapedStringLiteral"
  | .unicode => "UnicodeStringLiteral"
  | .bytes quote => quoteLabel quote ++ "ByteStringLiteral"
  | .raw quote threefold =>
      (if threefold then "Triple" else "") ++ quoteLabel quote ++ "RawStringLiteral"
  | .dollar _ => "DollarQuotedString"
where
  /-- How messages name a quote. -/
  quoteLabel (quote : Char) : String :=
    if quote == '"' then "DoubleQuoted" else "SingleQuoted"

/-- The literal for a marked text. -/
def markedLiteral (form : TextForm) (value : String) : Literal :=
  match form with
  | .dollar tag =>
      let shownTag := match tag with
        | none => "None"
        | some text => "Some(" ++ Text.escaped text ++ ")"
      .other (formLabel form ++ "(DollarQuotedString \x7b value: " ++ Text.escaped value
        ++ ", tag: " ++ shownTag ++ " \x7d)") (form.spelling value)
  | _ => labelled (formLabel form) value (form.spelling value)

/-- The literal for a placeholder. -/
def placeholder (text : String) : Literal := labelled "Placeholder" text text

/-- A placeholder after its sign: a name or a number. -/
def namedPlaceholder (mark : String) : TokenParser Literal := do
  match ← Parser.next with
  | .word text _ => pure (placeholder (mark ++ text))
  | .number text false => pure (placeholder (mark ++ text))
  | _ => Parser.fail

/-- A literal. -/
def literal : TokenParser Literal := do
  let token ← Parser.next
  match token with
  | .number text long => pure (.number text long)
  | .text value => pure (.text value)
  | .markedText form value => pure (markedLiteral form value)
  | .word text (some '"') => pure (labelled "DoubleQuotedString" text (quotedText '"' text))
  | .placeholder text => pure (placeholder text)
  | .sign ":" => namedPlaceholder ":"
  | .sign "@" => namedPlaceholder "@"
  | _ =>
      match token.keyword? with
      | some "TRUE" => pure (.boolean true)
      | some "FALSE" => pure (.boolean false)
      | some "NULL" => pure .null
      | _ => Parser.fail

/-- A number or a placeholder with an optional sign, in its spelling. -/
def signedNumber : TokenParser String := do
  let plus ← sign "+"
  let minus ← if plus then pure false else sign "-"
  let start ← Parser.peek?
  let value ← literal
  match start with
  | some (.number _ _) | some (.placeholder _) | some (.sign _) =>
      pure ((if plus then "+" else if minus then "-" else "") ++ value.spelling)
  | _ => Parser.fail

/-- A part of a date or a time; a name or a text stands for one of another kind. -/
def temporalField : TokenParser String := do
  let token ← Parser.next
  match token.keyword? with
  | some "WEEK" =>
      if ← sign "(" then
        let day ← name
        needSign ")"
        pure ("WEEK(" ++ day.spelling ++ ")")
      else pure "WEEK"
  | some word =>
      if Keyword.temporalUnits.contains word || Keyword.temporalFields.contains word then pure word
      else other token
  | none => other token
where
  /-- A part of another kind. -/
  other (token : Token) : TokenParser String :=
    match nameOf? token with
    | some found => pure found.spelling
    | none => Parser.fail

/-! ## Options -/

/-- An option by name: the name, an equals sign and a literal. -/
def setting : TokenParser String := do
  let key ← name
  needSign "="
  let value ← literal
  pure (key.spelling ++ " = " ++ value.spelling)

/-- Options by name, after a keyword that may come next. -/
def settings : TokenParser (Option String) :=
  after "SETTINGS" (do
    let found ← list setting
    pure ("SETTINGS " ++ ", ".intercalate found))

end Phrase

/-!
## What terms and queries contain

Terms contain further terms and queries, and queries contain terms and further queries.
Each of them is read with a record of parsers for what is nested within it; these go one
level deeper, and the number of levels is limited.
-/

/-- The parsers for what is nested within a term or a query. -/
structure Nested where
  /-- A term whose operators bind tighter than the given strength. -/
  term : Nat → TokenParser Term
  /-- Such a term where it links a row to the one above it in a hierarchy. -/
  link : Nat → TokenParser Term
  query : TokenParser Query
  /-- Whether terms link rows of a hierarchy here. -/
  linking : Bool

namespace Nested

/-- A term that reaches as far as possible. -/
def whole (nested : Nested) : TokenParser Term := nested.term 0

/-- Terms with commas between them. -/
def terms (nested : Nested) : TokenParser (List Term) := Phrase.list nested.whole

/-- A term in parentheses. -/
def enclosed (nested : Nested) : TokenParser Term := Phrase.inParens nested.whole

/-- A query in parentheses. -/
def enclosedQuery (nested : Nested) : TokenParser Query := Phrase.inParens nested.query

/-- Whether a query starts here. -/
def startsQuery : TokenParser Bool := Phrase.isNext ["SELECT", "WITH"]

end Nested

end ScalarSql.Syntax
