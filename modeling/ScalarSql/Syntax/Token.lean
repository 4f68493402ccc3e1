import ScalarSql.Syntax.Quoted
import ScalarSql.Text.Case

/-!
# Tokens

A statement is cut into words, numbers, texts and signs; white space and comments
separate them and are dropped.  A quoted word is never a keyword.  Scanning fails only on
a text, a quoted word or a comment that has no end, and on an escape in a text that stands
for no character.
-/

set_option autoImplicit false

namespace ScalarSql.Syntax

/-- A part of a statement. -/
inductive Token where
  /-- A word, with the character it is quoted with. -/
  | word (text : String) (quote : Option Char)
  /-- A number, which may end with the letter `L`. -/
  | number (text : String) (long : Bool)
  | text (value : String)
  | markedText (form : TextForm) (value : String)
  | placeholder (text : String)
  /-- An operator or a punctuation mark. -/
  | sign (spelling : String)
  deriving DecidableEq

namespace Token

/-- The keyword that a word can be taken for: its upper case form, unless it is quoted. -/
def keyword? : Token → Option String
  | .word spelling none => some (Text.upper spelling)
  | _ => none

/-- Whether the token is the given keyword. -/
def isKeyword (keyword : String) (token : Token) : Bool :=
  token.keyword? == some keyword

/-- Whether the token is the given sign. -/
def isSign (spelling : String) (token : Token) : Bool :=
  token == .sign spelling

/-- The spelling of a token, in which every character stands for itself. -/
def spelling : Token → String
  | .word letters none => letters
  | .word letters (some quote) => enclosedText (String.singleton quote) letters
  | .number digits long => digits ++ (if long then "L" else "")
  | .text value => enclosedText "'" value
  | .markedText form value => form.rawSpelling value
  | .placeholder mark => mark
  | .sign mark => mark

end Token

namespace Scan

/-! ## Character classes -/

/-- Whether a character can start a word. -/
def startsWord (c : Char) : Bool :=
  Text.isAlphabetic c || c == '_' || c == '#' || c == '@'

/-- Whether a character can continue a word. -/
def continuesWord (c : Char) : Bool :=
  Text.isAlphabetic c || isDigit c || c == '@' || c == '$' || c == '#' || c == '_'

/-! ## Comments -/

/-- What follows a comment that reaches to the end of its line. -/
def afterLine (input : List Char) : List Char :=
  (input.dropWhile (· != '\n')).drop 1

/-- What follows a bracketed comment: `depth` comments are open and `last` is the
character before. -/
def afterComment (depth : Nat) (last : Char) : List Char → Option (List Char)
  | [] => none
  | c :: rest =>
      if last == '/' && c == '*' then afterComment (depth + 1) c rest
      else if last == '*' && c == '/' then
        if depth ≤ 1 then some rest else afterComment (depth - 1) c rest
      else afterComment depth c rest

/-! ## Numbers -/

/-- The exponent at the front of the input, if digits follow the letter and the sign. -/
def exponent (input : List Char) : List Char × List Char :=
  match input with
  | letter :: rest =>
      if letter == 'e' || letter == 'E' then
        let (sign, digits) := match rest with
          | '+' :: digits => (['+'], digits)
          | '-' :: digits => (['-'], digits)
          | digits => ([], digits)
        if (digits.takeWhile isDigit).isEmpty then ([], input)
        else (letter :: sign ++ digits.takeWhile isDigit, digits.dropWhile isDigit)
      else ([], input)
  | [] => ([], [])

/-- The fraction at the front of the input: a point and any digits. -/
def fraction (input : List Char) : List Char × List Char :=
  match input with
  | '.' :: rest => ('.' :: rest.takeWhile isDigit, rest.dropWhile isDigit)
  | other => ([], other)

/-- A number, a hexadecimal text after `0x`, or a lone point. -/
def number (input : List Char) : Token × List Char :=
  let whole := input.takeWhile isDigit
  let afterWhole := input.dropWhile isDigit
  match whole, afterWhole with
  | ['0'], 'x' :: rest =>
      (.markedText .hexadecimal (String.ofList (rest.takeWhile isHexDigit)),
        rest.dropWhile isHexDigit)
  | _, _ =>
      let (decimals, afterDecimals) := fraction afterWhole
      if whole ++ decimals == ['.'] then (.sign ".", afterDecimals)
      else
        let (power, afterPower) := exponent afterDecimals
        let text := String.ofList (whole ++ decimals ++ power)
        match afterPower with
        | 'L' :: rest => (.number text true, rest)
        | rest => (.number text false, rest)

/-! ## Words -/

/-- A word that starts with the given characters. -/
def wordFrom (start : List Char) (input : List Char) : Token × List Char :=
  (.word (String.ofList (start ++ input.takeWhile continuesWord)) none,
    input.dropWhile continuesWord)

/-- A text of the given form after its opening quote. -/
def marked (form : TextForm) (step : Quoted.Step) (input : List Char) :
    Option (Token × List Char) :=
  (Quoted.content? step input).map fun (content, rest) =>
    (.markedText form (String.ofList content), rest)

/-- A text in which every character stands for itself, after its first quote.  Two quotes
are an empty text, and three of them open a text that three quotes close. -/
def rawText (quote : Char) (input : List Char) : Option (Token × List Char) :=
  match (input.take 2).takeWhile (· == quote) with
  | [] => marked (.raw quote false) (Quoted.plain quote) input
  | [_] => some (.markedText (.raw quote false) "", input.drop 1)
  | _ =>
      (Quoted.untilThree quote (input.drop 2)).map fun (content, rest) =>
        (.markedText (.raw quote true) (String.ofList content), rest)

/-- A word or a marked text that starts with a letter. -/
def letter (c : Char) (rest : List Char) : Option (Token × List Char) :=
  match c.toUpper, rest with
  | 'B', '\'' :: content => marked (.bytes '\'') (Quoted.plain '\'') content
  | 'B', '"' :: content => marked (.bytes '"') (Quoted.plain '"') content
  | 'R', '\'' :: content => rawText '\'' content
  | 'R', '"' :: content => rawText '"' content
  | 'N', '\'' :: content => marked .national (Quoted.backslashed '\'') content
  | 'X', '\'' :: content => marked .hexadecimal (Quoted.backslashed '\'') content
  | 'E', '\'' :: content => marked .escaped Quoted.withEscapes content
  | 'U', '&' :: '\'' :: content => marked .unicode Quoted.withNumbers content
  | _, rest => some (wordFrom [c] rest)

/-! ## Signs -/

/-- The signs of more than one character, the longer ones first. -/
def longSigns : List String :=
  ["!~~*", "->>", "||/", "<=>", "!~*", "!~~", "#>>", "~~*",
    "->", "//", "|/", "||", "=>", "==", "!=", "!!", "!~", "<=", "<>", "<<", "<@", ">=", ">>",
    "::", ":=", "&&", "^@", "~*", "~~", "#-", "#>", "@>", "@?"]

/-- The spelling that a sign is known by. -/
def canonicalSign (spelling : String) : String :=
  if spelling == "!=" then "<>" else spelling

/-- The sign at the front of the input: the longest one, or the single character. -/
def sign (c : Char) (rest : List Char) : Token × List Char :=
  match longSigns.find? fun spelling => spelling.toList.isPrefixOf (c :: rest) with
  | some spelling => (.sign (canonicalSign spelling), (c :: rest).drop spelling.length)
  | none => (.sign (String.singleton c), rest)

/-- A word or a sign that starts with `#`. -/
def hash (rest : List Char) : Token × List Char :=
  match rest with
  | '-' :: _ | '>' :: _ => sign '#' rest
  | [] | ' ' :: _ => (.sign "#", rest)
  | second :: others => wordFrom ['#', second] others

/-- A word or a sign that starts with `@`. -/
def atSign (rest : List Char) : Token × List Char :=
  match rest with
  | '>' :: _ | '?' :: _ => sign '@' rest
  | [] | ' ' :: _ => (.sign "@", rest)
  | ['@'] => (.sign "@@", [])
  | '@' :: ' ' :: others => (.sign "@@", ' ' :: others)
  | '@' :: third :: others => wordFrom ['@', '@', third] others
  | second :: others => wordFrom ['@', second] others

/-- A placeholder or a text that starts with a dollar sign. -/
def dollar (rest : List Char) : Option (Token × List Char) :=
  let isTagChar := fun c => Text.isAlphanumeric c || c == '_'
  let tag := rest.takeWhile isTagChar
  match rest.dropWhile isTagChar with
  | '$' :: content =>
      let mark := '$' :: tag ++ ['$']
      (Quoted.untilMark mark [] mark content).map fun (value, others) =>
        (.markedText (.dollar (if tag.isEmpty then none else some (String.ofList tag)))
          (String.ofList value), others)
  | others => some (.placeholder (String.ofList ('$' :: tag)), others)

/-- One token at the front of the input, or no token for a blank or a comment, and the
rest. -/
def one (c : Char) (rest : List Char) : Option (Option Token × List Char) :=
  let found := fun (scanned : Token × List Char) => (some scanned.1, scanned.2)
  match c, rest with
  | '-', '-' :: comment => some (none, afterLine comment)
  | '/', '*' :: comment => (afterComment 1 ' ' comment).map fun others => (none, others)
  | '\'', content =>
      (Quoted.content? (Quoted.plain '\'') content).map fun (value, others) =>
        (some (.text (String.ofList value)), others)
  | '?', _ =>
      some (some (.placeholder (String.ofList ('?' :: rest.takeWhile Text.isNumeric))),
        rest.dropWhile Text.isNumeric)
  | '#', _ => some (found (hash rest))
  | '@', _ => some (found (atSign rest))
  | '$', _ => (dollar rest).map found
  | _, _ =>
      if Text.isBlank c then some (none, rest)
      else if c == '"' || c == '`' then
        (Quoted.content? (Quoted.plain c) rest).map fun (value, others) =>
          (some (.word (String.ofList value) (some c)), others)
      else if isDigit c || c == '.' then some (found (number (c :: rest)))
      else if startsWord c then (letter c rest).map found
      else some (found (sign c rest))

/-- The tokens of the input, of which there are at most `fuel`. -/
def all : Nat → List Char → Option (List Token)
  | _, [] => some []
  | 0, _ :: _ => none
  | fuel + 1, c :: rest =>
      match one c rest with
      | none => none
      | some (none, others) => all fuel others
      | some (some token, others) => (all fuel others).map (token :: ·)

end Scan

/-- The tokens of a text. -/
def Token.scan? (text : String) : Option (List Token) :=
  Scan.all text.length text.toList

end ScalarSql.Syntax
