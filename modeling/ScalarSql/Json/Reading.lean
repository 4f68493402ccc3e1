import ScalarSql.Json.Basic
import ScalarSql.Number.Digits
import ScalarSql.Parser

/-!
# Reading JSON

`Json.read?` accepts exactly one JSON value with blanks around it.  An escaped surrogate
stands for a character together with its partner; without one it cannot stand in the name
of a member, and in a value it counts as a replacement character.
-/

set_option autoImplicit false

namespace ScalarSql.Json

namespace Reading

/-- Whether a character separates the parts of a JSON text. -/
def isSpace (c : Char) : Bool :=
  c == ' ' || c == '\n' || c == '\t' || c == '\r'

/-- Takes blanks. -/
def skipSpace : Parser Char Unit := do
  let _ ← Parser.takeWhile isSpace

/-- Takes a character, which must come next. -/
def symbol (c : Char) : Parser Char Unit := Parser.expect (· == c)

/-- Takes the characters of a word, which must come next. -/
def word : List Char → Parser Char Unit
  | [] => pure ()
  | c :: rest => do
      symbol c
      word rest

/-- One hexadecimal digit. -/
def hexDigitValue : Parser Char Nat := do
  match hexValue? (← Parser.next) with
  | some value => pure value
  | none => Parser.fail

/-- Four hexadecimal digits. -/
def codeUnit : Parser Char Nat := do
  let first ← hexDigitValue
  let second ← hexDigitValue
  let third ← hexDigitValue
  let fourth ← hexDigitValue
  pure (((first * 16 + second) * 16 + third) * 16 + fourth)

/-- Whether a code unit is the first of a pair. -/
def isHighSurrogate (unit : Nat) : Bool := 0xD800 ≤ unit && unit < 0xDC00

/-- Whether a code unit is the second of a pair. -/
def isLowSurrogate (unit : Nat) : Bool := 0xDC00 ≤ unit && unit < 0xE000

/-- A code unit written as an escape, which must come next. -/
def escapedUnit : Parser Char Nat := do
  word ['\\', 'u']
  codeUnit

/-- The character for a code unit, which takes its partner along; nothing for a surrogate
without a partner. -/
def characterOf (unit : Nat) : Parser Char (Option Char) := do
  if isHighSurrogate unit then
    match ← Parser.attempt escapedUnit with
    | none => pure none
    | some second =>
        if isLowSurrogate second then
          pure (some (Char.ofNat (0x10000 + (unit - 0xD800) * 0x400 + (second - 0xDC00))))
        else pure none
  else if isLowSurrogate unit then pure none
  else pure (some (Char.ofNat unit))

/-- The character for what follows a backslash. -/
def escaped : Parser Char (Option Char) := do
  let c ← Parser.next
  if c == 'u' then
    let unit ← codeUnit
    characterOf unit
  else if c == '"' || c == '\\' || c == '/' then pure (some c)
  else if c == 'n' then pure (some '\n')
  else if c == 'r' then pure (some '\r')
  else if c == 't' then pure (some '\t')
  else if c == 'b' then pure (some '\x08')
  else if c == 'f' then pure (some '\x0c')
  else Parser.fail

/-- One character of a text; nothing at the closing quote, which is taken. -/
def textChar : Parser Char (Option (Option Char)) := do
  let c ← Parser.next
  if c == '"' then pure none
  else if c == '\\' then some <$> escaped
  else if c.toNat < 0x20 then Parser.fail
  else pure (some (some c))

/-- The characters up to the closing quote. -/
def textChars : Parser Char (List (Option Char)) := Parser.many textChar

/-- The text after an opening quote. -/
def text : Parser Char String := do
  let characters ← textChars
  pure (String.ofList (characters.map fun c => c.getD '\uFFFD'))

/-- The name of a member, after an opening quote. -/
def memberName : Parser Char String := do
  let characters ← textChars
  if characters.all Option.isSome then pure (String.ofList (characters.filterMap id))
  else Parser.fail

/-- One or more digits. -/
def digits : Parser Char (List Char) := do
  let taken ← Parser.takeWhile isDigit
  if taken.isEmpty then Parser.fail else pure taken

/-- The digits in front of the point, which do not start with a superfluous zero. -/
def wholeDigits : Parser Char (List Char) := do
  let taken ← digits
  match taken with
  | '0' :: _ :: _ => Parser.fail
  | other => pure other

/-- A point and digits, if there is a point. -/
def fractionDigits : Parser Char (List Char) := do
  if ← Parser.accept (· == '.') then
    let taken ← digits
    pure ('.' :: taken)
  else pure []

/-- An exponent, if there is one. -/
def exponentDigits : Parser Char (List Char) := do
  if ← Parser.accept (fun c => c == 'e' || c == 'E') then
    let negative ← Parser.accept (· == '-')
    let _ ← if negative then pure false else Parser.accept (· == '+')
    let taken ← digits
    pure ((if negative then ['e', '-'] else ['e']) ++ taken)
  else pure []

/-- A number. -/
def number : Parser Char Json := do
  let negative ← Parser.accept (· == '-')
  let whole ← wholeDigits
  let fraction ← fractionDigits
  let exponent ← exponentDigits
  pure (.number (String.ofList ((if negative then ['-'] else []) ++ whole ++ fraction ++ exponent)))

/-- Items with commas between them up to the closing bracket; none if it comes first. -/
def items {α : Type} (closing : Char) (item : Parser Char α) : Parser Char (List α) := do
  skipSpace
  if ← Parser.accept (· == closing) then pure []
  else
    let comma : Parser Char Bool := do
      skipSpace
      Parser.accept (· == ',')
    let found ← Parser.separatedBy comma item
    skipSpace
    symbol closing
    pure found

/-- A name, a colon and a value. -/
def member (value : Parser Char Json) : Parser Char (String × Json) := do
  skipSpace
  symbol '"'
  let name ← memberName
  skipSpace
  symbol ':'
  let found ← value
  pure (name, found)

/-- A value nested at most `depth` levels deep, with blanks in front of it. -/
def value : Nat → Parser Char Json
  | 0 => Parser.fail
  | depth + 1 => do
      skipSpace
      match ← Parser.peek? with
      | none => Parser.fail
      | some c =>
          if c == '"' then
            symbol '"'
            Json.string <$> text
          else if c == '[' then
            symbol '['
            Json.array <$> items ']' (value depth)
          else if c == '\x7b' then
            symbol '\x7b'
            Json.object <$> items '\x7d' (member (value depth))
          else if c == 't' then do
            word ['t', 'r', 'u', 'e']
            pure (.bool true)
          else if c == 'f' then do
            word ['f', 'a', 'l', 's', 'e']
            pure (.bool false)
          else if c == 'n' then do
            word ['n', 'u', 'l', 'l']
            pure .null
          else number

end Reading

/-- The value that a text writes, with blanks around it. -/
def read? (source : String) : Option Json :=
  let input := source.toList
  let whole : Parser Char Json := do
    let found ← Reading.value (input.length + 1)
    Reading.skipSpace
    pure found
  whole.all? input

end ScalarSql.Json
