import ScalarSql.Number.Digits

/-!
# Texts between quotes

A text stands between quotes, and a quote within it is written twice.  Letters in front of
the opening quote give the text another form, in which a backslash can start an escape or
in which the text is marked by several characters.  `TextForm.content?` takes the content
of a text off the front of the input, and `TextForm.spelling` writes a content back.
-/

set_option autoImplicit false

namespace ScalarSql.Syntax

/-- The kinds of texts that are written with letters or signs in front. -/
inductive TextForm where
  | national
  | hexadecimal
  /-- With escapes for characters that are hard to type. -/
  | escaped
  /-- With escapes that give the numbers of characters. -/
  | unicode
  | bytes (quote : Char)
  /-- Between one quote or three. -/
  | raw (quote : Char) (threefold : Bool)
  /-- Between dollar signs with an optional tag. -/
  | dollar (tag : Option String)
  deriving DecidableEq

namespace Quoted

/-! ## Reading characters -/

/-- Takes a character of a content off the front of the input, or its closing quote. -/
abbrev Step := List Char → Option (Option Char × List Char)

/-- The character with the given number. -/
def charOf? (code : Nat) : Option Char :=
  if code < 0xD800 || (0xDFFF < code && code < 0x110000) then some (Char.ofNat code) else none

/-- A text in which two quotes stand for one. -/
def plain (quote : Char) : Step
  | [] => none
  | [c] => some (if c == quote then none else some c, [])
  | c :: d :: rest =>
      if c == quote then
        if d == quote then some (some quote, rest) else some (none, d :: rest)
      else some (some c, d :: rest)

/-- The character that a letter behind a backslash stands for. -/
def unescape (c : Char) : Char :=
  if c == '0' then '\x00'
  else if c == 'a' then '\x07'
  else if c == 'b' then '\x08'
  else if c == 'f' then '\x0c'
  else if c == 'n' then '\n'
  else if c == 'r' then '\r'
  else if c == 't' then '\t'
  else if c == 'Z' then '\x1a'
  else c

/-- A text in which a backslash gives the next character another meaning. -/
def backslashed (quote : Char) : Step
  | '\\' :: d :: rest => some (some (unescape d), rest)
  | input => plain quote input

/-! ## Escapes by number -/

/-- The character whose number stands in the next `count` hexadecimal digits; a plus sign
can take the place of the first one. -/
def numberedChar? (count : Nat) (input : List Char) : Option (Char × List Char) :=
  if input.length < count then none
  else
    let digits := match input.take count with
      | '+' :: digits => digits
      | digits => digits
    ((readHex? digits).bind charOf?).map (·, input.drop count)

/-- The character whose number is the last byte of the given one, if it is below 128. -/
def byteChar? (number : Nat) : Option Char :=
  if number % 256 < 128 then some (Char.ofNat (number % 256)) else none

/-- Whether a character is an octal digit. -/
def isOctalDigit (c : Char) : Bool := '0' ≤ c && c ≤ '7'

/-- The number that octal digits write. -/
def ofOctal (digits : List Char) : Nat :=
  digits.foldl (fun value c => value * 8 + (c.toNat - '0'.toNat)) 0

/-- The character that is written behind a backslash: by a letter, by up to two
hexadecimal or three octal digits, by four or eight hexadecimal digits, or as it is. -/
def escape? : List Char → Option (Char × List Char)
  | [] => none
  | 'b' :: rest => some ('\x08', rest)
  | 'f' :: rest => some ('\x0c', rest)
  | 'n' :: rest => some ('\n', rest)
  | 'r' :: rest => some ('\r', rest)
  | 't' :: rest => some ('\t', rest)
  | 'u' :: rest => numberedChar? 4 rest
  | 'U' :: rest => numberedChar? 8 rest
  | 'x' :: rest =>
      let digits := (rest.take 2).takeWhile isHexDigit
      if digits.isEmpty then some ('x', rest)
      else ((readHex? digits).bind byteChar?).map (·, rest.drop digits.length)
  | c :: rest =>
      if isOctalDigit c then
        let digits := (rest.take 2).takeWhile isOctalDigit
        (byteChar? (ofOctal (c :: digits))).map (·, rest.drop digits.length)
      else some (c, rest)

/-- A text with escapes, none of which stands for the character with the number zero. -/
def withEscapes : Step
  | '\\' :: rest =>
      match escape? rest with
      | some (c, others) => if c == '\x00' then none else some (some c, others)
      | none => none
  | input => plain '\'' input

/-- The character whose number stands in exactly `count` hexadecimal digits. -/
def exactChar? (count : Nat) (input : List Char) : Option (Option Char × List Char) :=
  if input.length < count then none
  else ((readHex? (input.take count)).bind charOf?).map fun c => (some c, input.drop count)

/-- A text in which a backslash is written twice or stands in front of the number of a
character: four digits, or six after a plus sign. -/
def withNumbers : Step
  | '\\' :: '\\' :: rest => some (some '\\', rest)
  | '\\' :: '+' :: rest => exactChar? 6 rest
  | '\\' :: rest => exactChar? 4 rest
  | input => plain '\'' input

/-! ## Contents -/

/-- Puts characters in front of what was read. -/
def prepend (start : List Char) (read : List Char × List Char) : List Char × List Char :=
  (start ++ read.1, read.2)

/-- The content that is read in at most `fuel` steps, and the rest. -/
def contentUpTo (step : Step) : Nat → List Char → Option (List Char × List Char)
  | 0, _ => none
  | fuel + 1, input =>
      match step input with
      | none => none
      | some (none, rest) => some ([], rest)
      | some (some c, rest) => (contentUpTo step fuel rest).map (prepend [c])

/-- The content up to the closing quote, and the rest behind it. -/
def content? (step : Step) (input : List Char) : Option (List Char × List Char) :=
  contentUpTo step (input.length + 1) input

/-- The content up to a closing mark, and the rest behind it: `expected` is what is missing
of the mark and `held` the part of it that was read.  Where the mark turns out to be
incomplete, the search goes on behind the character that does not fit. -/
def untilMark (mark : List Char) (held expected : List Char) :
    List Char → Option (List Char × List Char)
  | [] => none
  | c :: rest =>
      match expected with
      | [] => none
      | [last] =>
          if c == last then some ([], rest)
          else (untilMark mark [] mark rest).map (prepend (held ++ [c]))
      | next :: others =>
          if c == next then untilMark mark (held ++ [c]) others rest
          else (untilMark mark [] mark rest).map (prepend (held ++ [c]))

/-- The content up to three quotes, and the rest behind them. -/
def untilThree (quote : Char) : List Char → Option (List Char × List Char)
  | c :: d :: e :: rest =>
      if c == quote && d == quote && e == quote then some ([], rest)
      else (untilThree quote (d :: e :: rest)).map (prepend [c])
  | _ => none

/-! ## Spellings -/

/-- Doubles the quotes in a text, except those that are doubled already or stand behind a
backslash. -/
def doubleQuotes (quote previous : Char) : List Char → List Char
  | [] => []
  | [c] => if c == quote && previous != '\\' then [c, c] else [c]
  | c :: d :: rest =>
      if c == quote then
        if previous == '\\' then c :: doubleQuotes quote previous (d :: rest)
        else if d == quote then c :: d :: doubleQuotes quote c rest
        else c :: c :: doubleQuotes quote c (d :: rest)
      else c :: doubleQuotes quote c (d :: rest)

/-- A character of a text with escapes. -/
def escapedChar (c : Char) : List Char :=
  match c with
  | '\'' => ['\\', '\'']
  | '\\' => ['\\', '\\']
  | '\n' => ['\\', 'n']
  | '\t' => ['\\', 't']
  | '\r' => ['\\', 'r']
  | c => [c]

/-- A number in at least `width` hexadecimal digits. -/
def hexNumber (width number : Nat) : List Char :=
  let digits := (Nat.toDigits 16 number).map Char.toUpper
  List.replicate (width - digits.length) '0' ++ digits

/-- A character of a text in which other than ASCII characters are given by number. -/
def numberedChar (c : Char) : List Char :=
  if c == '\'' then ['\'', '\'']
  else if c == '\\' then ['\\', '\\']
  else if c.toNat < 128 then [c]
  else if c.toNat ≤ 0xFFFF then '\\' :: hexNumber 4 c.toNat
  else '\\' :: '+' :: hexNumber 6 c.toNat

end Quoted

/-- A text between quotes. -/
def quotedText (quote : Char) (text : String) : String :=
  String.ofList (quote :: Quoted.doubleQuotes quote '\x00' text.toList ++ [quote])

/-- A text between quotes as it is. -/
def enclosedText (quote text : String) : String :=
  quote ++ text ++ quote

namespace TextForm

/-- What stands in front of a text of some form, and the quote around it. -/
def marks : TextForm → String × String
  | .national => ("N", "'")
  | .hexadecimal => ("X", "'")
  | .escaped => ("E", "'")
  | .unicode => ("U&", "'")
  | .bytes quote => ("B", String.singleton quote)
  | .raw quote threefold =>
      ("R", String.ofList (List.replicate (if threefold then 3 else 1) quote))
  | .dollar tag => ("", "$" ++ tag.getD "" ++ "$")

/-- The spelling of a text in which every character stands for itself. -/
def rawSpelling (form : TextForm) (content : String) : String :=
  form.marks.1 ++ enclosedText form.marks.2 content

/-- The spelling of a text, with escapes where the form has them. -/
def spelling (form : TextForm) (content : String) : String :=
  let written := match form with
    | .escaped => String.ofList (content.toList.flatMap Quoted.escapedChar)
    | .unicode => String.ofList (content.toList.flatMap Quoted.numberedChar)
    | _ => content
  form.rawSpelling written

end TextForm

end ScalarSql.Syntax
