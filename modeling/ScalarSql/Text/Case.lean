import ScalarSql.Text.CaseRuns
import ScalarSql.Text.Letter

/-!
# Upper and lower case

The full case mappings: one character may become several, and a capital sigma at the end
of a word is lowered to its final form.
-/

set_option autoImplicit false

namespace ScalarSql.Text

/-- The code point that a table of runs maps `code` to. -/
def lookupRun (runs : List (Nat × Nat × Nat × Int)) (code : Nat) : Option Nat :=
  (runs.find? fun (first, last, stride, _) =>
    first ≤ code && code ≤ last && (code - first) % stride == 0).map
      fun (_, _, _, offset) => ((code : Int) + offset).toNat

/-- A character mapped by a table of runs and a table of sequences; without an entry it
stays as it is. -/
def mapCase (runs : List (Nat × Nat × Nat × Int)) (sequences : List (Nat × List Nat))
    (c : Char) : List Char :=
  match lookupRun runs c.toNat with
  | some code => [Char.ofNat code]
  | none =>
      match sequences.lookup c.toNat with
      | some codes => codes.map Char.ofNat
      | none => [c]

/-- The upper case of one character. -/
def upperOf (c : Char) : List Char :=
  if c.toNat < 128 then [c.toUpper] else mapCase upperRuns upperSequences c

/-- The lower case of one character, wherever it stands. -/
def lowerOf (c : Char) : List Char :=
  if c.toNat < 128 then [c.toLower] else mapCase lowerRuns lowerSequences c

/-- Whether a letter with a case comes next, passing over the characters that case
mapping ignores. -/
def nextIsCased (rest : List Char) : Bool :=
  match rest.dropWhile fun c => inRanges caseIgnorableRanges c.toNat with
  | [] => false
  | c :: _ => inRanges casedRanges c.toNat

/-- Lowers `rest`, where `before` is the text in front of it, last character first. -/
def lowerAfter (before : List Char) : List Char → List Char
  | [] => []
  | c :: rest =>
      let lowered :=
        if c == 'Σ' then
          if nextIsCased before && !nextIsCased rest then ['ς'] else ['σ']
        else
          lowerOf c
      lowered ++ lowerAfter (c :: before) rest

/-- A text in upper case. -/
def upper (text : String) : String :=
  String.ofList (text.toList.flatMap upperOf)

/-- A text in lower case. -/
def lower (text : String) : String :=
  String.ofList (lowerAfter [] text.toList)

end ScalarSql.Text
