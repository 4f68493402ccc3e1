import ScalarSql.Columnar.Encoding
import ScalarSql.Text.Width

/-!
# Drawn tables

Columns drawn with characters: a header, one line for each row, and borders of dashes and
bars.  Every column is as wide as its widest content, contents start at the left, and a
missing value is an empty cell.
-/

set_option autoImplicit false

namespace ScalarSql

namespace ColumnType

mutual

/-- The text of a cell in a drawn table. -/
def display : ColumnType → Cell → String
  | _, .null => ""
  | .decimal128 _ scale, .number raw =>
      match Decimal.ofCell raw scale with
      | .ok d => d.text
      | .error _ => ""
  | _, .number value => if value < 0 then "-" ++ Nat.repr value.natAbs else Nat.repr value.natAbs
  | _, .real value => value.tableText
  | _, .text value => value
  | _, .truth value => if value then "true" else "false"
  | .struct fields, .record members =>
      "\x7b" ++ ", ".intercalate (displayMembers fields members) ++ "\x7d"
  | .list element, .list items => "[" ++ ", ".intercalate (displayItems element items) ++ "]"
  | _, _ => ""

/-- The texts of the members of a record, each after the name of its field. -/
def displayMembers : List (String × ColumnType) → List Cell → List String
  | [], _ => []
  | fields, [] => fields.map fun field => field.1 ++ ": "
  | (name, type) :: fields, cell :: cells =>
      (name ++ ": " ++ type.display cell) :: displayMembers fields cells

/-- The texts of the items of a list. -/
def displayItems : ColumnType → List Cell → List String
  | _, [] => []
  | element, item :: rest => element.display item :: displayItems element rest

end

end ColumnType

namespace Grid

/-- The lines of a text. -/
def lines (text : String) : List (List Char) :=
  go [] text.toList
where
  /-- Collects the current line, last character first. -/
  go (current : List Char) : List Char → List (List Char)
    | [] => [current.reverse]
    | '\n' :: rest => current.reverse :: go [] rest
    | c :: rest => go (c :: current) rest

/-- The width of the widest line of a text. -/
def textWidth (text : String) : Nat :=
  (lines text).foldl (fun widest line => max widest (Text.width line)) 0

/-- A border line for columns of the given widths. -/
def border (widths : List Nat) : String :=
  if widths.isEmpty then "++"
  else
    "+" ++ String.join (widths.map fun width =>
      String.ofList (List.replicate (width + 2) '-') ++ "+")

/-- The lines of one row. -/
def rowLines (widths : List Nat) (texts : List String) : List String :=
  if widths.isEmpty then ["||"]
  else
    let columns := texts.map lines
    let height := columns.foldl (fun tallest column => max tallest column.length) 1
    (List.range height).map fun index =>
      "|" ++ String.join (List.zipWith (fun (width : Nat) (column : List (List Char)) =>
        let line := column.getD index []
        " " ++ String.ofList (line ++ List.replicate (width - Text.width line) ' ') ++ " |")
        widths columns)

/-- The drawn table with the given header and rows of texts. -/
def draw (header : List String) (rows : List (List String)) : String :=
  let widths := rows.foldl (fun widths row => List.zipWith max widths (row.map textWidth))
    (header.map textWidth)
  let edge := border widths
  "\n".intercalate
    (edge :: rowLines widths header ++ edge :: rows.flatMap (rowLines widths) ++ [edge])

end Grid

end ScalarSql
