import LicenseHeaders.Text.DisplayWidth

/-!
# Tables

Rows of cells in columns. Every column is as wide as its widest cell or its title, a line stands
between two columns, and a rule separates the titles from the rows. `tableText` writes a table;
each of its lines ends with a line feed.
-/

set_option autoImplicit false
set_option relaxedAutoImplicit false

namespace LicenseHeaders

open Text

/-- A column of a table. -/
structure Column where
  title : String
  /-- Whether cells stand in the middle of the column instead of at its left side. -/
  isCentred : Bool := false
deriving DecidableEq, Repr

namespace Column

/-- The columns that a text takes. -/
def widthOf (content : String) : Nat :=
  displayWidth content.toList

/-- The width of a column that holds the given cells. -/
def width (column : Column) (cells : List String) : Nat :=
  (cells.map widthOf).foldl max (widthOf column.title)

/-- Blanks. -/
def blanks (count : Nat) : String :=
  String.ofList (List.replicate count ' ')

/-- A cell filled up to a width. In the middle, an odd blank goes to the right. -/
def padded (column : Column) (width : Nat) (content : String) : String :=
  let missing := width - widthOf content
  if column.isCentred then blanks (missing / 2) ++ content ++ blanks (missing - missing / 2)
  else content ++ blanks missing

end Column

/-- The cells of one column. -/
def cellsAt (rows : List (List String)) (place : Nat) : List String :=
  rows.map fun row ↦ row[place]?.getD ""

/-- The columns of a table with their widths. -/
def measured (columns : List Column) (rows : List (List String)) : List (Column × Nat) :=
  columns.zipIdx.map fun (column, place) ↦ (column, column.width (cellsAt rows place))

/-- A row of cells with the given line between them. -/
def rowText (line : String) (columns : List (Column × Nat)) (row : List String) : String :=
  String.intercalate line <|
    (columns.zip row).map fun ((column, width), content) ↦ column.padded width content

/-- The rule below the titles. -/
def ruleText (columns : List (Column × Nat)) : String :=
  String.intercalate "━╇━" <|
    columns.map fun (_, width) ↦ String.ofList (List.replicate width '━')

/-- A table. -/
def tableText (columns : List Column) (rows : List (List String)) : String :=
  let sized := measured columns rows
  let lines := rowText " ┃ " sized (columns.map (·.title)) :: ruleText sized ::
    rows.map (rowText " │ " sized)
  String.join (lines.map (· ++ "\n"))

end LicenseHeaders
