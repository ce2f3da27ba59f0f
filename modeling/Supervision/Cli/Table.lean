import Supervision.Text.Columns

/-!
# Tables

Rows of cells in a frame with rounded corners.  A column is as wide as its widest line; a cell with
line breaks takes as many lines, and the cells beside it are filled up with blank ones.
-/

namespace Supervision.Cli

def cellLines (cell : String) : List String := cell.splitOn "\n"

def cellWidth (cell : String) : Nat :=
  (cellLines cell).foldl (fun width line => max width (Text.columns line)) 0

def columnWidths (rows : List (List String)) : List Nat :=
  rows.foldl
    (fun widths row =>
      (List.range (max widths.length row.length)).map fun index =>
        max (widths.getD index 0) (cellWidth (row.getD index "")))
    []

def blanks (count : Nat) : String := String.ofList (List.replicate count ' ')

/-- A line of a cell with a blank on either side, filled up to the width of its column. -/
def paddedLine (width : Nat) (line : String) : String :=
  " " ++ line ++ blanks (width - Text.columns line) ++ " "

def frameLine (left cross right : String) (widths : List Nat) : String :=
  left ++ cross.intercalate
      (widths.map fun width => String.ofList (List.replicate (width + 2) '─'))
    ++ right

def rowLines (widths : List Nat) (row : List String) : List String :=
  let cells := row.map cellLines
  let height := cells.foldl (fun height lines => max height lines.length) 1
  (List.range height).map fun index =>
    "│" ++ "│".intercalate
        ((widths.zip cells).map fun (width, lines) => paddedLine width (lines.getD index ""))
      ++ "│"

/-- A table with a header.  The frame is left open below a header without rows. -/
def table (header : List String) (rows : List (List String)) : String :=
  let widths := columnWidths (header :: rows)
  let lines := [frameLine "╭" "┬" "╮" widths] ++ rowLines widths header
    ++ [frameLine "├" "┼" "┤" widths] ++ rows.flatMap (rowLines widths)
    ++ (if rows.isEmpty then [] else [frameLine "╰" "┴" "╯" widths])
  "\n".intercalate lines

end Supervision.Cli
