import DocFilter.Text.Columns

/-!
# Tables

A table with a header, drawn in a frame. Every column is as wide as its widest cell, with a blank
on either side. A double line stands below the header and a dashed line between two rows.
-/

namespace DocFilter

/-- A header and rows of as many cells. -/
structure Table where
  header : List String
  rows : List (List String)
  deriving DecidableEq, Repr

namespace Table

/-- The characters of a line of the frame: its left end, what it is made of, the crossing with
the line between two columns, and its right end. -/
structure Line where
  left : Char
  stroke : Char
  crossing : Char
  right : Char
  deriving DecidableEq, Repr

/-- The line above the header. -/
def topLine : Line := ⟨'┌', '─', '┬', '┐'⟩

/-- The line below the header. -/
def headerLine : Line := ⟨'╞', '═', '╪', '╡'⟩

/-- The line between two rows. -/
def rowLine : Line := ⟨'├', '╌', '┼', '┤'⟩

/-- The line below the last row. -/
def bottomLine : Line := ⟨'└', '─', '┴', '┘'⟩

/-- A line over columns of these widths. -/
def Line.draw (line : Line) (widths : List Nat) : String :=
  let strokes := widths.map fun width => String.ofList (List.replicate (width + 2) line.stroke)
  line.left.toString ++ String.intercalate line.crossing.toString strokes ++ line.right.toString

/-- Cells between the lines of the frame. -/
def drawCells (widths : List Nat) (cells : List String) : String :=
  "│ " ++ String.intercalate " ┆ " (List.zipWith padRight widths cells) ++ " │"

/-- The widths of the columns. -/
def widths (t : Table) : List Nat :=
  t.rows.foldl (fun ws cells => List.zipWith max ws (cells.map columns)) (t.header.map columns)

/-- The lines of the table. -/
def lines (t : Table) : List String :=
  let widths := t.widths
  let rows := (t.rows.map (drawCells widths)).intersperse (rowLine.draw widths)
  [topLine.draw widths, drawCells widths t.header, headerLine.draw widths] ++ rows ++
    [bottomLine.draw widths]

/-- The text of the table. -/
def text (t : Table) : String :=
  String.intercalate "\n" t.lines

end Table

end DocFilter
