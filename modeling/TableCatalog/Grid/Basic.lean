import TableCatalog.Text.Blank
import TableCatalog.Text.Width

/-!
# Grids of text

A grid is a header and rows of cells, to be drawn with lines around it (`Grid.draw`). A cell is a
text that may have several lines. It has no colours: an escape sequence in a cell is laid out as the
characters it consists of. What a column is to the layout is the list of its cells.
-/

set_option autoImplicit false

namespace TableCatalog

structure Grid where
  header : List String
  rows : List (List String)
deriving DecidableEq

namespace Grid

def cellLines (cell : String) : List (List Char) := Text.pieces '\n' cell.toList

/-- The lines of every cell in the column at a position, the header's among them. -/
def columnLines (g : Grid) (i : Nat) : List (List Char) :=
  (g.header :: g.rows).flatMap fun row => (row[i]?.map cellLines).getD []

/-- The columns, each with the lines of its cells. -/
def columns (g : Grid) : List (List (List Char)) :=
  (List.range g.header.length).map g.columnLines

def widest (lines : List (List Char)) : Nat := (lines.map Text.width).foldl max 0

end Grid

end TableCatalog
