import TableCatalog.Grid.Columns

/-!
# Drawing a grid

Four kinds of horizontal line and one kind of row: every cell has a space on both sides, and a cell
with fewer lines than its neighbours is filled with blank ones. Nothing is drawn between the rows.
-/

set_option autoImplicit false

namespace TableCatalog.Grid

/-- The characters of a horizontal line: its left end, what it is made of, its crossings and its
right end. -/
structure LineStyle where
  left : String
  stroke : Char
  crossing : String
  right : String

def topStyle : LineStyle := ⟨"╭", '─', "┬", "╮"⟩

def headerStyle : LineStyle := ⟨"╞", '═', "╪", "╡"⟩

def bottomStyle : LineStyle := ⟨"╰", '─', "┴", "╯"⟩

def fill (c : Char) (n : Nat) : String := String.ofList (List.replicate n c)

def drawLine (style : LineStyle) (widths : List Nat) : String :=
  style.left ++
    String.intercalate style.crossing (widths.map fun n => fill style.stroke (n + 2)) ++ style.right

def shape (width : Nat) (cell : String) : List (List Char) :=
  (cellLines cell).flatMap (breakLine width)

def pad (width : Nat) (line : List Char) : String :=
  String.ofList line ++ fill ' ' (width - Text.width line)

/-- A row of cells that have been shaped: the lines of the drawing. -/
def drawShaped (cells : List (Nat × List (List Char))) : List String :=
  let height := (cells.map fun c => c.2.length).foldl max 0
  (List.range height).map fun i =>
    "│ " ++ String.intercalate " ┆ " (cells.map fun c => pad c.1 (c.2[i]?.getD [])) ++ " │"

def drawRow (widths : List Nat) (row : List String) : List String :=
  drawShaped ((widths.zip row).map fun c => (c.1, shape c.1 c.2))

/-- The drawing of a grid, `total` places wide at most. -/
def draw (total : Nat) (g : Grid) : String :=
  let ws := g.widths total
  String.intercalate "\n"
    ([drawLine topStyle ws] ++ drawRow ws g.header ++ [drawLine headerStyle ws] ++
      g.rows.flatMap (drawRow ws) ++ [drawLine bottomStyle ws])

end TableCatalog.Grid
