import TableCatalog.ColumnType
import TableCatalog.Text.Blank

/-!
# The lines of a page that matter

A page is read line by line. A line is trimmed, a blank one is left out, and backticks are
removed; what remains is one of the following, and anything else is prose:

* a heading, which begins with `# ` and names the page's table by its last word;
* a section marker, which announces columns: a line whose lower case begins with `## columns`,
  `| column name` or `|column name`;
* a row, which begins with `|` and describes one column.

A row is read without its white space. Cut at every `|`, it must have four cells or more; the
second is the column, the third the type. A row without a column, one that repeats the header
word `Column` and one whose column begins with the dashes of a divider describe nothing.
-/

set_option autoImplicit false

namespace TableCatalog.Page

open Text

/-- The lines of a page: trimmed, none blank, without backticks. -/
def lines (text : List Char) : List (List Char) :=
  (((pieces '\n' text).map trim).filter fun l => !l.isEmpty).map fun l =>
    l.filter fun c => c ≠ '`'

/-- Whether a line is a heading that can name the table. -/
def isHeading (line : List Char) : Bool := startsWith "# " line

/-- The table that a heading names: its last word. -/
def headingName? (line : List Char) : Option String := (words line).getLast?.map String.ofList

/-- What the lower case of a section marker begins with. -/
def sectionMarkers : List String := ["## columns", "| column name", "|column name"]

def isSectionMarker (line : List Char) : Bool :=
  let lowered := lower line
  sectionMarkers.any fun marker => startsWith marker lowered

def isRow (line : List Char) : Bool := startsWith "|" line

/-- The cells of a row: its text without white space, cut at every bar. -/
def cells (line : List Char) : List (List Char) :=
  pieces '|' (line.filter fun c => !isBlank c)

def namesColumn (cell : List Char) : Bool :=
  !cell.isEmpty && !(cell == "Column".toList) && !startsWith "--" cell

/-- The column that a row describes, and its type. -/
def column? (line : List Char) : Option (String × ColumnType) :=
  match cells line with
  | _ :: name :: type :: _ :: _ =>
    if namesColumn name then some (String.ofList name, ColumnType.normalize (String.ofList type))
    else none
  | _ => none

end TableCatalog.Page
