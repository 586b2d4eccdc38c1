import TableCatalog.Page.Row
import TableCatalog.Schema

/-!
# Reading a page

A page is read in one pass. The reading holds what has been found so far: the name of the table,
whether columns have been announced, the columns, and the rows that described nothing. The first
heading names the table, wherever it stands. The first section marker turns rows on and nothing
turns them off again, so a page with two sections of columns contributes both; a marker is never
read as a row. A column that is described again keeps its place and takes the new type.
-/

set_option autoImplicit false

namespace TableCatalog.Page

/-- What has been found on a page so far. -/
structure Reading where
  name : Option String
  inside : Bool
  columns : Columns
  skipped : List String
deriving DecidableEq

namespace Reading

def start : Reading := ⟨none, false, .empty, []⟩

/-- Take the table's name from a heading, unless there is a name. -/
def noteHeading (r : Reading) (line : List Char) : Reading :=
  if r.name.isNone && isHeading line then { r with name := headingName? line } else r

/-- Write the column of a row, or note that the row described none. -/
def noteRow (r : Reading) (line : List Char) : Reading :=
  match column? line with
  | some (name, type) => { r with columns := r.columns.insert name type }
  | none => { r with skipped := r.skipped ++ [String.ofList line] }

def step (r : Reading) (line : List Char) : Reading :=
  let r := r.noteHeading line
  if isSectionMarker line then { r with inside := true }
  else if r.inside && isRow line then r.noteRow line
  else r

end Reading

def read (text : String) : Reading := (lines text.toList).foldl Reading.step .start

end TableCatalog.Page
