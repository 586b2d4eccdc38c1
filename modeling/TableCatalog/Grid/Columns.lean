import TableCatalog.Grid.Basic
import TableCatalog.Grid.Wrap

/-!
# The widths of the columns

A grid has a number of places for the content of all its columns together. Columns are settled one
after the other, and the average is what is left for each of the others:

1. A column that is no wider than the average gets the width it needs. That raises the average,
   so this is done until no further column is settled.
2. A column that would leave three places or more of the average free after its lines are broken
   gets what its broken lines need. Again this is done until nothing changes.
3. The columns that are left share what is left; what cannot be shared evenly goes to the first.
-/

set_option autoImplicit false

namespace TableCatalog.Grid

/-- A column and its width once that is settled. -/
structure Column where
  lines : List (List Char)
  width? : Option Nat
deriving DecidableEq

/-- What is left: places, and columns that are not settled. -/
structure Budget where
  places : Nat
  columns : Nat
deriving DecidableEq

/-- A rule that may settle a column when the average is known. -/
abbrev Rule := Nat → List (List Char) → Option Nat

/-- A column gets the width it needs if that is no more than the average. -/
def fitsAverage : Rule := fun average lines =>
  if widest lines ≤ average then some (widest lines) else none

/-- So many places must stay free in a column that is settled by its broken lines. -/
def minSpared : Nat := 3

/-- A column gets the width of its lines, broken at the average, if that spares enough. -/
def fitsBroken : Rule := fun average lines =>
  let needed := widest (lines.flatMap (breakLine average))
  if needed + minSpared ≤ average then some needed else none

/-- Ask a rule about every column that is not settled, in order. -/
def settleOnce (rule : Rule) (b : Budget) : List Column → List Column × Budget
  | [] => ([], b)
  | c :: cs =>
    match c.width?, rule (b.places / b.columns) c.lines with
    | none, some n =>
      let (cs, b) := settleOnce rule ⟨b.places - n, b.columns - 1⟩ cs
      ({ c with width? := some n } :: cs, b)
    | _, _ =>
      let (cs, b) := settleOnce rule b cs
      (c :: cs, b)

/-- Ask a rule as often as it can settle a column: no more often than there are columns. -/
def settle (rule : Rule) (start : List Column × Budget) : List Column × Budget :=
  start.1.foldl (fun (s : List Column × Budget) _ => settleOnce rule s.2 s.1) start

/-- Share the places that are left; the first `excess` columns get one more. -/
def share (average : Nat) : Nat → List Column → List Nat
  | _, [] => []
  | excess, c :: cs =>
    match c.width?, excess with
    | some n, _ => max 1 n :: share average excess cs
    | none, 0 => max 1 average :: share average 0 cs
    | none, more + 1 => (average + 1) :: share average more cs

/-- The widths of columns that have `places` places together. -/
def arrange (places : Nat) (columns : List (List (List Char))) : List Nat :=
  let start := (columns.map fun lines => Column.mk lines none, Budget.mk places columns.length)
  let (settled, left) := settle fitsBroken (settle fitsAverage start)
  share (left.places / left.columns) (left.places % left.columns) settled

/-- The places that a drawing of `total` places has for its content: what the borders and the
spaces around the cells leave. -/
def contentPlaces (total columns : Nat) : Nat := total - (columns + 1) - 2 * columns

def widths (total : Nat) (g : Grid) : List Nat :=
  arrange (contentPlaces total g.header.length) g.columns

end TableCatalog.Grid
