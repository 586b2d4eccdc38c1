import TableCatalog.Text.Blank
import TableCatalog.Text.Cluster
import TableCatalog.Text.Width

/-!
# Breaking a line of a cell

A line that is wider than its column is broken at spaces. The words are put one behind the other
as long as they fit. A word that does not fit goes on a new line, but one that is wider than the
column is cut, and fills the line before that. Two rules keep short pieces away: a line with less
than three places left is complete, and a word is not cut for the sake of less than three places.

A word is cut between clusters, so that no mark is separated from its letter. Only where not even
one cluster fits into the column is a single character put there all the same.
-/

set_option autoImplicit false

namespace TableCatalog.Grid

/-- A line with no more places left than this is complete. -/
def minFree : Nat := 2

/-- The number of characters in the clusters that fit into `room` places. -/
def fitting (room : Nat) : List (List Char) → Nat
  | [] => 0
  | g :: gs =>
    if Text.width g ≤ room then g.length + fitting (room - Text.width g) gs else 0

/-- Where to cut a word of which the first part has `room` places. -/
def cutAt (room : Nat) (word : List Char) : Nat := fitting room (Text.clusters word)

/-- Complete a line if there is no room left in it. Returns the complete lines and the line that
goes on. -/
def complete (limit : Nat) (line : List Char) : List (List Char) × List Char :=
  if limit - minFree < Text.width line then ([line], []) else ([], line)

/-- Put a word on a new line. -/
def placeFresh (limit : Nat) (word : List Char) : List (List Char) × List Char :=
  if _h : Text.width word ≤ limit then complete limit word
  else
    let n := max 1 (cutAt limit word)
    let (lines, line) := placeFresh limit (word.drop n)
    (word.take n :: lines, line)
termination_by word.length
decreasing_by
  have : word ≠ [] := fun hw => _h (by simp [hw])
  have := List.length_pos_iff.2 this
  simp only [List.length_drop]
  omega

/-- Put a word behind a line. -/
def place (limit : Nat) (line word : List Char) : List (List Char) × List Char :=
  if line.isEmpty then placeFresh limit word
  else
    let room := limit - Text.width line - 1
    if Text.width line + 1 + Text.width word ≤ limit then complete limit (line ++ ' ' :: word)
    else if room ≤ minFree then
      let (lines, next) := placeFresh limit word
      (line :: lines, next)
    else if limit < Text.width word then
      let n := cutAt room word
      let (lines, next) := placeFresh limit (word.drop n)
      ((line ++ ' ' :: word.take n) :: lines, next)
    else
      let (lines, next) := complete limit word
      (line :: lines, next)

/-- Put words behind a line, and end it. -/
def placeAll (limit : Nat) (line : List Char) : List (List Char) → List (List Char)
  | [] => if line.isEmpty then [] else [line]
  | word :: words =>
    let (lines, next) := place limit line word
    lines ++ placeAll limit next words

/-- The lines into which a line is broken, for a column of `limit` places. -/
def breakLine (limit : Nat) (line : List Char) : List (List Char) :=
  if limit < Text.width line then placeAll limit [] (Text.pieces ' ' line) else [line]

end TableCatalog.Grid
