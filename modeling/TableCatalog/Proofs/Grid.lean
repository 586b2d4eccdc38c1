import Mathlib.Data.List.Forall2
import TableCatalog.Grid.Drawing
import TableCatalog.Proofs.Text.Blank

/-!
# What a drawing shows

A drawing shows the header of its grid and, below it, the rows in their order (`draw_shows`),
however wide it may be. Every row is a block of lines, and every cell of the row has a column of
fields there, one to a line. Read from the top, the fields are the cell: each is a piece of one of
its lines with blanks behind, the pieces follow one another, and nothing is left out between them
but spaces and line breaks (`Pieces`). So a cell that does not fit into its column is cut, but never
cut short, and a row is never left out, drawn twice or mixed with another one.

How wide the columns are does not matter for that, and nothing is said of it here but that there is
one for each name in the header.
-/

set_option autoImplicit false

namespace TableCatalog.Grid

/-! ## Pieces of a text -/

/-- Some pieces are taken off the front of a text, one after the other, and a rest is left. Spaces
and line breaks may be left out before a piece and behind the last one. -/
inductive Pieces : List (List Char) → List Char → List Char → Prop
  | none {t : List Char} : Pieces [] t t
  | skip {c : Char} {ps : List (List Char)} {t r : List Char} : c = ' ' ∨ c = '\n' →
      Pieces ps t r → Pieces ps (c :: t) r
  | piece {p : List Char} {ps : List (List Char)} {t r : List Char} :
      Pieces ps t r → Pieces (p :: ps) (p ++ t) r

namespace Pieces

variable {ps qs : List (List Char)} {t u r : List Char}

theorem trans (h : Pieces ps t u) (h' : Pieces qs u r) : Pieces (ps ++ qs) t r := by
  induction h with
  | none => exact h'
  | skip hblank _ ih => exact .skip hblank (ih h')
  | piece _ ih => exact .piece (ih h')

/-- What stands behind a text is left over with its rest. -/
theorem append (h : Pieces ps t r) (u : List Char) : Pieces ps (t ++ u) (r ++ u) := by
  induction h with
  | none => exact .none
  | skip hblank _ ih => exact .skip hblank ih
  | piece _ ih =>
    rw [List.append_assoc]
    exact .piece ih

/-- A piece has no characters but those of the text. -/
theorem mem (h : Pieces ps t r) {p : List Char} (hp : p ∈ ps) {c : Char} (hc : c ∈ p) : c ∈ t := by
  induction h with
  | none => simp at hp
  | skip _ _ ih => exact List.mem_cons_of_mem _ (ih hp)
  | piece _ ih =>
    rcases List.mem_cons.1 hp with rfl | hp
    · exact List.mem_append_left _ hc
    · exact List.mem_append_right _ (ih hp)

/-- A text is a piece of itself. -/
theorem single (t : List Char) : Pieces [t] t [] := by
  have h : Pieces [t] (t ++ []) [] := .piece .none
  rwa [List.append_nil] at h

theorem blank (n : Nat) : Pieces (List.replicate n []) [] [] := by
  induction n with
  | zero => exact .none
  | succ n ih => exact .piece ih

end Pieces

/-! ## Breaking a line -/

section Breaking

variable (limit : Nat)

/-- The lines that are complete, behind what has been put on them, and the line that goes on. -/
theorem pieces_complete (line : List Char) :
    Pieces (complete limit line).1 line (complete limit line).2 := by
  unfold complete
  split_ifs
  · exact .single line
  · exact .none

theorem pieces_placeFresh (word : List Char) :
    Pieces (placeFresh limit word).1 word (placeFresh limit word).2 := by
  fun_induction placeFresh limit word with
  | case1 word hfits => exact pieces_complete limit word
  | case2 word hwide n lines line hrest ih =>
    rw [hrest] at ih
    have hcut : Pieces (word.take n :: lines) (word.take n ++ word.drop n) line := .piece ih
    rwa [List.take_append_drop] at hcut

/-- A word is put behind a line, and the space between the two may be lost. -/
theorem pieces_place (line word : List Char) :
    Pieces (place limit line word).1 (line ++ ' ' :: word) (place limit line word).2 := by
  unfold place
  dsimp only
  split_ifs with hempty hfits hfull hwide
  · rw [List.isEmpty_iff.1 hempty]
    exact .skip (.inl rfl) (pieces_placeFresh limit word)
  · exact pieces_complete limit _
  · exact .piece (.skip (.inl rfl) (pieces_placeFresh limit word))
  · -- the word is cut: its first part goes behind the line, and the others go on
    generalize cutAt (limit - Text.width line - 1) word = n
    have hcut : Pieces ((line ++ ' ' :: word.take n) :: (placeFresh limit (word.drop n)).1)
        ((line ++ ' ' :: word.take n) ++ word.drop n) (placeFresh limit (word.drop n)).2 :=
      .piece (pieces_placeFresh limit _)
    rwa [List.append_assoc, List.cons_append, List.take_append_drop] at hcut
  · exact .piece (.skip (.inl rfl) (pieces_complete limit word))

theorem pieces_placeAll (line : List Char) (words : List (List Char)) :
    Pieces (placeAll limit line words) (line ++ words.flatMap (' ' :: ·)) [] := by
  induction words generalizing line with
  | nil =>
    rw [placeAll, List.flatMap_nil, List.append_nil]
    split_ifs with hempty
    · rw [List.isEmpty_iff.1 hempty]
      exact .none
    · exact .single line
  | cons word words ih =>
    have hplaced := (pieces_place limit line word).append (words.flatMap (' ' :: ·))
    rw [List.append_assoc, List.cons_append] at hplaced
    exact hplaced.trans (ih _)

/-- A line that is broken is all there. -/
theorem pieces_breakLine (line : List Char) : Pieces (breakLine limit line) line [] := by
  unfold breakLine
  split_ifs
  · obtain ⟨word, words, hwords, hjoin⟩ := Text.exists_pieces ' ' line
    have hplaced := (pieces_placeFresh limit word).append (words.flatMap (' ' :: ·))
    rw [hjoin] at hplaced
    rw [hwords]
    exact hplaced.trans (pieces_placeAll limit _ words)
  · exact .single line

theorem pieces_breakLines (line : List Char) (lines : List (List Char)) :
    Pieces ((line :: lines).flatMap (breakLine limit)) (line ++ lines.flatMap ('\n' :: ·)) [] := by
  induction lines generalizing line with
  | nil =>
    rw [List.flatMap_singleton, List.flatMap_nil, List.append_nil]
    exact pieces_breakLine limit line
  | cons next lines ih =>
    rw [List.flatMap_cons]
    exact ((pieces_breakLine limit line).append _).trans (.skip (.inr rfl) (ih next))

/-- A cell that is broken is all there. -/
theorem pieces_shape (cell : String) : Pieces (shape limit cell) cell.toList [] := by
  obtain ⟨line, lines, hlines, hjoin⟩ := Text.exists_pieces '\n' cell.toList
  rw [shape, cellLines, hlines, ← hjoin]
  exact pieces_breakLines limit line lines

/-- No piece of a cell goes over a line break. -/
theorem not_mem_of_mem_shape {cell : String} {p : List Char} (hp : p ∈ shape limit cell) :
    '\n' ∉ p := by
  obtain ⟨line, hline, hp⟩ := List.mem_flatMap.1 hp
  exact fun hbreak =>
    Text.not_mem_of_mem_pieces hline ((pieces_breakLine limit line).mem hp hbreak)

end Breaking

/-! ## Rows -/

/-- The fields in a column of a block are a cell, read from the top. -/
def ShowsCell (fields : List String) (cell : String) : Prop :=
  ∃ ps, List.Forall₂ (fun field p => ∃ n, field = String.ofList p ++ fill ' ' n) fields ps ∧
    (∀ p ∈ ps, '\n' ∉ p) ∧ Pieces ps cell.toList []

/-- A line of a block with these fields. -/
def fieldLine (fields : List String) : String :=
  "│ " ++ String.intercalate " ┆ " fields ++ " │"

/-- The characters of a line with these fields. -/
theorem fieldLine_eq (fields : List String) :
    fieldLine fields = String.ofList ("│ ".toList ++
      " ┆ ".toList.intercalate (fields.map String.toList) ++ " │".toList) := by
  rw [← String.toList_inj, fieldLine]
  simp only [String.toList_append, String.toList_intercalate, String.toList_ofList]

/-- A block of lines shows a row: each cell has a column of fields, one on every line. -/
def ShowsRow (block : List String) (row : List String) : Prop :=
  ∃ (height : Nat) (columns : List (List String)),
    block = (List.range height).map (fun i =>
      fieldLine (columns.map fun column => column[i]?.getD "")) ∧
    (∀ column ∈ columns, column.length = height) ∧ List.Forall₂ ShowsCell columns row

/-- A drawing shows a grid: the header and the rows, in their order, between three lines. -/
def Shows (drawing : String) (g : Grid) : Prop :=
  ∃ (widths : List Nat) (header : List String) (blocks : List (List String)),
    widths.length = g.header.length ∧
    drawing = String.intercalate "\n" ([drawLine topStyle widths] ++ header ++
      [drawLine headerStyle widths] ++ blocks.flatten ++ [drawLine bottomStyle widths]) ∧
    ShowsRow header g.header ∧ List.Forall₂ ShowsRow blocks g.rows

/-- The fields of a cell with these lines, `width` places wide, in a block of `height` lines. -/
def fieldsOf (width height : Nat) (lines : List (List Char)) : List String :=
  (List.range height).map fun i => pad width (lines[i]?.getD [])

theorem getElem?_fieldsOf {width height i : Nat} (hi : i < height) (lines : List (List Char)) :
    (fieldsOf width height lines)[i]? = some (pad width (lines[i]?.getD [])) := by
  rw [fieldsOf, List.getElem?_map, List.getElem?_range hi, Option.map_some]

theorem fieldsOf_eq {width height : Nat} {lines : List (List Char)} (h : lines.length ≤ height) :
    fieldsOf width height lines =
      (lines ++ List.replicate (height - lines.length) []).map (pad width) := by
  refine List.ext_getElem (by simp [fieldsOf, h]) fun i hi _ => ?_
  by_cases hline : i < lines.length
  · simp [fieldsOf, hline]
  · simp only [fieldsOf, List.getElem_map, List.getElem_range]
    rw [List.getElem_append_right (Nat.not_lt.1 hline), List.getElem_replicate,
      List.getElem?_eq_none (Nat.not_lt.1 hline)]
    rfl

theorem showsCell_fieldsOf {width height : Nat} {cell : String}
    (h : (shape width cell).length ≤ height) :
    ShowsCell (fieldsOf width height (shape width cell)) cell := by
  have hpieces := (pieces_shape width cell).trans
    (.blank (height - (shape width cell).length))
  refine ⟨_, ?_, fun p hp => ?_, hpieces⟩
  · rw [fieldsOf_eq h, List.forall₂_map_left_iff, List.forall₂_same]
    exact fun p _ => ⟨_, rfl⟩
  · rcases List.mem_append.1 hp with hp | hp
    · exact not_mem_of_mem_shape width hp
    · rw [List.eq_of_mem_replicate hp]
      exact List.not_mem_nil

theorem le_foldl_max {n start : Nat} {ns : List Nat} (h : n ≤ start ∨ n ∈ ns) :
    n ≤ ns.foldl max start := by
  induction ns generalizing start with
  | nil => simpa using h
  | cons k ns ih =>
    refine ih ?_
    rcases h with h | h
    · exact .inl (Nat.le_trans h (Nat.le_max_left start k))
    · rcases List.mem_cons.1 h with rfl | h
      · exact .inl (Nat.le_max_right start n)
      · exact .inr h

/-- The number of lines of the highest cell. -/
def height (cells : List (Nat × List (List Char))) : Nat :=
  (cells.map fun c => c.2.length).foldl max 0

theorem drawShaped_eq (cells : List (Nat × List (List Char))) :
    drawShaped cells = (List.range (height cells)).map fun i =>
      fieldLine ((cells.map fun c => fieldsOf c.1 (height cells) c.2).map fun column =>
        column[i]?.getD "") := by
  refine List.map_congr_left fun i hi => ?_
  have hi : i < height cells := List.mem_range.1 hi
  simp only [fieldLine, List.map_map, Function.comp_def]
  refine congrArg (fun fields => "│ " ++ String.intercalate " ┆ " fields ++ " │") ?_
  refine List.map_congr_left fun c _ => ?_
  rw [getElem?_fieldsOf hi, Option.getD_some]

/-- A row is drawn as a block that shows it. -/
theorem showsRow_drawRow {widths : List Nat} {row : List String}
    (hlength : widths.length = row.length) : ShowsRow (drawRow widths row) row := by
  refine ⟨_, _, drawShaped_eq _, ?_, ?_⟩
  · intro column hcolumn
    obtain ⟨c, -, rfl⟩ := List.mem_map.1 hcolumn
    simp [fieldsOf]
  · have hrow : (widths.zip row).map Prod.snd = row := List.map_snd_zip (Nat.le_of_eq hlength.symm)
    rw [List.map_map]
    conv_rhs => rw [← hrow]
    rw [List.forall₂_map_left_iff, List.forall₂_map_right_iff, List.forall₂_same]
    intro c hc
    refine showsCell_fieldsOf (le_foldl_max (.inr (List.mem_map.2 ⟨(c.1, shape c.1 c.2), ?_, rfl⟩)))
    exact List.mem_map.2 ⟨c, hc, rfl⟩

/-! ## The whole drawing -/

section Widths

theorem length_share (average excess : Nat) (columns : List Column) :
    (share average excess columns).length = columns.length := by
  fun_induction share average excess columns with
  | _ => simp [*]

theorem length_settleOnce (rule : Rule) (b : Budget) (columns : List Column) :
    (settleOnce rule b columns).1.length = columns.length := by
  induction columns generalizing b with
  | nil => rfl
  | cons c columns ih =>
    rw [settleOnce]
    split <;> simp [ih]

theorem length_settle (rule : Rule) (start : List Column × Budget) :
    (settle rule start).1.length = start.1.length := by
  have hfold (columns : List Column) (s : List Column × Budget) :
      (columns.foldl (fun s _ => settleOnce rule s.2 s.1) s).1.length = s.1.length := by
    induction columns generalizing s with
    | nil => rfl
    | cons _ columns ih => rw [List.foldl_cons, ih, length_settleOnce]
  exact hfold _ _

/-- There is one column for each name in the header. -/
theorem length_widths (total : Nat) (g : Grid) : (g.widths total).length = g.header.length := by
  rw [widths, arrange, length_share, length_settle, length_settle, List.length_map, columns,
    List.length_map, List.length_range]

end Widths

/-- The characters of a line between the rows. -/
theorem drawLine_eq (style : LineStyle) (widths : List Nat) :
    drawLine style widths = String.ofList (style.left.toList ++
      style.crossing.toList.intercalate (widths.map fun n => List.replicate (n + 2) style.stroke) ++
      style.right.toList) := by
  rw [← String.toList_inj, drawLine]
  simp only [fill, String.toList_append, String.toList_intercalate, String.toList_ofList,
    List.map_map, Function.comp_def]

/-- **A drawing shows the rows of its grid**, in their order, below the header. -/
theorem draw_shows (total : Nat) {g : Grid} (h : ∀ row ∈ g.rows, row.length = g.header.length) :
    Shows (g.draw total) g := by
  have hwidths := g.length_widths total
  refine ⟨g.widths total, _, g.rows.map (drawRow (g.widths total)), hwidths, ?_,
    showsRow_drawRow hwidths, ?_⟩
  · rw [← List.flatMap_def]
    rfl
  · rw [List.forall₂_map_left_iff, List.forall₂_same]
    exact fun row hrow => showsRow_drawRow (hwidths.trans (h row hrow).symm)

end TableCatalog.Grid
