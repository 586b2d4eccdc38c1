import TableCatalog.Proofs.Page.Description

/-!
# Dividers among the columns

Between the header of a table and its rows stands a divider, and every cell of it is a delimiter:
dashes, at least one, with a colon at an end to which the column is aligned. Read as a row, a
divider describes nothing, and the reader is meant to leave it out.

What it looks at is how the cell begins, and only two dashes make it a divider. So the delimiters
that begin otherwise get through: those with a colon in front, and a dash that stands alone or has
its only colon behind it. `noDelimiter_read_iff` says that nothing else goes wrong: a page has a
delimiter among its columns exactly if one of its rows begins with one of these.

The columns of a page are first asked for in general: `mem_keys_read_iff` says which rows make a
column, without the order in which they are read.
-/

set_option autoImplicit false

namespace TableCatalog.Page

open Text

/-! ## The rows of a page and their first cells -/

/-- A line of a page is read as a row: it is one, it stands behind the first section marker, and it
is no marker itself. -/
def ReadsAsRow (text : String) (line : List Char) : Prop :=
  isRow line = true ∧ isSectionMarker line = false ∧
    ∃ marker after, FirstOf isSectionMarker (lines text.toList) marker after ∧ line ∈ after

/-- Only one line is the first to pass a test. -/
theorem after_eq_of_firstOf {test : List Char → Bool} {lines after after' : List (List Char)}
    {line line' : List Char} (h : FirstOf test lines line after)
    (h' : FirstOf test lines line' after') : after = after' := by
  obtain ⟨before, rfl, hbefore, hline⟩ := h
  obtain ⟨before', hlines, hbefore', hline'⟩ := h'
  induction before generalizing before' with
  | nil =>
    cases before' with
    | nil =>
      rw [List.nil_append, List.nil_append] at hlines
      exact (List.cons.inj hlines).2
    | cons head _ =>
      obtain ⟨rfl, -⟩ := List.cons.inj hlines
      rw [hbefore' line List.mem_cons_self] at hline
      exact absurd hline (by simp)
  | cons head before ih =>
    cases before' with
    | nil =>
      obtain ⟨rfl, -⟩ := List.cons.inj hlines
      rw [hbefore head List.mem_cons_self] at hline'
      exact absurd hline' (by simp)
    | cons head' before' =>
      obtain ⟨-, hlines⟩ := List.cons.inj hlines
      exact ih (List.forall_mem_cons.1 hbefore).2 before' hlines (List.forall_mem_cons.1 hbefore').2

/-- Without white space and cut at its bars, a line has four segments or more, and `cell` is the
second. -/
def Offers (line cell : List Char) : Prop :=
  ∃ segments, segments = (line.filter fun c => !isBlank c).splitOn '|' ∧ 4 ≤ segments.length ∧
    segments[1]? = some cell

/-- A line gives a column to whatever type its third segment spells. -/
theorem exists_segmentsGive_iff {line : List Char} {column : String} :
    (∃ type, SegmentsGive line column type) ↔
      Offers line column.toList ∧ namesColumn column.toList = true := by
  rw [namesColumn_iff]
  constructor
  · rintro ⟨type, segments, hcut, hfour, hcolumn, hempty, hheader, hdivider, -⟩
    exact ⟨⟨segments, hcut, hfour, hcolumn⟩, hempty, hheader, hdivider⟩
  · rintro ⟨⟨segments, hcut, hfour, hcolumn⟩, hempty, hheader, hdivider⟩
    have hthird : 2 < segments.length := by omega
    refine ⟨_, segments, hcut, hfour, hcolumn, hempty, hheader, hdivider,
      .ofList segments[2], ?_, rfl⟩
    rw [List.getElem?_eq_getElem hthird, String.toList_ofList]

/-- **Which columns a page has**: those that one of its rows offers and that are names. -/
theorem mem_keys_read_iff {text column : String} :
    column ∈ (read text).columns.keys ↔
      namesColumn column.toList = true ∧
        ∃ line, ReadsAsRow text line ∧ Offers line column.toList := by
  rcases none_or_firstOf isSectionMarker (lines text.toList) with hnone | ⟨marker, after, hfirst⟩
  · -- without a marker there are neither columns nor rows
    rw [(read_description text).columns_of_none hnone]
    constructor
    · intro hmem
      exact absurd hmem List.not_mem_nil
    · rintro ⟨-, line, ⟨-, -, marker, after, hfirst, -⟩, -⟩
      exact absurd hnone hfirst.not_none
  · rw [columns_read hfirst, OrderedMap.keys_ofList, List.mem_eraseDups]
    constructor
    · intro hmem
      obtain ⟨⟨_, type⟩, hrow, rfl⟩ := List.mem_map.1 hmem
      obtain ⟨line, hline, hrow⟩ := List.mem_filterMap.1 hrow
      obtain ⟨hisRow, hno, hgives⟩ := row?_eq_some_iff.1 hrow
      obtain ⟨hoffers, hname⟩ := exists_segmentsGive_iff.1 ⟨type, hgives⟩
      exact ⟨hname, line, ⟨hisRow, hno, marker, after, hfirst, hline⟩, hoffers⟩
    · rintro ⟨hname, line, ⟨hisRow, hno, marker', after', hfirst', hline⟩, hoffers⟩
      obtain rfl : after = after' := after_eq_of_firstOf hfirst hfirst'
      obtain ⟨type, hgives⟩ := exists_segmentsGive_iff.2 ⟨hoffers, hname⟩
      refine List.mem_map.2 ⟨(column, type), List.mem_filterMap.2 ⟨line, hline, ?_⟩, rfl⟩
      exact row?_eq_some_iff.2 ⟨hisRow, hno, hgives⟩

/-! ## Delimiters -/

/-- A cell of a divider: dashes, at least one, and a colon or nothing at either end. -/
def IsDelimiter (cell : List Char) : Prop :=
  ∃ left dashes right, left ∈ [[], [':']] ∧ dashes ≠ 0 ∧ right ∈ [[], [':']] ∧
    cell = left ++ List.replicate dashes '-' ++ right

/-- A delimiter that is taken for a name: it has a colon in front, or one dash and no more. -/
def LetThrough (cell : List Char) : Prop :=
  IsDelimiter cell ∧ (cell.head? = some ':' ∨ cell = ['-'] ∨ cell = ['-', ':'])

/-- The first two characters of a delimiter are dashes, unless it is let through. -/
theorem IsDelimiter.dashes_iff {cell : List Char} (h : IsDelimiter cell) :
    "--".toList <+: cell ↔ ¬ LetThrough cell := by
  have hletThrough : LetThrough cell ↔
      cell.head? = some ':' ∨ cell = ['-'] ∨ cell = ['-', ':'] := and_iff_right h
  rw [hletThrough]
  obtain ⟨left, dashes, right, hleft, hdashes, hright, rfl⟩ := h
  simp only [List.mem_cons, List.not_mem_nil, or_false] at hleft hright
  match dashes, hdashes with
  | 1, _ =>
    rcases hleft with rfl | rfl <;> rcases hright with rfl | rfl <;> simp
  | dashes + 2, _ =>
    rcases hleft with rfl | rfl
    · simp [List.replicate_succ]
    · simp

theorem IsDelimiter.namesColumn_iff {cell : List Char} (h : IsDelimiter cell) :
    namesColumn cell = true ↔ LetThrough cell := by
  have hlist : cell = (String.ofList cell).toList := String.toList_ofList.symm
  have hempty : String.ofList cell ≠ "" := by
    intro hnil
    obtain ⟨left, dashes, right, -, hdashes, -, rfl⟩ := h
    have hparts : left = [] ∧ dashes = 0 ∧ right = [] := by simpa using hnil
    exact hdashes hparts.2.1
  have hheader : String.ofList cell ≠ "Column" := by
    intro hcolumn
    obtain ⟨left, dashes, right, hleft, hdashes, -, hcell⟩ := h
    -- a delimiter begins with a colon or a dash
    have hfirst : cell.head? = some ':' ∨ cell.head? = some '-' := by
      simp only [List.mem_cons, List.not_mem_nil, or_false] at hleft
      obtain ⟨dashes, rfl⟩ := Nat.exists_eq_succ_of_ne_zero hdashes
      rcases hleft with rfl | rfl <;> simp [hcell, List.replicate_succ]
    rw [hlist, hcolumn] at hfirst
    exact absurd hfirst (by decide)
  rw [hlist, Page.namesColumn_iff, ← hlist, h.dashes_iff, not_not]
  exact ⟨fun hname => hname.2.2, fun hname => ⟨hempty, hheader, hname⟩⟩

/-! ## Pages -/

/-- **When a page has no delimiter among its columns**: none of its rows has a delimiter as its
first cell that has a colon in front or a single dash. -/
theorem noDelimiter_read_iff (text : String) :
    (∀ column ∈ (read text).columns.keys, ¬ IsDelimiter column.toList) ↔
      ∀ line cell, ReadsAsRow text line → Offers line cell → ¬ LetThrough cell := by
  constructor
  · intro hcolumns line cell hrow hoffers hthrough
    have hlist : (String.ofList cell).toList = cell := String.toList_ofList
    have hname : namesColumn (String.ofList cell).toList = true := by
      rw [hlist]
      exact hthrough.1.namesColumn_iff.2 hthrough
    have hmem : String.ofList cell ∈ (read text).columns.keys :=
      mem_keys_read_iff.2 ⟨hname, line, hrow, hlist.symm ▸ hoffers⟩
    exact hcolumns _ hmem (hlist.symm ▸ hthrough.1)
  · intro hrows column hmem hdelimiter
    obtain ⟨hname, line, hrow, hoffers⟩ := mem_keys_read_iff.1 hmem
    exact hrows line column.toList hrow hoffers (hdelimiter.namesColumn_iff.1 hname)

/-- The divider of a table whose columns are aligned to the left describes a column. -/
theorem delimiter_mem_keys_read_alignedLeft :
    let text :=
      "# T\n## Columns\n| Column | Type | Description |\n|:---|:---|:---|\n| A | int | a |\n"
    (read text).columns = .ofList [(":---", ":---"), ("A", "int")] ∧
      ":---" ∈ (read text).columns.keys ∧ IsDelimiter ":---".toList := by
  intro text
  have hread : (read text).columns = .ofList [(":---", ":---"), ("A", "int")] := by decide
  refine ⟨hread, ?_, [':'], 3, [], by simp, by simp, by simp, by decide⟩
  rw [hread]
  decide

end TableCatalog.Page
