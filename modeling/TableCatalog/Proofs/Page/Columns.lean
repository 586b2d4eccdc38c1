import TableCatalog.Proofs.ColumnType
import TableCatalog.Proofs.Page.Sheet

/-!
# The columns of a page are well formed

Whatever a page looks like, each of its columns comes from a row, so it is a segment of a line that
was trimmed, lost its backticks and its white space and was cut at the bars. That settles what a name
can hold. A type is the normal form of such a segment, and normalizing brings nothing back: no white
space, no bar and no backtick is the lower case of another character
(`ColumnType.mem_of_mem_normalize`).

The conditions on a name are those under which a name survives being written into a sheet and read
again (`Entry`), so what has been scraped once can be documented as it is.
-/

set_option autoImplicit false

namespace TableCatalog.Page

open Text

/-- A name that a page can give to a column. -/
structure IsColumnName (column : String) : Prop where
  isCell : IsCell column
  ne_empty : column ≠ ""
  ne_header : column ≠ "Column"
  no_divider : ¬ "--".toList <+: column.toList

/-- A type in its normal form, without anything that a row is read without. -/
structure IsNormalType (type : ColumnType) : Prop where
  isCell : IsCell type
  normalize_eq : ColumnType.normalize type = type
  lower_eq : lower type.toList = type.toList
  ne_bigint : type ≠ "bigint"

/-! ## A row -/

theorem isCell_of_mem_segments {line : List Char} (hline : '`' ∉ line) {text : String}
    (h : text.toList ∈ (line.filter fun c => !isBlank c).splitOn '|') : IsCell text := by
  rw [← pieces_eq_splitOn] at h
  refine ⟨?_, not_mem_of_mem_pieces h⟩
  intro c hc
  obtain ⟨hmem, hblank⟩ := List.mem_filter.1 (mem_of_mem_pieces h hc).1
  refine ⟨by simpa using hblank, ?_⟩
  rintro rfl
  exact hline hmem

/-- Normalizing makes none of the characters that a cell may not hold. -/
theorem isCell_normalize {spelling : String} (h : IsCell spelling) :
    IsCell (ColumnType.normalize spelling) := by
  obtain ⟨hkept, hbar⟩ := h
  refine ⟨?_, ?_⟩
  · intro c hc
    constructor
    · cases hblank : isBlank c with
      | false => rfl
      | true =>
        have hmem := ColumnType.mem_of_mem_normalize hc (Or.inl hblank)
        rw [(hkept c hmem).1] at hblank
        exact absurd hblank (by simp)
    · rintro rfl
      have hmem := ColumnType.mem_of_mem_normalize hc (Or.inr (by decide))
      exact (hkept '`' hmem).2 rfl
  · intro hmem
    exact hbar (ColumnType.mem_of_mem_normalize hmem (Or.inr (by decide)))

theorem isNormalType_normalize {spelling : String} (h : IsCell spelling) :
    IsNormalType (ColumnType.normalize spelling) where
  isCell := isCell_normalize h
  normalize_eq := ColumnType.normalize_normalize spelling
  lower_eq := ColumnType.lower_normalize spelling
  ne_bigint := ColumnType.normalize_ne_bigint spelling

theorem Describes.wellFormed {line : List Char} (hline : '`' ∉ line) {column : String}
    {type : ColumnType} (h : Describes line column type) :
    IsColumnName column ∧ IsNormalType type := by
  obtain ⟨-, -, segments, rfl, -, hcolumn, hempty, hheader, hdivider, spelling, hspelling, rfl⟩ := h
  have hname := isCell_of_mem_segments hline (List.mem_of_getElem? hcolumn)
  have htype := isCell_of_mem_segments hline (List.mem_of_getElem? hspelling)
  exact ⟨⟨hname, hempty, hheader, hdivider⟩, isNormalType_normalize htype⟩

/-! ## The page -/

/-- A column of a page, with its type, is what one of its lines describes. -/
theorem exists_describes_of_mem {text column : String} {type : ColumnType}
    (h : (column, type) ∈ (read text).columns.toList) :
    ∃ line ∈ lines text.toList, Describes line column type := by
  rcases none_or_firstOf isSectionMarker (lines text.toList) with hnone | ⟨marker, after, hfirst⟩
  · rw [(read_description text).columns_of_none hnone] at h
    exact absurd h List.not_mem_nil
  · rw [columns_read hfirst] at h
    obtain ⟨line, hline, hrow⟩ := List.mem_filterMap.1 (OrderedMap.mem_of_mem_toList_ofList h)
    exact ⟨line, hfirst.mem_of_after hline, row?_eq_some_iff.1 hrow⟩

/-- **Every scraped column is well formed**: it has a name that can stand in a row and is neither a
header nor a divider, and a type in its normal form; and no two columns of a page share their
name. -/
theorem columns_read_wellFormed (text : String) :
    (∀ column type, (column, type) ∈ (read text).columns.toList →
        IsColumnName column ∧ IsNormalType type) ∧
      (read text).columns.keys.Nodup := by
  refine ⟨?_, OrderedMap.nodup_keys _⟩
  intro column type hmem
  obtain ⟨line, hline, hdescribes⟩ := exists_describes_of_mem hmem
  exact hdescribes.wellFormed (not_tick_of_mem_lines hline)

/-- Lower-casing a type looks at the whole of it: the last sigma has a form of its own. -/
example : (read "## Columns\n| `Id` | Big Int | |\n| Οδός | ΟΔΟΣ | |\n").columns =
    .ofList [("Id", "long"), ("Οδός", "οδος")] := by
  decide +kernel

end TableCatalog.Page
