import TableCatalog.Proofs.Page.Description
import TableCatalog.Proofs.Text.Lowercase

/-!
# A documented table survives the trip through a page

A sheet is what somebody wants to document: a title, the name of a table and one entry per column.
`Sheet.text` writes it as a page in the usual layout, and `name_and_columns_read_text` says that
reading the page gives back the name and the columns.

The side conditions of `Entry` and `Sheet` are the specification. A cell is read without white space
and backticks and ends at a bar, so a column and a spelling hold none of them; a description is
never read, so it may hold anything that does not end the line. What no side condition has to
exclude is that an entry looks like an announcement. The line begins with a bar, a space and a cell
without white space, so its lower case could only begin with `| column name` if behind the cell
`column` came an `n`, and there comes a bar; that lower-casing makes neither out of another
character is `lowerFrom_append`.
-/

set_option autoImplicit false

namespace TableCatalog.Page

open Text

/-! ## The layout -/

/-- Every character of a text is kept in a cell. -/
def Kept (text : String) : Prop := ∀ c ∈ text.toList, isBlank c = false ∧ c ≠ '`'

instance (text : String) : Decidable (Kept text) :=
  List.decidableBAll (fun c => isBlank c = false ∧ c ≠ '`') text.toList

/-- A text stays whole as a cell of a row. -/
def IsCell (text : String) : Prop := Kept text ∧ '|' ∉ text.toList

instance (text : String) : Decidable (IsCell text) :=
  inferInstanceAs (Decidable (Kept text ∧ '|' ∉ text.toList))

/-- A column with its documentation. -/
structure Entry where
  column : String
  spelling : String
  description : String
  column_isCell : IsCell column
  column_ne_empty : column ≠ ""
  column_ne_header : column ≠ "Column"
  column_no_divider : ¬ "--".toList <+: column.toList
  spelling_isCell : IsCell spelling
  description_oneLine : '\n' ∉ description.toList

/-- A table with its documentation. -/
structure Sheet where
  title : String
  name : String
  entries : List Entry
  title_oneLine : '\n' ∉ title.toList
  name_kept : Kept name
  name_ne_empty : name ≠ ""

/-- The two ways to announce columns: a heading above the header row, or the words of the header. -/
inductive Announcement
  | heading
  | header
deriving DecidableEq

/-- What stands above the rows, down to the divider. -/
def Announcement.lines : Announcement → List String
  | .heading => ["## Columns", "| Column | Type | Description |", "| --- | --- | --- |"]
  | .header => ["| Column Name | Column Type | Description |", "| --- | --- | --- |"]

def Entry.line (e : Entry) : String :=
  "| " ++ e.column ++ " | " ++ e.spelling ++ " | " ++ e.description ++ " |"

/-- What an entry documents. -/
def Entry.row (e : Entry) : String × ColumnType := (e.column, ColumnType.normalize e.spelling)

def Sheet.heading (s : Sheet) : String := "# " ++ s.title ++ " " ++ s.name

def Sheet.lines (s : Sheet) (a : Announcement) : List String :=
  [s.heading, ""] ++ a.lines ++ s.entries.map Entry.line

/-- The page of a sheet. The first of the blank lines at its end is its last line break. -/
def Sheet.text (s : Sheet) (a : Announcement) (blank : Nat) : String :=
  "\n".intercalate (s.lines a ++ List.replicate blank "")

/-! ## The lines of a page that was written line by line -/

/-- A text without its backticks. -/
def withoutTicks (cs : List Char) : List Char := cs.filter fun c => c ≠ '`'

@[simp]
theorem withoutTicks_nil : withoutTicks [] = [] := rfl

@[simp]
theorem withoutTicks_append (cs ds : List Char) :
    withoutTicks (cs ++ ds) = withoutTicks cs ++ withoutTicks ds :=
  List.filter_append cs ds

@[simp]
theorem withoutTicks_cons {c : Char} (h : c ≠ '`') (cs : List Char) :
    withoutTicks (c :: cs) = c :: withoutTicks cs :=
  List.filter_cons_of_pos (by simpa using h)

theorem withoutTicks_of_kept {text : String} (h : Kept text) :
    withoutTicks text.toList = text.toList := by
  refine List.filter_eq_self.2 fun c hc => ?_
  simpa using (h c hc).2

/-- Nothing of a kept text is lost where white space and backticks are. -/
theorem filter_of_kept {text : String} (h : Kept text) :
    (text.toList.filter fun c => !isBlank c) = text.toList := by
  refine List.filter_eq_self.2 fun c hc => ?_
  simp [(h c hc).1]

theorem not_tick_of_mem_lines {text line : List Char} (h : line ∈ lines text) : '`' ∉ line := by
  obtain ⟨raw, -, rfl⟩ := List.mem_map.1 h
  intro hmem
  have htick := (List.mem_filter.1 hmem).2
  simp at htick

theorem lines_intercalate {texts : List String} (hne : texts ≠ [])
    (hline : ∀ t ∈ texts, '\n' ∉ t.toList) (htight : ∀ t ∈ texts, trim t.toList = t.toList) :
    lines ("\n".intercalate texts).toList =
      ((texts.map String.toList).filter fun l => !l.isEmpty).map withoutTicks := by
  have hcut : pieces '\n' ("\n".intercalate texts).toList = texts.map String.toList := by
    rw [pieces_eq_splitOn, String.toList_intercalate]
    refine List.splitOn_intercalate '\n' ?_ (by simpa using hne)
    simpa using hline
  have htrim : (texts.map String.toList).map trim = texts.map String.toList := by
    rw [List.map_map]
    exact List.map_congr_left htight
  rw [lines, hcut, htrim]
  rfl

/-! ## The heading -/

namespace Sheet

theorem toList_heading (s : Sheet) :
    s.heading.toList = ('#' :: ' ' :: s.title.toList) ++ ' ' :: s.name.toList := by
  simp [heading]

theorem oneLine_heading (s : Sheet) : '\n' ∉ s.heading.toList := by
  have hname : '\n' ∉ s.name.toList := fun h => absurd (s.name_kept _ h).1 (by decide)
  simp [toList_heading, s.title_oneLine, hname]

theorem trim_heading (s : Sheet) : trim s.heading.toList = s.heading.toList := by
  rw [toList_heading]
  refine trim_eq_self (by simp; decide) fun c hc => ?_
  rcases List.eq_nil_or_concat s.name.toList with hnil | ⟨front, d, hname⟩
  · exact absurd (by simpa using hnil) s.name_ne_empty
  · obtain rfl : d = c := by simpa [hname, List.getLast?_cons, List.getLast?_append] using hc
    exact (s.name_kept d (by simp [hname])).1

theorem withoutTicks_heading (s : Sheet) :
    withoutTicks s.heading.toList =
      ('#' :: ' ' :: withoutTicks s.title.toList) ++ ' ' :: s.name.toList := by
  simp [toList_heading, withoutTicks_of_kept s.name_kept]

theorem nameIn?_heading (s : Sheet) :
    Reading.nameIn? (withoutTicks s.heading.toList) = some s.name := by
  have hword : IsLastWord s.name.toList (withoutTicks s.heading.toList) := by
    have hlast : IsLastWord s.name.toList (s.name.toList ++ []) :=
      isLastWord_append (by simpa using s.name_ne_empty) (fun c hc => (s.name_kept c hc).1)
        (by simp)
    rw [List.append_nil] at hlast
    rw [withoutTicks_heading]
    exact hlast.behind _ (by decide)
  have hheading : isHeading (withoutTicks s.heading.toList) = true := by
    rw [withoutTicks_heading]
    rfl
  rw [Reading.nameIn?, if_pos hheading, headingName?, getLast?_words_eq_some_iff.2 hword,
    Option.map_some, String.ofList_toList]

/-- The second character of a heading is a space, and no marker's is one behind a hash. -/
theorem isSectionMarker_heading (s : Sheet) :
    isSectionMarker (withoutTicks s.heading.toList) = false := by
  rw [withoutTicks_heading]
  rfl

end Sheet

/-! ## A row -/

namespace Entry

theorem toList_line (e : Entry) :
    e.line.toList = '|' :: ' ' :: (e.column.toList ++ ' ' :: '|' :: ' ' ::
      (e.spelling.toList ++ ' ' :: '|' :: ' ' :: (e.description.toList ++ [' ', '|']))) := by
  simp [line]

theorem oneLine_line (e : Entry) : '\n' ∉ e.line.toList := by
  have hcell {text : String} (h : IsCell text) : '\n' ∉ text.toList :=
    fun hmem => absurd (h.1 _ hmem).1 (by decide)
  simp [toList_line, hcell e.column_isCell, hcell e.spelling_isCell, e.description_oneLine]

theorem trim_line (e : Entry) : trim e.line.toList = e.line.toList := by
  rw [toList_line]
  refine trim_eq_self (by simp; decide) fun c hc => ?_
  obtain rfl : '|' = c := by simpa [List.getLast?_cons, List.getLast?_append] using hc
  decide

theorem withoutTicks_line (e : Entry) :
    withoutTicks e.line.toList = '|' :: ' ' :: (e.column.toList ++ ' ' :: '|' :: ' ' ::
      (e.spelling.toList ++ ' ' :: '|' :: ' ' ::
        (withoutTicks e.description.toList ++ [' ', '|']))) := by
  simp [toList_line, withoutTicks_of_kept e.column_isCell.1,
    withoutTicks_of_kept e.spelling_isCell.1]

/-- Behind a bar, a space and a cell without white space comes a bar, and in the markers comes a
letter. Lower-casing neither makes nor moves a space or a bar. -/
theorem isSectionMarker_line (e : Entry) :
    isSectionMarker (withoutTicks e.line.toList) = false := by
  have hblank : ' ' ∉ e.column.toList := fun h => absurd (e.column_isCell.1 _ h).1 (by decide)
  rw [withoutTicks_line, isSectionMarker]
  generalize ' ' :: (e.spelling.toList ++ _) = more
  obtain ⟨es, hlower, hfrom⟩ :=
    lowerFrom_append [' ', '|'] e.column.toList (' ' :: '|' :: more)
  have hes : ' ' ∉ es := fun h => hblank (hfrom ' ' h (by decide) (by decide))
  have hlowered : lower ('|' :: ' ' :: (e.column.toList ++ ' ' :: '|' :: more)) =
      '|' :: ' ' :: (es ++ ' ' :: '|' ::
        lowerFrom ('|' :: ' ' :: (e.column.toList.reverse ++ [' ', '|'])) more) :=
    congrArg (fun cs => '|' :: ' ' :: cs) hlower
  rw [hlowered]
  generalize lowerFrom _ more = after
  -- the beginnings `## columns` and `|column name` already differ in their first two characters
  have hnot : ¬ "column name".toList <+: es ++ ' ' :: '|' :: after := by
    rintro ⟨rest, hrest⟩
    have hsplit : "column".toList ++ ' ' :: ("name".toList ++ rest) = es ++ ' ' :: '|' :: after :=
      hrest
    have hcut := congrArg (pieces ' ') hsplit
    rw [pieces_append_cons (by decide), pieces_append_cons hes, List.cons.injEq] at hcut
    obtain rfl := hcut.1
    exact absurd (List.append_cancel_left hsplit) (by simp)
  rw [Bool.eq_false_iff, Ne, List.any_eq_true]
  rintro ⟨marker, hmarker, hstarts⟩
  rw [startsWith, List.isPrefixOf_iff_prefix] at hstarts
  simp only [sectionMarkers, List.mem_cons, List.not_mem_nil, or_false] at hmarker
  rcases hmarker with rfl | rfl | rfl
  · simp at hstarts
  · exact hnot (by simpa using hstarts)
  · simp at hstarts

theorem segmentsGive_line (e : Entry) :
    SegmentsGive (withoutTicks e.line.toList) e.column (ColumnType.normalize e.spelling) := by
  have hcut : ((withoutTicks e.line.toList).filter fun c => !isBlank c).splitOn '|' =
      [] :: e.column.toList :: e.spelling.toList ::
        pieces '|' ((withoutTicks e.description.toList).filter (fun c => !isBlank c) ++ ['|']) := by
    have hkept : ((withoutTicks e.line.toList).filter fun c => !isBlank c) =
        [] ++ '|' :: (e.column.toList ++ '|' :: (e.spelling.toList ++ '|' ::
          ((withoutTicks e.description.toList).filter (fun c => !isBlank c) ++ ['|']))) := by
      have hspace : isBlank ' ' = true := by decide
      have hbar : isBlank '|' = false := by decide
      simp [withoutTicks_line, hspace, hbar, filter_of_kept e.column_isCell.1,
        filter_of_kept e.spelling_isCell.1]
    rw [hkept, ← pieces_eq_splitOn, pieces_append_cons (by simp),
      pieces_append_cons e.column_isCell.2, pieces_append_cons e.spelling_isCell.2]
  refine ⟨_, hcut.symm, ?_, rfl, e.column_ne_empty, e.column_ne_header, e.column_no_divider,
    e.spelling, rfl, rfl⟩
  simp [length_pieces]

theorem row?_line (e : Entry) : row? (withoutTicks e.line.toList) = some e.row := by
  refine row?_eq_some_iff.2 ⟨?_, e.isSectionMarker_line, e.segmentsGive_line⟩
  rw [withoutTicks_line]
  rfl

end Entry

/-! ## The page -/

theorem Announcement.lines_fixed (a : Announcement) : ∀ t ∈ a.lines,
    '\n' ∉ t.toList ∧ trim t.toList = t.toList ∧ withoutTicks t.toList = t.toList ∧
      t.toList.isEmpty = false := by
  cases a <;> decide

/-- The first line of an announcement is a marker, and the others are rows that describe nothing. -/
theorem Announcement.lines_eq_cons (a : Announcement) : ∃ marker others,
    a.lines = marker :: others ∧ isSectionMarker marker.toList = true ∧
      ∀ t ∈ others, row? t.toList = none := by
  cases a with
  | heading => exact ⟨_, _, rfl, by decide, by decide⟩
  | header => exact ⟨_, _, rfl, by decide, by decide⟩

namespace Sheet

/-- Of the written lines only the blank ones are dropped. -/
theorem nonblank_lines (s : Sheet) (a : Announcement) (blank : Nat) :
    (((s.lines a ++ List.replicate blank "").map String.toList).filter fun l => !l.isEmpty) =
      s.heading.toList :: (a.lines ++ s.entries.map Entry.line).map String.toList := by
  have hheading : s.heading.toList.isEmpty = false := by simp [toList_heading]
  have hrest : ((a.lines ++ s.entries.map Entry.line).map String.toList).filter
      (fun l => !l.isEmpty) = (a.lines ++ s.entries.map Entry.line).map String.toList := by
    refine List.filter_eq_self.2 fun l hl => ?_
    simp only [List.map_append, List.mem_append, List.mem_map] at hl
    rcases hl with ⟨t, ht, rfl⟩ | ⟨_, ⟨e, -, rfl⟩, rfl⟩
    · rw [(a.lines_fixed t ht).2.2.2, Bool.not_false]
    · simp [Entry.toList_line]
  have hparts : s.lines a ++ List.replicate blank "" =
      s.heading :: "" :: ((a.lines ++ s.entries.map Entry.line) ++ List.replicate blank "") := by
    simp [Sheet.lines]
  rw [hparts, List.map_cons, List.map_cons, List.map_append,
    List.filter_cons_of_pos (by simp [hheading]), List.filter_cons_of_neg (by simp),
    List.filter_append, hrest]
  simp

theorem lines_text (s : Sheet) (a : Announcement) (blank : Nat) :
    Page.lines (s.text a blank).toList = withoutTicks s.heading.toList ::
      (a.lines.map String.toList ++ s.entries.map fun e => withoutTicks e.line.toList) := by
  have hall : ∀ t ∈ s.lines a ++ List.replicate blank "",
      '\n' ∉ t.toList ∧ trim t.toList = t.toList := by
    intro t ht
    simp only [Sheet.lines, List.mem_append, List.mem_cons, List.not_mem_nil, or_false,
      List.mem_map, List.mem_replicate] at ht
    rcases ht with (((rfl | rfl) | ht) | ⟨e, -, rfl⟩) | ⟨-, rfl⟩
    · exact ⟨s.oneLine_heading, s.trim_heading⟩
    · exact ⟨by simp, rfl⟩
    · exact ⟨(a.lines_fixed t ht).1, (a.lines_fixed t ht).2.1⟩
    · exact ⟨e.oneLine_line, e.trim_line⟩
    · exact ⟨by simp, rfl⟩
  have hticks : (a.lines.map String.toList).map withoutTicks = a.lines.map String.toList := by
    rw [List.map_map]
    exact List.map_congr_left fun t ht => (a.lines_fixed t ht).2.2.1
  rw [text, lines_intercalate (by simp [Sheet.lines]) (fun t ht => (hall t ht).1)
    fun t ht => (hall t ht).2, nonblank_lines, List.map_cons, List.map_append, List.map_append,
    hticks, List.map_map, List.map_map]
  rfl

/-- **A documented table survives the trip through a page**: reading the page of a sheet gives its
name and, in the order of the entries, its columns, where a column that is documented twice keeps
its first place and takes its last type. -/
theorem name_and_columns_read_text (s : Sheet) (a : Announcement) (blank : Nat) :
    (read (s.text a blank)).name = some s.name ∧
      (read (s.text a blank)).columns = .ofList (s.entries.map Entry.row) := by
  obtain ⟨marker, others, hannounce, hmarker, hothers⟩ := a.lines_eq_cons
  have hlines := s.lines_text a blank
  rw [hannounce] at hlines
  constructor
  · rw [name_read, hlines, List.findSome?_cons, nameIn?_heading]
  · have hfirst : FirstOf isSectionMarker (Page.lines (s.text a blank).toList) marker.toList
        (others.map String.toList ++ s.entries.map fun e => withoutTicks e.line.toList) :=
      ⟨[withoutTicks s.heading.toList], hlines, by simp [isSectionMarker_heading], hmarker⟩
    have hnothing : (others.map String.toList).filterMap row? = [] := by
      simpa [List.filterMap_eq_nil_iff] using hothers
    have hrows : (s.entries.map fun e => withoutTicks e.line.toList).filterMap row? =
        s.entries.map Entry.row := by
      rw [List.filterMap_map, ← List.filterMap_eq_map]
      refine List.filterMap_congr fun e _ => ?_
      rw [Function.comp_apply, e.row?_line, Function.comp_apply]
    rw [columns_read hfirst, List.filterMap_append, hnothing, hrows, List.nil_append]

/-- A description may hold bars, backticks and what announces columns elsewhere. -/
example : ∃ s : Sheet, s.text .header 1 =
    "# The `sign-ins` table Signins\n\n| Column Name | Column Type | Description |\n" ++
      "| --- | --- | --- |\n| Id | BigInt | see `Key` | ## Columns | |\n" :=
  ⟨{  title := "The `sign-ins` table"
      name := "Signins"
      entries := [{
        column := "Id"
        spelling := "BigInt"
        description := "see `Key` | ## Columns |"
        column_isCell := by decide
        column_ne_empty := by simp
        column_ne_header := by simp
        column_no_divider := by decide
        spelling_isCell := by decide
        description_oneLine := by simp }]
      title_oneLine := by decide
      name_kept := by decide
      name_ne_empty := by simp },
    by decide⟩

end Sheet

end TableCatalog.Page
