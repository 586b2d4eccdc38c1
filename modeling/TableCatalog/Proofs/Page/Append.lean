import TableCatalog.Proofs.Page.Description

/-!
# A page in two parts

A page may be cut behind any of its lines and read in two parts. The name is the first part's, if it
has one. The columns are those of the first part with those of the second laid over them, as the
pages of one table are merged; only, the second part has to know whether columns have been announced.
Nothing of the first part is needed for that but whether it has a section marker, however far back:
where it has one, the second part is read below a marker of its own (`read_append_of_endsLine`).

So a page that grows at its end keeps its name, and its columns keep their places.
-/

set_option autoImplicit false

namespace TableCatalog.Page

open Text

/-- A text is empty or ends with a line break. -/
def EndsLine (text : String) : Prop := text = "" ∨ ∃ body, text = body ++ "\n"

/-- The heading that announces columns, as a line of its own. -/
def announcement : String := "## Columns\n"

/-! ## The lines -/

theorem endsLine_announcement : EndsLine announcement := Or.inr ⟨"## Columns", rfl⟩

theorem lines_announcement : lines announcement.toList = ["## Columns".toList] := by
  decide

theorem lines_append {front : String} (h : EndsLine front) (after : String) :
    lines (front ++ after).toList = lines front.toList ++ lines after.toList := by
  rcases h with rfl | ⟨body, rfl⟩
  · rw [String.empty_append]
    rfl
  · have hbreak : "\n".toList = ['\n'] := by decide
    -- behind the break there is a blank line in the one and the second part in the other
    have hfront : pieces '\n' (body ++ "\n").toList = pieces '\n' body.toList ++ [[]] := by
      rw [String.toList_append, hbreak]
      exact pieces_append '\n' body.toList []
    have hwhole : pieces '\n' (body ++ "\n" ++ after).toList =
        pieces '\n' body.toList ++ pieces '\n' after.toList := by
      rw [String.toList_append, String.toList_append, hbreak, List.append_assoc]
      exact pieces_append '\n' body.toList after.toList
    rw [lines, lines, lines, hwhole, hfront]
    simp only [List.map_append, List.filter_append]
    simp [trim, trimStart, trimEnd]

theorem FirstOf.append {test : List Char → Bool} {lines after : List (List Char)}
    {line : List Char} (h : FirstOf test lines line after) (more : List (List Char)) :
    FirstOf test (lines ++ more) line (after ++ more) := by
  obtain ⟨before, rfl, hbefore, hline⟩ := h
  exact ⟨before, by simp, hbefore, hline⟩

theorem FirstOf.behind {test : List Char → Bool} {lines after front : List (List Char)}
    {line : List Char} (h : FirstOf test lines line after)
    (hfront : ∀ l ∈ front, test l = false) : FirstOf test (front ++ lines) line after := by
  obtain ⟨before, rfl, hbefore, hline⟩ := h
  refine ⟨front ++ before, by simp, ?_, hline⟩
  intro l hl
  rcases List.mem_append.1 hl with hl | hl
  · exact hfront l hl
  · exact hbefore l hl

/-! ## The name and the columns -/

theorem name_read_append {front : String} (h : EndsLine front) (after : String) :
    (read (front ++ after)).name = (read front).name.or (read after).name := by
  rw [name_read, name_read, name_read, lines_append h, List.findSome?_append]

/-- Where nothing has been announced, the second part is on its own. -/
theorem columns_read_append_of_none {front : String} (h : EndsLine front) (after : String)
    (hnone : ∀ line ∈ lines front.toList, isSectionMarker line = false) :
    (read front).columns = .empty ∧ (read (front ++ after)).columns = (read after).columns := by
  refine ⟨(read_description front).columns_of_none hnone, ?_⟩
  rcases none_or_firstOf isSectionMarker (lines after.toList) with hno | ⟨line, rest, hfirst⟩
  · rw [(read_description after).columns_of_none hno]
    apply (read_description (front ++ after)).columns_of_none
    intro line hline
    rw [lines_append h] at hline
    rcases List.mem_append.1 hline with hline | hline
    · exact hnone line hline
    · exact hno line hline
  · have hwhole := hfirst.behind hnone
    rw [← lines_append h] at hwhole
    rw [columns_read hwhole, columns_read hfirst]

/-- Below an announcement every row of a text counts. -/
theorem columns_read_announced (after : String) :
    (read (announcement ++ after)).columns = .ofList ((lines after.toList).filterMap row?) := by
  have hfirst : FirstOf isSectionMarker (lines (announcement ++ after).toList)
      "## Columns".toList (lines after.toList) := by
    rw [lines_append endsLine_announcement, lines_announcement]
    exact ⟨[], rfl, by simp, by decide⟩
  exact columns_read hfirst

theorem columns_read_append_of_marker {front : String} (h : EndsLine front) (after : String)
    {line : List Char} {rest : List (List Char)}
    (hfirst : FirstOf isSectionMarker (lines front.toList) line rest) :
    (read (front ++ after)).columns =
      (read front).columns.overlay (read (announcement ++ after)).columns := by
  have hwhole := hfirst.append (lines after.toList)
  rw [← lines_append h] at hwhole
  rw [columns_read hwhole, columns_read hfirst, columns_read_announced, List.filterMap_append,
    OrderedMap.ofList_append]

/-- **A page is read in two parts as it is read in one**, and what the first part gives stays: the
name, and the columns in their places. -/
theorem read_append_of_endsLine {front : String} (h : EndsLine front) (after : String) :
    (read (front ++ after)).name = (read front).name.or (read after).name ∧
      ((∀ line ∈ lines front.toList, isSectionMarker line = false) →
        (read (front ++ after)).columns =
          (read front).columns.overlay (read after).columns) ∧
      ((∃ line ∈ lines front.toList, isSectionMarker line = true) →
        (read (front ++ after)).columns =
          (read front).columns.overlay (read (announcement ++ after)).columns) ∧
      (∀ name, (read front).name = some name → (read (front ++ after)).name = some name) ∧
      (read front).columns.keys <+: (read (front ++ after)).columns.keys := by
  have hname := name_read_append h after
  have hkeeps (name : String) (hfront : (read front).name = some name) :
      (read (front ++ after)).name = some name := by
    rw [hname, hfront, Option.some_or]
  rcases none_or_firstOf isSectionMarker (lines front.toList) with hnone | ⟨line, rest, hfirst⟩
  · obtain ⟨hempty, hcolumns⟩ := columns_read_append_of_none h after hnone
    have hoverlay : (read (front ++ after)).columns =
        (read front).columns.overlay (read after).columns := by
      rw [hempty, hcolumns, OrderedMap.empty_overlay]
    refine ⟨hname, fun _ => hoverlay, ?_, hkeeps, ?_⟩
    · intro ⟨line, hline, hmarker⟩
      rw [hnone line hline] at hmarker
      exact absurd hmarker (by simp)
    · rw [hoverlay]
      exact OrderedMap.keys_prefix_overlay _ _
  · have hoverlay := columns_read_append_of_marker h after hfirst
    refine ⟨hname, ?_, fun _ => hoverlay, hkeeps, ?_⟩
    · intro hnone
      exact absurd hnone hfirst.not_none
    · rw [hoverlay]
      exact OrderedMap.keys_prefix_overlay _ _

/-- A second part repeats a column of the first, below its marker. -/
theorem read_append_of_endsLine_secondPart :
    let front := "# T\n## Columns\n| A | int | a |\n| B | real | b |\n"
    let after := "# U\n| A | long | a |\n| C | guid | c |"
    EndsLine front ∧ (∃ line ∈ lines front.toList, isSectionMarker line = true) ∧
      (read (front ++ after)).name = some "T" ∧
      (read (front ++ after)).columns = .ofList [("A", "long"), ("B", "real"), ("C", "guid")] := by
  intro front after
  have hends : EndsLine front := Or.inr ⟨"# T\n## Columns\n| A | int | a |\n| B | real | b |", rfl⟩
  have hmarker : ∃ line ∈ lines front.toList, isSectionMarker line = true :=
    ⟨"## Columns".toList, by decide, by decide⟩
  obtain ⟨-, -, hcolumns, hname, -⟩ := read_append_of_endsLine hends after
  have hfront : (read front).name = some "T" := by decide
  have hoverlay : (read front).columns.overlay (read (announcement ++ after)).columns =
      .ofList [("A", "long"), ("B", "real"), ("C", "guid")] := by
    decide
  exact ⟨hends, hmarker, hname "T" hfront, (hcolumns hmarker).trans hoverlay⟩

end TableCatalog.Page
