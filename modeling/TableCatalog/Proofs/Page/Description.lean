import TableCatalog.Page.Reading
import TableCatalog.Proofs.OrderedMap
import TableCatalog.Proofs.Text.Blank

/-!
# What a page says

`Page.read` goes through a page once and carries a name, a switch and a map along. `Description`
says what it has to find without going through anything: which line names the table, behind which
line the rows count, what one row says (`Describes`), and that a column stands at its first row and
has the type of its last one. A description determines what it describes (`Description.unique`), so
`read_eq_iff` is the whole of the reader.

The fold is taken apart along its three fields. The name is found by the first heading, whatever the
switch says; the switch never goes back; and once it is on, the columns are a list of writes.
-/

set_option autoImplicit false

namespace TableCatalog.Page

open Text

/-- Without white space and cut at its bars, a line has four segments or more; the second is
`column`, which is a name, and the third spells `type`. -/
def SegmentsGive (line : List Char) (column : String) (type : ColumnType) : Prop :=
  ∃ segments, segments = (line.filter fun c => !isBlank c).splitOn '|' ∧ 4 ≤ segments.length ∧
    segments[1]? = some column.toList ∧ column ≠ "" ∧ column ≠ "Column" ∧
    ¬ "--".toList <+: column.toList ∧
    ∃ spelling, segments[2]? = some spelling.toList ∧ type = ColumnType.normalize spelling

/-- A line is a row, announces nothing itself, and gives `column` the type `type`. -/
def Describes (line : List Char) (column : String) (type : ColumnType) : Prop :=
  isRow line = true ∧ isSectionMarker line = false ∧ SegmentsGive line column type

/-- `rows` are what the lines say that say something, in their order. -/
inductive Rows : List (List Char) → List (String × ColumnType) → Prop
  | nil : Rows [] []
  | row {line : List Char} {lines : List (List Char)} {column : String} {type : ColumnType}
      {rows : List (String × ColumnType)} :
      Describes line column type → Rows lines rows → Rows (line :: lines) ((column, type) :: rows)
  | other {line : List Char} {lines : List (List Char)} {rows : List (String × ColumnType)} :
      (∀ column type, ¬ Describes line column type) → Rows lines rows → Rows (line :: lines) rows

/-- `line` is the first of the lines that passes a test, and `after` are the lines behind it. -/
def FirstOf (test : List Char → Bool) (lines : List (List Char)) (line : List Char)
    (after : List (List Char)) : Prop :=
  ∃ before, lines = before ++ line :: after ∧ (∀ l ∈ before, test l = false) ∧ test line = true

theorem FirstOf.mem {test : List Char → Bool} {lines after : List (List Char)} {line : List Char}
    (h : FirstOf test lines line after) : line ∈ lines := by
  obtain ⟨before, rfl, -⟩ := h
  exact List.mem_append_right before List.mem_cons_self

theorem FirstOf.mem_of_after {test : List Char → Bool} {lines after : List (List Char)}
    {line l : List Char} (h : FirstOf test lines line after) (hl : l ∈ after) : l ∈ lines := by
  obtain ⟨before, rfl, -⟩ := h
  exact List.mem_append_right before (List.mem_cons_of_mem line hl)

theorem FirstOf.passes {test : List Char → Bool} {lines after : List (List Char)}
    {line : List Char} (h : FirstOf test lines line after) : test line = true := by
  obtain ⟨-, -, -, hline⟩ := h
  exact hline

theorem FirstOf.not_none {test : List Char → Bool} {lines after : List (List Char)}
    {line : List Char} (h : FirstOf test lines line after) :
    ¬ ∀ l ∈ lines, test l = false := by
  intro hnone
  have hpasses := h.passes
  rw [hnone line h.mem] at hpasses
  exact absurd hpasses (by simp)

/-- `name` and `columns` are what the lines of a page say. -/
structure Description (lines : List (List Char)) (name : Option String) (columns : Columns) :
    Prop where
  /-- A page without a heading has no name. -/
  name_of_none : (∀ line ∈ lines, isHeading line = false) → name = none
  /-- The first heading names the table by its last word. -/
  name_of_heading {line : List Char} {after : List (List Char)} :
    FirstOf isHeading lines line after → ∃ word, IsLastWord word line ∧ name = some (.ofList word)
  /-- A page without a section marker has no columns. -/
  columns_of_none : (∀ line ∈ lines, isSectionMarker line = false) → columns = .empty
  /-- Behind the first section marker each row writes a column: the first row of a column gives the
  place, the last one the type. -/
  columns_of_marker {line : List Char} {after : List (List Char)} :
    FirstOf isSectionMarker lines line after →
      ∃ rows, Rows after rows ∧ columns.keys = (rows.map Prod.fst).eraseDups ∧
        ∀ column, columns.get? column = rows.reverse.lookup column

/-! ## A description determines what it describes -/

theorem Describes.unique {line : List Char} {column column' : String} {type type' : ColumnType}
    (h : Describes line column type) (h' : Describes line column' type') :
    column = column' ∧ type = type' := by
  obtain ⟨-, -, segments, rfl, -, hcolumn, -, -, -, spelling, hspelling, rfl⟩ := h
  obtain ⟨-, -, segments', rfl, -, hcolumn', -, -, -, spelling', hspelling', rfl⟩ := h'
  rw [hcolumn, Option.some.injEq, String.toList_inj] at hcolumn'
  rw [hspelling, Option.some.injEq, String.toList_inj] at hspelling'
  rw [hcolumn', hspelling']
  exact ⟨rfl, rfl⟩

theorem Rows.unique {lines : List (List Char)} {rows rows' : List (String × ColumnType)}
    (h : Rows lines rows) (h' : Rows lines rows') : rows = rows' := by
  induction h generalizing rows' with
  | nil => cases h'; rfl
  | row hrow _ ih =>
    cases h' with
    | row hrow' hrest' =>
      obtain ⟨rfl, rfl⟩ := hrow.unique hrow'
      rw [ih hrest']
    | other hno _ => exact absurd hrow (hno _ _)
  | other hno _ ih =>
    -- a line that says nothing to one of the two says nothing to the other
    cases h' with
    | row hrow' _ => exact absurd hrow' (hno _ _)
    | other _ hrest' => exact ih hrest'

/-- Either no line passes a test, or there is a first one that does. -/
theorem none_or_firstOf (test : List Char → Bool) (lines : List (List Char)) :
    (∀ line ∈ lines, test line = false) ∨ ∃ line after, FirstOf test lines line after := by
  induction lines with
  | nil => exact Or.inl (by simp)
  | cons line lines ih =>
    cases hline : test line with
    | true => exact Or.inr ⟨line, lines, [], rfl, by simp, hline⟩
    | false =>
      rcases ih with hnone | ⟨found, after, before, rfl, hbefore, hfound⟩
      · exact Or.inl (List.forall_mem_cons.2 ⟨hline, hnone⟩)
      · exact Or.inr ⟨found, after, line :: before, rfl, List.forall_mem_cons.2 ⟨hline, hbefore⟩,
          hfound⟩

theorem Description.unique {lines : List (List Char)} {name name' : Option String}
    {columns columns' : Columns} (h : Description lines name columns)
    (h' : Description lines name' columns') : name = name' ∧ columns = columns' := by
  constructor
  · rcases none_or_firstOf isHeading lines with hnone | ⟨line, after, hfirst⟩
    · rw [h.name_of_none hnone, h'.name_of_none hnone]
    · obtain ⟨word, hword, rfl⟩ := h.name_of_heading hfirst
      obtain ⟨word', hword', rfl⟩ := h'.name_of_heading hfirst
      rw [hword.unique hword']
  · rcases none_or_firstOf isSectionMarker lines with hnone | ⟨line, after, hfirst⟩
    · rw [h.columns_of_none hnone, h'.columns_of_none hnone]
    · obtain ⟨rows, hrows, hkeys, hget⟩ := h.columns_of_marker hfirst
      obtain ⟨rows', hrows', hkeys', hget'⟩ := h'.columns_of_marker hfirst
      obtain rfl := hrows.unique hrows'
      exact OrderedMap.eq_of_keys_of_get? (hkeys.trans hkeys'.symm) fun column =>
        (hget column).trans (hget' column).symm

/-! ## One row -/

/-- What a line writes once columns have been announced. -/
def row? (line : List Char) : Option (String × ColumnType) :=
  if isSectionMarker line then none else if isRow line then column? line else none

theorem namesColumn_iff {column : String} :
    namesColumn column.toList = true ↔
      column ≠ "" ∧ column ≠ "Column" ∧ ¬ "--".toList <+: column.toList := by
  have hempty : column.toList = [] ↔ column = "" := String.toList_eq_nil_iff
  have hheader : column.toList = "Column".toList ↔ column = "Column" := String.toList_inj
  rw [namesColumn, startsWith, Bool.and_eq_true, Bool.and_eq_true, Bool.not_eq_true',
    Bool.not_eq_true', Bool.not_eq_true', beq_eq_false_iff_ne, Ne, hheader,
    List.isEmpty_eq_false_iff, Ne, hempty, and_assoc, Bool.eq_false_iff, Ne,
    List.isPrefixOf_iff_prefix]

/-- Matching on the cells is asking for their number and for the second and the third. -/
theorem column?_eq_some_iff {line : List Char} {column : String} {type : ColumnType} :
    column? line = some (column, type) ↔ SegmentsGive line column type := by
  rw [column?, cells, pieces_eq_splitOn, SegmentsGive]
  generalize (line.filter fun c => !isBlank c).splitOn '|' = segments
  match segments with
  | [] => simp
  | [_] => simp
  | [_, _] => simp
  | [_, _, _] => simp
  | first :: name :: spelling :: fourth :: more =>
    dsimp only
    constructor
    · intro h
      split at h
      · next hname =>
        obtain ⟨rfl, rfl⟩ : String.ofList name = column ∧
            ColumnType.normalize (String.ofList spelling) = type := by simpa using h
        have hlist : name = (String.ofList name).toList := String.toList_ofList.symm
        obtain ⟨hempty, hheader, hdivider⟩ := namesColumn_iff.1 (hlist ▸ hname)
        refine ⟨_, rfl, by simp, ?_, hempty, hheader, hdivider, .ofList spelling, ?_, rfl⟩
        · exact congrArg some hlist
        · exact congrArg some String.toList_ofList.symm
      · simp at h
    · rintro ⟨_, rfl, -, hname, hempty, hheader, hdivider, text, htext, rfl⟩
      obtain rfl : name = column.toList := Option.some.inj hname
      obtain rfl : spelling = text.toList := Option.some.inj htext
      rw [if_pos (namesColumn_iff.2 ⟨hempty, hheader, hdivider⟩), String.ofList_toList,
        String.ofList_toList]

theorem row?_eq_some_iff {line : List Char} {column : String} {type : ColumnType} :
    row? line = some (column, type) ↔ Describes line column type := by
  rw [Describes, ← column?_eq_some_iff, row?]
  cases isSectionMarker line <;> cases isRow line <;> simp

theorem rows_filterMap (lines : List (List Char)) : Rows lines (lines.filterMap row?) := by
  induction lines with
  | nil => exact .nil
  | cons line lines ih =>
    cases h : row? line with
    | none =>
      rw [List.filterMap_cons_none h]
      refine .other (fun column type hrow => ?_) ih
      rw [← row?_eq_some_iff, h] at hrow
      simp at hrow
    | some found =>
      rw [List.filterMap_cons_some h]
      exact .row (row?_eq_some_iff.1 h) ih

/-! ## The three fields of a reading -/

namespace Reading

/-- The name that a line gives to a page without one. -/
def nameIn? (line : List Char) : Option String :=
  if isHeading line then headingName? line else none

theorem noteHeading_eq (r : Reading) (line : List Char) :
    r.noteHeading line = { r with name := r.name.or (nameIn? line) } := by
  obtain ⟨name, inside, columns, skipped⟩ := r
  unfold noteHeading nameIn?
  -- a name that is there stays, and a line that is no heading gives none
  cases name <;> cases isHeading line <;> rfl

theorem name_step (r : Reading) (line : List Char) :
    (r.step line).name = r.name.or (nameIn? line) := by
  unfold step noteRow
  rw [noteHeading_eq]
  dsimp only
  split
  · rfl
  · split
    · split <;> rfl
    · rfl

theorem inside_step (r : Reading) (line : List Char) :
    (r.step line).inside = (r.inside || isSectionMarker line) := by
  unfold step noteRow
  rw [noteHeading_eq]
  dsimp only
  split
  · next hmarker => simp [hmarker]
  · next hmarker =>
    simp only [hmarker, Bool.or_false]
    split
    · split <;> rfl
    · rfl

theorem columns_step (r : Reading) (line : List Char) :
    (r.step line).columns =
      match if r.inside then row? line else none with
      | some (column, type) => r.columns.insert column type
      | none => r.columns := by
  unfold step noteRow row?
  rw [noteHeading_eq]
  cases r.inside <;> cases isSectionMarker line <;> cases isRow line <;> try rfl
  dsimp only
  cases column? line <;> rfl

theorem name_foldl (r : Reading) (lines : List (List Char)) :
    (lines.foldl step r).name =
      r.name.or (lines.findSome? nameIn?) := by
  induction lines generalizing r with
  | nil => simp
  | cons line lines ih =>
    rw [List.foldl_cons, ih, name_step, Option.or_assoc, List.findSome?_cons]
    cases nameIn? line <;> rfl

theorem columns_foldl_before (r : Reading) (lines : List (List Char)) (hr : r.inside = false)
    (hlines : ∀ line ∈ lines, isSectionMarker line = false) :
    (lines.foldl step r).columns = r.columns ∧ (lines.foldl step r).inside = false := by
  induction lines generalizing r with
  | nil => exact ⟨rfl, hr⟩
  | cons line lines ih =>
    obtain ⟨hline, hlines⟩ := List.forall_mem_cons.1 hlines
    have hinside : (r.step line).inside = false := by rw [inside_step, hr, hline]; rfl
    obtain ⟨hcolumns, hlast⟩ := ih (r.step line) hinside hlines
    refine ⟨?_, hlast⟩
    rw [List.foldl_cons, hcolumns, columns_step, hr]
    rfl

theorem columns_foldl_after (r : Reading) (lines : List (List Char)) (hr : r.inside = true) :
    (lines.foldl step r).columns =
      (lines.filterMap row?).foldl (fun acc row => acc.insert row.1 row.2) r.columns := by
  induction lines generalizing r with
  | nil => rfl
  | cons line lines ih =>
    have hinside : (r.step line).inside = true := by rw [inside_step, hr]; rfl
    rw [List.foldl_cons, ih _ hinside, columns_step, hr, if_pos rfl]
    cases h : row? line with
    | none => rw [List.filterMap_cons_none h]
    | some found => rw [List.filterMap_cons_some h, List.foldl_cons]

end Reading

/-! ## The reader -/

/-- A heading has a last word, since it begins with a character that is no white space. -/
theorem headingName?_of_isHeading {line : List Char} (h : isHeading line = true) :
    ∃ word, IsLastWord word line ∧ headingName? line = some (.ofList word) := by
  obtain ⟨more, rfl⟩ : "# ".toList <+: line := List.isPrefixOf_iff_prefix.1 h
  have hmark : '#' ∈ "# ".toList ++ more := List.mem_append_left more (by simp)
  obtain ⟨word, hword⟩ := exists_isLastWord hmark (by decide)
  exact ⟨word, hword, by rw [headingName?, getLast?_words_eq_some_iff.2 hword]; rfl⟩

/-- The name of a page is the one that its first heading gives. -/
theorem name_read (text : String) :
    (read text).name = (lines text.toList).findSome? Reading.nameIn? := by
  rw [read, Reading.name_foldl, Reading.start, Option.none_or]

/-- The columns of a page are what the lines behind its first marker write. -/
theorem columns_read {text : String} {line : List Char} {after : List (List Char)}
    (h : FirstOf isSectionMarker (lines text.toList) line after) :
    (read text).columns = .ofList (after.filterMap row?) := by
  obtain ⟨before, hlines, hbefore, hline⟩ := h
  obtain ⟨hcolumns, hinside⟩ := Reading.columns_foldl_before .start before rfl hbefore
  -- the marker itself turns the switch and writes nothing
  have hopened : ((before.foldl Reading.step .start).step line).columns = .empty := by
    rw [Reading.columns_step, hinside]
    exact hcolumns
  rw [read, hlines, List.foldl_append, List.foldl_cons, Reading.columns_foldl_after, hopened]
  · rfl
  · rw [Reading.inside_step, hline, Bool.or_true]

theorem read_description (text : String) :
    Description (lines text.toList) (read text).name (read text).columns where
  name_of_none hnone := by
    rw [name_read, List.findSome?_eq_none_iff]
    intro line hline
    rw [Reading.nameIn?, hnone line hline]
    rfl
  name_of_heading := by
    rintro line after ⟨before, hlines, hbefore, hline⟩
    obtain ⟨word, hword, hname⟩ := headingName?_of_isHeading hline
    refine ⟨word, hword, ?_⟩
    have hnone : before.findSome? Reading.nameIn? = none := by
      rw [List.findSome?_eq_none_iff]
      intro l hl
      rw [Reading.nameIn?, hbefore l hl]
      rfl
    rw [name_read, hlines, List.findSome?_append, hnone, Option.none_or, List.findSome?_cons,
      Reading.nameIn?, hline, if_pos rfl, hname]
  columns_of_none hnone := (Reading.columns_foldl_before .start _ rfl hnone).1
  columns_of_marker := by
    rintro line after hfirst
    refine ⟨after.filterMap row?, rows_filterMap after, ?_⟩
    rw [columns_read hfirst]
    exact ⟨OrderedMap.keys_ofList _, OrderedMap.get?_ofList _⟩

/-- **The reader is its description**: what it finds on a page is what the page says, and nothing
else is. -/
theorem read_eq_iff (text : String) (name : Option String) (columns : Columns) :
    (read text).name = name ∧ (read text).columns = columns ↔
      Description (lines text.toList) name columns := by
  constructor
  · rintro ⟨rfl, rfl⟩
    exact read_description text
  · exact fun h => (read_description text).unique h

end TableCatalog.Page
