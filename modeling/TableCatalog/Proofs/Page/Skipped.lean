import TableCatalog.Proofs.Page.Description

/-!
# What becomes of the rows of a page

Once columns have been announced, a line that begins with a bar and announces nothing itself is a
row of the table. It writes a column, or it describes none and is passed over; no row is lost
between the two, and nothing but a row is passed over. `RowsSplit` hands the rows out to two lists,
the columns that are written and the rows that are passed over, both in the order of the page. There
is one way to do that (`rowsSplit_iff`), and it is what a reading ends with (`accounted_iff`).
-/

set_option autoImplicit false

namespace TableCatalog.Page

open Text

/-- A line is a row of a table once columns have been announced. -/
def isTableRow (line : List Char) : Bool := isRow line && !isSectionMarker line

/-- The rows among the lines are handed out: `written` are the columns of those that describe one,
`skipped` are the others. -/
inductive RowsSplit : List (List Char) → List (String × ColumnType) → List String → Prop
  | nil : RowsSplit [] [] []
  | written {line : List Char} {lines : List (List Char)} {column : String} {type : ColumnType}
      {written : List (String × ColumnType)} {skipped : List String} :
      Describes line column type → RowsSplit lines written skipped →
      RowsSplit (line :: lines) ((column, type) :: written) skipped
  | skipped {line : List Char} {lines : List (List Char)}
      {written : List (String × ColumnType)} {skipped : List String} :
      isTableRow line = true → (∀ column type, ¬ Describes line column type) →
      RowsSplit lines written skipped →
      RowsSplit (line :: lines) written (.ofList line :: skipped)
  | other {line : List Char} {lines : List (List Char)}
      {written : List (String × ColumnType)} {skipped : List String} :
      isTableRow line = false → RowsSplit lines written skipped →
      RowsSplit (line :: lines) written skipped

/-- `columns` and `skipped` are what becomes of the rows of a page. -/
structure Accounted (lines : List (List Char)) (columns : Columns) (skipped : List String) :
    Prop where
  /-- On a page without a section marker there are no rows. -/
  of_none : (∀ line ∈ lines, isSectionMarker line = false) → columns = .empty ∧ skipped = []
  /-- Behind the first section marker each row is written or passed over. -/
  of_marker {line : List Char} {after : List (List Char)} :
    FirstOf isSectionMarker lines line after →
      ∃ written, RowsSplit after written skipped ∧ columns = .ofList written

/-! ## One line -/

/-- What is passed over with a line once columns have been announced. -/
def skipped? (line : List Char) : Option String :=
  if isTableRow line && (row? line).isNone then some (.ofList line) else none

theorem row?_eq_none_iff {line : List Char} :
    row? line = none ↔ ∀ column type, ¬ Describes line column type := by
  rw [Option.eq_none_iff_forall_ne_some, Prod.forall]
  simp only [Ne, row?_eq_some_iff]

section Line

variable {line : List Char}

theorem skipped?_of_row?_eq_some {found : String × ColumnType} (h : row? line = some found) :
    skipped? line = none := by
  rw [skipped?, h, Option.isNone_some, Bool.and_false]
  rfl

theorem skipped?_of_row?_eq_none (hrow : isTableRow line = true) (h : row? line = none) :
    skipped? line = some (.ofList line) := by
  rw [skipped?, hrow, h]
  rfl

theorem row?_of_other (hrow : isTableRow line = false) :
    row? line = none ∧ skipped? line = none := by
  constructor
  · unfold isTableRow at hrow
    unfold row?
    cases hmarker : isSectionMarker line with
    | true => rfl
    | false =>
      rw [hmarker, Bool.not_false, Bool.and_true] at hrow
      rw [hrow]
      rfl
  · rw [skipped?, hrow]
    rfl

end Line

/-- **There is one way to hand the rows out.** -/
theorem rowsSplit_iff {lines : List (List Char)} {written : List (String × ColumnType)}
    {skipped : List String} :
    RowsSplit lines written skipped ↔
      written = lines.filterMap row? ∧ skipped = lines.filterMap skipped? := by
  constructor
  · intro h
    induction h with
    | nil => exact ⟨rfl, rfl⟩
    | written hdescribes _ ih =>
      have hrow := row?_eq_some_iff.2 hdescribes
      rw [List.filterMap_cons_some hrow, List.filterMap_cons_none (skipped?_of_row?_eq_some hrow)]
      exact ⟨congrArg _ ih.1, ih.2⟩
    | skipped htable hno _ ih =>
      have hrow := row?_eq_none_iff.2 hno
      rw [List.filterMap_cons_none hrow,
        List.filterMap_cons_some (skipped?_of_row?_eq_none htable hrow)]
      exact ⟨ih.1, congrArg _ ih.2⟩
    | other htable _ ih =>
      obtain ⟨hrow, hskipped⟩ := row?_of_other htable
      rw [List.filterMap_cons_none hrow, List.filterMap_cons_none hskipped]
      exact ih
  · rintro ⟨rfl, rfl⟩
    induction lines with
    | nil => exact .nil
    | cons line lines ih =>
      cases htable : isTableRow line with
      | false =>
        obtain ⟨hrow, hskipped⟩ := row?_of_other htable
        rw [List.filterMap_cons_none hrow, List.filterMap_cons_none hskipped]
        exact .other htable ih
      | true =>
        cases hrow : row? line with
        | none =>
          rw [List.filterMap_cons_none hrow,
            List.filterMap_cons_some (skipped?_of_row?_eq_none htable hrow)]
          exact .skipped htable (row?_eq_none_iff.1 hrow) ih
        | some found =>
          rw [List.filterMap_cons_some hrow,
            List.filterMap_cons_none (skipped?_of_row?_eq_some hrow)]
          exact .written (row?_eq_some_iff.1 hrow) ih

/-! ## The rows that a reading passes over -/

namespace Reading

theorem skipped_step (r : Reading) (line : List Char) :
    (r.step line).skipped = r.skipped ++ (if r.inside then skipped? line else none).toList := by
  unfold step noteRow skipped? isTableRow row?
  rw [noteHeading_eq]
  cases r.inside <;> cases isSectionMarker line <;> cases isRow line <;> cases column? line <;>
    simp

/-- Before columns are announced nothing is passed over. -/
theorem skipped_foldl_before (r : Reading) (lines : List (List Char)) (hr : r.inside = false)
    (hlines : ∀ line ∈ lines, isSectionMarker line = false) :
    (lines.foldl step r).skipped = r.skipped := by
  induction lines generalizing r with
  | nil => rfl
  | cons line lines ih =>
    obtain ⟨hline, hlines⟩ := List.forall_mem_cons.1 hlines
    have hinside : (r.step line).inside = false := by rw [inside_step, hr, hline]; rfl
    rw [List.foldl_cons, ih (r.step line) hinside hlines, skipped_step, hr]
    exact List.append_nil _

theorem skipped_foldl_after (r : Reading) (lines : List (List Char)) (hr : r.inside = true) :
    (lines.foldl step r).skipped = r.skipped ++ lines.filterMap skipped? := by
  induction lines generalizing r with
  | nil => exact (List.append_nil _).symm
  | cons line lines ih =>
    have hinside : (r.step line).inside = true := by rw [inside_step, hr]; rfl
    rw [List.foldl_cons, ih _ hinside, skipped_step, hr, if_pos rfl, List.append_assoc]
    cases h : skipped? line with
    | none => rw [List.filterMap_cons_none h]; rfl
    | some row => rw [List.filterMap_cons_some h]; rfl

end Reading

/-- A page passes over those of the lines behind its first marker that are rows without a column. -/
theorem skipped_read {text : String} {line : List Char} {after : List (List Char)}
    (h : FirstOf isSectionMarker (lines text.toList) line after) :
    (read text).skipped = after.filterMap skipped? := by
  obtain ⟨before, hlines, hbefore, hline⟩ := h
  have hopened : ((before.foldl Reading.step .start).step line).inside = true := by
    rw [Reading.inside_step, hline, Bool.or_true]
  have hmarker : skipped? line = none := (row?_of_other (by simp [isTableRow, hline])).2
  rw [read, hlines, List.foldl_append, List.foldl_cons, Reading.skipped_foldl_after _ _ hopened,
    Reading.skipped_step, hmarker, ite_self, Reading.skipped_foldl_before .start before rfl hbefore]
  rfl

/-! ## The page -/

theorem accounted_read (text : String) :
    Accounted (lines text.toList) (read text).columns (read text).skipped where
  of_none hnone :=
    ⟨(read_description text).columns_of_none hnone,
      Reading.skipped_foldl_before .start _ rfl hnone⟩
  of_marker {_ after} hfirst :=
    ⟨after.filterMap row?, rowsSplit_iff.2 ⟨rfl, skipped_read hfirst⟩, columns_read hfirst⟩

theorem Accounted.unique {lines : List (List Char)} {columns columns' : Columns}
    {skipped skipped' : List String} (h : Accounted lines columns skipped)
    (h' : Accounted lines columns' skipped') : columns = columns' ∧ skipped = skipped' := by
  rcases none_or_firstOf isSectionMarker lines with hnone | ⟨line, after, hfirst⟩
  · obtain ⟨rfl, rfl⟩ := h.of_none hnone
    obtain ⟨rfl, rfl⟩ := h'.of_none hnone
    exact ⟨rfl, rfl⟩
  · obtain ⟨written, hsplit, rfl⟩ := h.of_marker hfirst
    obtain ⟨written', hsplit', rfl⟩ := h'.of_marker hfirst
    obtain ⟨rfl, rfl⟩ := rowsSplit_iff.1 hsplit
    obtain ⟨rfl, rfl⟩ := rowsSplit_iff.1 hsplit'
    exact ⟨rfl, rfl⟩

/-- **Every row of a page is accounted for**: what it writes and what it passes over are what its
rows come to, and nothing else. -/
theorem accounted_iff (text : String) (columns : Columns) (skipped : List String) :
    Accounted (lines text.toList) columns skipped ↔
      (read text).columns = columns ∧ (read text).skipped = skipped := by
  constructor
  · exact (accounted_read text).unique
  · rintro ⟨rfl, rfl⟩
    exact accounted_read text

end TableCatalog.Page
