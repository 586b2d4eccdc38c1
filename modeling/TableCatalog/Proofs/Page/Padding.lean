import Mathlib.Logic.Relation
import TableCatalog.Proofs.Page.Sheet

/-!
# Padding

Whoever lays out a table by hand puts spaces and tabs next to its bars. `Padded` puts one there,
`Repad` does it in one row of a page, and `Repadded` is any number of such changes, forwards and
backwards. What a row says survives all of them, since it is read without its white space. What
announces columns does not: a header row is known by `| column name` or `|column name`, so there may
be one space behind the first bar, and nothing else (`isSectionMarker_row_iff`).

This is the only way in which padding is seen. `read_eq_of_repadded` says that two pages which differ
in padding have the same name and the same columns, if no header row goes from one of these two
paddings to another or back.

A change keeps two things of a row (`SameRow`): what is left of it without white space, and whether
its first cell is that of a header. What stands behind the bar at the end of that cell does not
matter for the second one; this is `beginsHeader_append`, and trimming is a case of it too.
-/

set_option autoImplicit false

namespace TableCatalog.Page

open Text

/-! ## Changing the padding -/

/-- What a cell is padded with. -/
def isPad (c : Char) : Bool := c == ' ' || c == '\t'

/-- The second line has one more space or tab than the first, next to a bar. -/
inductive Padded : List Char → List Char → Prop
  | behind (pad : Char) (front after : List Char) :
      isPad pad = true → Padded (front ++ '|' :: after) (front ++ '|' :: pad :: after)
  | before (pad : Char) (front after : List Char) :
      isPad pad = true → Padded (front ++ '|' :: after) (front ++ pad :: '|' :: after)

/-- One row of a page is padded. -/
def Repad (text text' : String) : Prop :=
  ∃ above row row' below, Padded row row' ∧
    (isRow (trim row) = true ∨ isRow (trim row') = true) ∧
    pieces '\n' text.toList = above ++ row :: below ∧
    pieces '\n' text'.toList = above ++ row' :: below

/-- Spaces and tabs are added and removed next to bars, in rows anywhere on a page. -/
def Repadded : String → String → Prop := Relation.EqvGen Repad

/-! ## Header rows -/

/-- What stands behind the first bar of a line, without backticks. -/
def behindBar (line : List Char) : List Char := withoutTicks (line.dropWhile fun c => c ≠ '|').tail

/-- The padding of the first cell. -/
def firstPadding (line : List Char) : List Char := (behindBar line).takeWhile isPad

/-- A cell begins, in any case, with the words of a header. -/
def BeginsHeader (cell : List Char) : Prop :=
  "column name".toList <+: lower (cell.dropWhile isPad)

/-- The first cell of a line is that of a header. -/
def HeadsColumns (line : List Char) : Prop := BeginsHeader (behindBar line)

/-- There is no padding, or one space. -/
def Narrow (padding : List Char) : Prop := padding = [] ∨ padding = [' ']

/-- A header row that is known as one stays known, and none becomes known. -/
def KeepsHeader (line line' : List Char) : Prop :=
  HeadsColumns line → (Narrow (firstPadding line) ↔ Narrow (firstPadding line'))

instance (line : List Char) : Decidable (HeadsColumns line) :=
  inferInstanceAs (Decidable ("column name".toList <+: lower ((behindBar line).dropWhile isPad)))

instance (padding : List Char) : Decidable (Narrow padding) :=
  inferInstanceAs (Decidable (padding = [] ∨ padding = [' ']))

instance (line line' : List Char) : Decidable (KeepsHeader line line') :=
  inferInstanceAs (Decidable
    (HeadsColumns line → (Narrow (firstPadding line) ↔ Narrow (firstPadding line'))))

theorem isBlank_of_isPad {c : Char} (h : isPad c = true) : isBlank c = true := by
  rcases Bool.or_eq_true_iff.1 h with hspace | htab
  · rw [eq_of_beq hspace]
    decide
  · rw [eq_of_beq htab]
    decide

/-- The rest of a line comes after the end of a cell: nothing but white space, up to a bar. -/
inductive EndsCell : List Char → Prop
  | nil : EndsCell []
  | bar (cs : List Char) : EndsCell ('|' :: cs)
  | blank {c : Char} {cs : List Char} : isBlank c = true → EndsCell cs → EndsCell (c :: cs)

theorem EndsCell.of_blanks {cs : List Char} (h : ∀ c ∈ cs, isBlank c = true) : EndsCell cs := by
  induction cs with
  | nil => exact .nil
  | cons c cs ih =>
    obtain ⟨hc, hcs⟩ := List.forall_mem_cons.1 h
    exact .blank hc (ih hcs)

theorem EndsCell.dropWhile {cs : List Char} (h : EndsCell cs) : EndsCell (cs.dropWhile isPad) := by
  induction h with
  | nil => exact .nil
  | bar cs => exact .bar cs
  | @blank c cs hc hcs ih =>
    rw [List.dropWhile_cons]
    split
    · exact ih
    · exact .blank hc hcs

theorem EndsCell.withoutTicks {cs : List Char} (h : EndsCell cs) :
    EndsCell (Page.withoutTicks cs) := by
  induction h with
  | nil => exact .nil
  | bar cs =>
    rw [withoutTicks_cons (by decide)]
    exact .bar _
  | @blank c cs hc _ ih =>
    have htick : c ≠ '`' := by
      rintro rfl
      exact absurd hc (by decide)
    rw [withoutTicks_cons htick]
    exact .blank hc ih

/-- What comes after a cell begins with nothing that has no bar and does not end in white space. -/
theorem eq_nil_of_prefix_endsCell {lead rest : List Char} (hrest : EndsCell rest)
    (hbar : '|' ∉ lead) (hlast : ∀ c ∈ lead.getLast?, isBlank c = false)
    (hlead : lead <+: rest.map lowerSimple) : lead = [] := by
  induction hrest generalizing lead with
  | nil => exact List.prefix_nil.1 hlead
  | bar cs =>
    cases lead with
    | nil => rfl
    | cons c lead =>
      obtain ⟨rfl, -⟩ := List.cons_prefix_cons.1 hlead
      exact absurd List.mem_cons_self hbar
  | @blank c cs hc _ ih =>
    cases lead with
    | nil => rfl
    | cons first lead =>
      rw [List.map_cons, lowerSimple_of_isBlank hc] at hlead
      obtain ⟨rfl, hmore⟩ := List.cons_prefix_cons.1 hlead
      -- nothing but white space is met from here on, so the end of the beginning is white
      obtain rfl : lead = [] := by
        refine ih (mt (List.mem_cons_of_mem first) hbar) (fun l hl => hlast l ?_) hmore
        rw [List.getLast?_cons, hl]
        rfl
      rw [hlast first rfl] at hc
      exact absurd hc (by simp)

/-- So it has no part in such a beginning. -/
theorem prefix_append_endsCell {lead rest : List Char} (cell : List Char) (hrest : EndsCell rest)
    (hbar : '|' ∉ lead) (hlast : ∀ c ∈ lead.getLast?, isBlank c = false) :
    lead <+: (cell ++ rest).map lowerSimple ↔ lead <+: cell.map lowerSimple := by
  induction cell generalizing lead with
  | nil =>
    rw [List.nil_append, List.map_nil, List.prefix_nil]
    constructor
    · exact eq_nil_of_prefix_endsCell hrest hbar hlast
    · rintro rfl
      exact List.nil_prefix
  | cons c cell ih =>
    cases lead with
    | nil => exact iff_of_true List.nil_prefix List.nil_prefix
    | cons first lead =>
      rw [List.cons_append, List.map_cons, List.map_cons, List.cons_prefix_cons,
        List.cons_prefix_cons]
      refine and_congr_right fun _ => ih (mt (List.mem_cons_of_mem first) hbar) fun l hl => ?_
      refine hlast l ?_
      rw [List.getLast?_cons, hl]
      rfl

theorem header_append_endsCell (cell : List Char) {rest : List Char} (hrest : EndsCell rest) :
    "column name".toList <+: (cell ++ rest).map lowerSimple ↔
      "column name".toList <+: cell.map lowerSimple := by
  have hend : "column name".toList.getLast? = some 'e' := by decide
  refine prefix_append_endsCell cell hrest (by decide) fun c hc => ?_
  rw [hend] at hc
  obtain rfl := Option.some.inj hc
  decide

theorem beginsHeader_iff (cell : List Char) :
    BeginsHeader cell ↔ "column name".toList <+: (cell.dropWhile isPad).map lowerSimple :=
  prefix_lowerFrom_iff (by decide) [] _

/-- **What comes after a cell does not make it a header.** -/
theorem beginsHeader_append (cell : List Char) {rest : List Char} (hrest : EndsCell rest) :
    BeginsHeader (cell ++ rest) ↔ BeginsHeader cell := by
  rw [beginsHeader_iff, beginsHeader_iff, List.dropWhile_append]
  split
  · next hnone =>
    rw [List.isEmpty_iff.1 hnone]
    exact header_append_endsCell [] hrest.dropWhile
  · exact header_append_endsCell _ hrest

/-- A header has something besides its padding, so the padding ends before it does. -/
theorem takeWhile_append_of_beginsHeader {cell : List Char} (h : BeginsHeader cell)
    (rest : List Char) : (cell ++ rest).takeWhile isPad = cell.takeWhile isPad := by
  rw [List.takeWhile_append, if_neg]
  intro hall
  have hdrop : cell.dropWhile isPad = [] := by
    have hsplit := List.takeWhile_append_dropWhile (p := isPad) (l := cell)
    have hlength := congrArg List.length hsplit
    rw [List.length_append, hall] at hlength
    exact List.eq_nil_of_length_eq_zero (by omega)
  rw [beginsHeader_iff, hdrop] at h
  exact absurd (List.prefix_nil.1 h) (by decide)

/-- The words of a header come at once exactly if they come behind padding and there is none. -/
theorem prefix_iff_of_dropWhile (cell : List Char) :
    "column name".toList <+: cell.map lowerSimple ↔
      "column name".toList <+: (cell.dropWhile isPad).map lowerSimple ∧
        cell.takeWhile isPad = [] := by
  have hsplit := List.takeWhile_append_dropWhile (p := isPad) (l := cell)
  constructor
  · intro hlead
    cases cell with
    | nil => exact ⟨hlead, rfl⟩
    | cons c cell =>
      have hpad : ¬ isPad c = true := by
        intro hpad
        have hfirst : "column name".toList = 'c' :: "olumn name".toList := by decide
        rw [hfirst, List.map_cons, lowerSimple_of_isBlank (isBlank_of_isPad hpad),
          List.cons_prefix_cons] at hlead
        obtain ⟨rfl, -⟩ := hlead
        exact absurd hpad (by decide)
      rw [List.dropWhile_cons_of_neg hpad, List.takeWhile_cons_of_neg hpad]
      exact ⟨hlead, rfl⟩
  · rintro ⟨hlead, hnone⟩
    rw [hnone, List.nil_append] at hsplit
    rwa [hsplit] at hlead

/-- What announces columns in a row: the words of a header, with one space in front of them or
none. -/
theorem isSectionMarker_bar_iff_or (cell : List Char) :
    isSectionMarker ('|' :: cell) = true ↔
      ' ' :: "column name".toList <+: cell.map lowerSimple ∨
        "column name".toList <+: cell.map lowerSimple := by
  have hbar : lowerSimple '|' = '|' := by decide
  have hplain : ∀ marker ∈ sectionMarkers, marker.toList.all isPlain = true := by decide
  have hmarker (marker : String) (h : marker ∈ sectionMarkers) :
      startsWith marker (lower ('|' :: cell)) = true ↔
        marker.toList <+: '|' :: cell.map lowerSimple := by
    rw [startsWith, List.isPrefixOf_iff_prefix, lower, prefix_lowerFrom_iff (hplain marker h),
      List.map_cons, hbar]
  have hheading : ¬ "## columns".toList <+: '|' :: cell.map lowerSimple := by
    intro h
    have hfirst : "## columns".toList = '#' :: "# columns".toList := by decide
    rw [hfirst, List.cons_prefix_cons] at h
    exact absurd h.1 (by decide)
  have hwide : "| column name".toList = '|' :: ' ' :: "column name".toList := by decide
  have htight : "|column name".toList = '|' :: "column name".toList := by decide
  simp only [isSectionMarker, sectionMarkers, List.any_cons, List.any_nil, Bool.or_eq_true,
    Bool.false_eq_true, or_false]
  rw [hmarker "## columns" (by decide), hmarker "| column name" (by decide),
    hmarker "|column name" (by decide), hwide, htight, List.cons_prefix_cons,
    List.cons_prefix_cons]
  simp only [hheading, false_or, true_and]

theorem isSectionMarker_bar_iff (cell : List Char) :
    isSectionMarker ('|' :: cell) = true ↔ BeginsHeader cell ∧ Narrow (cell.takeWhile isPad) := by
  rw [isSectionMarker_bar_iff_or, beginsHeader_iff, prefix_iff_of_dropWhile cell]
  cases cell with
  | nil => simp [Narrow]
  | cons c cell =>
    by_cases hc : c = ' '
    · -- behind one space there must be no more
      subst hc
      have hspace : lowerSimple ' ' = ' ' := lowerSimple_of_isBlank rfl
      have htake : (' ' :: cell).takeWhile isPad = ' ' :: cell.takeWhile isPad :=
        List.takeWhile_cons_of_pos rfl
      have hdrop : (' ' :: cell).dropWhile isPad = cell.dropWhile isPad :=
        List.dropWhile_cons_of_pos rfl
      rw [htake, hdrop, List.map_cons, hspace, List.cons_prefix_cons, prefix_iff_of_dropWhile cell]
      simp [Narrow]
    · have hne : ' ' ≠ lowerSimple c := by
        intro h
        have hself : lowerSimple c = c := lowerSimple_ascii (h ▸ by decide) (h ▸ by decide)
        exact hc (hself.symm.trans h.symm)
      have hone : (c :: cell).takeWhile isPad ≠ [' '] := by
        rw [List.takeWhile_cons]
        split
        · intro h
          exact hc (List.cons.inj h).1
        · exact List.cons_ne_nil _ _ ∘ Eq.symm
      rw [List.map_cons, List.cons_prefix_cons]
      simp [hne, Narrow, hone]

/-! ## Rows -/

theorem isRow_cons (c : Char) (cs : List Char) : isRow (c :: cs) = true ↔ c = '|' := by
  have hlead : "|".toList = ['|'] := by decide
  rw [isRow, startsWith, hlead, List.isPrefixOf_iff_prefix, List.cons_prefix_cons]
  simp [eq_comm]

/-- A line is a row if nothing but white space comes before its first bar. -/
theorem isRow_trim_iff {line : List Char} :
    isRow (trim line) = true ↔
      ∃ blanks rest, (∀ c ∈ blanks, isBlank c = true) ∧ line = blanks ++ '|' :: rest := by
  constructor
  · intro hrow
    have hsplit := List.takeWhile_append_dropWhile (p := isBlank) (l := line)
    obtain ⟨after, hafter, -⟩ := exists_trimEnd_append (line.dropWhile isBlank)
    cases htrim : trim line with
    | nil =>
      rw [htrim] at hrow
      exact absurd hrow (by decide)
    | cons c rest =>
      rw [htrim] at hrow
      obtain rfl := (isRow_cons c rest).1 hrow
      have hdrop : line.dropWhile isBlank = '|' :: (rest ++ after) := by
        rw [hafter]
        exact congrArg (· ++ after) htrim
      rw [hdrop] at hsplit
      exact ⟨_, _, fun c => List.all_eq_true.1 List.all_takeWhile c, hsplit.symm⟩
  · rintro ⟨blanks, rest, hblanks, rfl⟩
    rw [trim_append_cons hblanks (by decide), isRow_cons]

/-- What is read of a row: its bar and what is behind it, up to white space at the end. -/
theorem withoutTicks_trim_row {blanks : List Char} (h : ∀ c ∈ blanks, isBlank c = true)
    (rest : List Char) :
    withoutTicks (trim (blanks ++ '|' :: rest)) = '|' :: withoutTicks (trimEnd rest) := by
  rw [trim_append_cons h (by decide), withoutTicks_cons (by decide)]

/-- A line is a row if its first character that is no white space is a bar. -/
theorem isRow_trim_iff_head? {line : List Char} :
    isRow (trim line) = true ↔ (line.filter fun c => !isBlank c).head? = some '|' := by
  rw [isRow_trim_iff, List.head?_filter, List.find?_eq_some_iff_append]
  constructor
  · rintro ⟨blanks, rest, hblanks, rfl⟩
    exact ⟨by decide, blanks, rest, rfl, fun c hc => by simp [hblanks c hc]⟩
  · rintro ⟨-, blanks, rest, rfl, hblanks⟩
    exact ⟨blanks, rest, fun c hc => by simpa using hblanks c hc, rfl⟩

theorem not_mem_of_blanks {blanks : List Char} (h : ∀ c ∈ blanks, isBlank c = true) :
    '|' ∉ blanks := by
  intro hmem
  exact absurd (h '|' hmem) (by decide)

theorem behindBar_append {blanks : List Char} (h : ∀ c ∈ blanks, isBlank c = true)
    (rest : List Char) : behindBar (blanks ++ '|' :: rest) = withoutTicks rest := by
  have hfront : ∀ c ∈ blanks, (decide (c ≠ '|')) = true := by
    intro c hc
    rw [decide_eq_true_eq]
    rintro rfl
    exact not_mem_of_blanks h hc
  rw [behindBar, List.dropWhile_append_of_pos hfront, List.dropWhile_cons_of_neg (by simp)]
  rfl

/-- **When a row announces columns**: its first cell begins with the words of a header, and the
padding of that cell is narrow. -/
theorem isSectionMarker_row_iff {line : List Char} (hrow : isRow (trim line) = true) :
    isSectionMarker (withoutTicks (trim line)) = true ↔
      HeadsColumns line ∧ Narrow (firstPadding line) := by
  obtain ⟨blanks, rest, hblanks, rfl⟩ := isRow_trim_iff.1 hrow
  obtain ⟨after, hrest, hafter⟩ := exists_trimEnd_append rest
  have hbehind : withoutTicks rest = withoutTicks (trimEnd rest) ++ withoutTicks after := by
    rw [← withoutTicks_append, ← hrest]
  have hend : EndsCell (withoutTicks after) := (EndsCell.of_blanks hafter).withoutTicks
  rw [withoutTicks_trim_row hblanks, isSectionMarker_bar_iff, HeadsColumns, firstPadding,
    behindBar_append hblanks, hbehind, beginsHeader_append _ hend]
  refine and_congr_right fun hheader => ?_
  rw [takeWhile_append_of_beginsHeader hheader]

/-! ## What one change keeps -/

/-- Two rows that are the same but for their padding. -/
structure SameRow (row row' : List Char) : Prop where
  isRow : isRow (trim row) = true
  /-- Without white space nothing is left of the padding. -/
  kept : (row.filter fun c => !isBlank c) = row'.filter fun c => !isBlank c
  heads : HeadsColumns row ↔ HeadsColumns row'

theorem SameRow.isRow' {row row' : List Char} (h : SameRow row row') :
    Page.isRow (trim row') = true := by
  rw [isRow_trim_iff_head?, ← h.kept, ← isRow_trim_iff_head?]
  exact h.isRow

theorem SameRow.symm {row row' : List Char} (h : SameRow row row') : SameRow row' row :=
  ⟨h.isRow', h.kept.symm, h.heads.symm⟩

theorem SameRow.trans {row row' row'' : List Char} (h : SameRow row row')
    (h' : SameRow row' row'') : SameRow row row'' :=
  ⟨h.isRow, h.kept.trans h'.kept, h.heads.trans h'.heads⟩

theorem filter_pad {pad : Char} (hpad : isPad pad = true) (cs : List Char) :
    ((pad :: cs).filter fun c => !isBlank c) = cs.filter fun c => !isBlank c :=
  List.filter_cons_of_neg (by simp [isBlank_of_isPad hpad])

theorem Padded.kept {row row' : List Char} (h : Padded row row') :
    (row.filter fun c => !isBlank c) = row'.filter fun c => !isBlank c := by
  cases h with
  | behind pad front after hpad => simp only [List.filter_append, List.filter_cons, filter_pad hpad]
  | before pad front after hpad => simp only [List.filter_append, filter_pad hpad]

/-- A bar of a row is its first one or stands behind it. -/
theorem bar_cases {blanks rest front after : List Char} (hblanks : '|' ∉ blanks)
    (h : blanks ++ '|' :: rest = front ++ '|' :: after) :
    front = blanks ∧ after = rest ∨ ∃ cell, front = blanks ++ '|' :: cell ∧
      rest = cell ++ '|' :: after := by
  rcases List.append_eq_append_iff.1 h with ⟨more, rfl, hrest⟩ | ⟨more, rfl, hrest⟩
  · cases more with
    | nil => exact Or.inl ⟨List.append_nil blanks, (List.cons.inj hrest).2.symm⟩
    | cons c cell =>
      obtain ⟨rfl, hcell⟩ := List.cons.inj hrest
      exact Or.inr ⟨cell, rfl, hcell⟩
  · cases more with
    | nil => exact Or.inl ⟨(List.append_nil front).symm, (List.cons.inj hrest).2⟩
    | cons c cell =>
      obtain ⟨rfl, -⟩ := List.cons.inj hrest
      exact absurd (List.mem_append_right front List.mem_cons_self) hblanks

/-- Behind the end of its first cell a row may go on as it likes. -/
theorem headsColumns_append_iff {blanks cell rest rest' : List Char}
    (hblanks : ∀ c ∈ blanks, isBlank c = true) (hrest : EndsCell rest) (hrest' : EndsCell rest') :
    HeadsColumns (blanks ++ '|' :: cell ++ rest) ↔ HeadsColumns (blanks ++ '|' :: cell ++ rest') := by
  rw [HeadsColumns, HeadsColumns, List.append_assoc, List.append_assoc, List.cons_append,
    List.cons_append, behindBar_append hblanks, behindBar_append hblanks, withoutTicks_append,
    withoutTicks_append, beginsHeader_append _ hrest.withoutTicks,
    beginsHeader_append _ hrest'.withoutTicks]

/-- Padding makes no cell that of a header, and no header another cell. -/
theorem Padded.heads {row row' : List Char} (h : Padded row row')
    (hrow : isRow (trim row) = true) : HeadsColumns row ↔ HeadsColumns row' := by
  obtain ⟨blanks, rest, hblanks, hline⟩ := isRow_trim_iff.1 hrow
  cases h with
  | behind pad front after hpad =>
    rcases bar_cases (not_mem_of_blanks hblanks) hline.symm with ⟨rfl, rfl⟩ | ⟨cell, rfl, rfl⟩
    · have htick : pad ≠ '`' := by
        rintro rfl
        exact absurd hpad (by decide)
      rw [HeadsColumns, HeadsColumns, behindBar_append hblanks, behindBar_append hblanks,
        withoutTicks_cons htick, BeginsHeader, BeginsHeader, List.dropWhile_cons_of_pos hpad]
    · exact headsColumns_append_iff hblanks (.bar _) (.bar _)
  | before pad front after hpad =>
    rcases bar_cases (not_mem_of_blanks hblanks) hline.symm with ⟨rfl, rfl⟩ | ⟨cell, rfl, rfl⟩
    · -- the padding goes to the white space in front of the row
      have hblanks' : ∀ c ∈ front ++ [pad], isBlank c = true := by
        intro c hc
        rcases List.mem_append.1 hc with hc | hc
        · exact hblanks c hc
        · rw [List.mem_singleton.1 hc]
          exact isBlank_of_isPad hpad
      rw [HeadsColumns, HeadsColumns, List.append_cons front pad, behindBar_append hblanks,
        behindBar_append hblanks']
    · exact headsColumns_append_iff hblanks (.bar _) (.blank (isBlank_of_isPad hpad) (.bar _))

/-- **A row that is padded stays the same row.** -/
theorem Padded.sameRow {row row' : List Char} (h : Padded row row')
    (hrow : isRow (trim row) = true ∨ isRow (trim row') = true) : SameRow row row' := by
  have hiff : isRow (trim row) = true ↔ isRow (trim row') = true := by
    rw [isRow_trim_iff_head?, isRow_trim_iff_head?, h.kept]
  have hrow := hrow.elim id hiff.2
  exact ⟨hrow, h.kept, h.heads hrow⟩

/-! ## What any number of changes keep -/

/-- Two lines are one line, or one row. -/
def SameLine (line line' : List Char) : Prop := line = line' ∨ SameRow line line'

theorem SameLine.symm {line line' : List Char} (h : SameLine line line') : SameLine line' line := by
  rcases h with rfl | h
  · exact Or.inl rfl
  · exact Or.inr h.symm

theorem SameLine.trans {line line' line'' : List Char} (h : SameLine line line')
    (h' : SameLine line' line'') : SameLine line line'' := by
  rcases h with rfl | h
  · exact h'
  · rcases h' with rfl | h'
    · exact Or.inr h
    · exact Or.inr (h.trans h')

/-- Two pages have the same lines. -/
def SameLines (text text' : String) : Prop :=
  List.Forall₂ SameLine (pieces '\n' text.toList) (pieces '\n' text'.toList)

theorem Repad.sameLines {text text' : String} (h : Repad text text') : SameLines text text' := by
  obtain ⟨above, row, row', below, hpadded, hrow, htext, htext'⟩ := h
  have hself (lines : List (List Char)) : List.Forall₂ SameLine lines lines :=
    List.forall₂_same.2 fun line _ => Or.inl rfl
  rw [SameLines, htext, htext']
  exact List.rel_append (hself above) (.cons (Or.inr (hpadded.sameRow hrow)) (hself below))

theorem forall₂_sameLine_trans {lines lines' lines'' : List (List Char)}
    (h : List.Forall₂ SameLine lines lines') (h' : List.Forall₂ SameLine lines' lines'') :
    List.Forall₂ SameLine lines lines'' := by
  induction h generalizing lines'' with
  | nil => exact h'
  | cons hline _ ih =>
    cases h' with
    | cons hline' hrest' => exact .cons (hline.trans hline') (ih hrest')

/-- **However a page is padded, its lines stay the same.** -/
theorem Repadded.sameLines {text text' : String} (h : Repadded text text') :
    SameLines text text' := by
  induction h with
  | rel text text' hstep => exact hstep.sameLines
  | refl text => exact List.forall₂_same.2 fun line _ => Or.inl rfl
  | symm text text' _ ih => exact ih.flip.imp fun _ _ => SameLine.symm
  | trans text text' text'' _ _ ih ih' => exact forall₂_sameLine_trans ih ih'

/-! ## Reading -/

/-- Two lines say the same to whoever reads them. -/
structure SaySame (line line' : List Char) : Prop where
  name : Reading.nameIn? line = Reading.nameIn? line'
  marker : isSectionMarker line = isSectionMarker line'
  row : row? line = row? line'

theorem SaySame.refl (line : List Char) : SaySame line line := ⟨rfl, rfl, rfl⟩

/-- A row is no heading. -/
theorem nameIn?_of_isRow {line : List Char} (h : isRow (trim line) = true) :
    Reading.nameIn? (withoutTicks (trim line)) = none := by
  obtain ⟨blanks, rest, hblanks, rfl⟩ := isRow_trim_iff.1 h
  have hlead : "# ".toList = ['#', ' '] := by decide
  have hheading : isHeading ('|' :: withoutTicks (trimEnd rest)) = false := by
    rw [isHeading, startsWith, hlead]
    rfl
  rw [withoutTicks_trim_row hblanks, Reading.nameIn?, hheading]
  rfl

/-- A row is a row without its backticks. -/
theorem isRow_withoutTicks {line : List Char} (h : isRow (trim line) = true) :
    isRow (withoutTicks (trim line)) = true := by
  obtain ⟨blanks, rest, hblanks, rfl⟩ := isRow_trim_iff.1 h
  rw [withoutTicks_trim_row hblanks, isRow_cons]

/-- The cells of a row are those of the line as it stands on the page. -/
theorem cells_withoutTicks_trim (line : List Char) :
    cells (withoutTicks (trim line)) =
      pieces '|' (withoutTicks (line.filter fun c => !isBlank c)) := by
  rw [cells, withoutTicks, List.filter_comm, filter_trim]
  rfl

/-- **Rows say the same, however they are padded**, if both of them announce columns or neither
does. -/
theorem SameRow.saySame {row row' : List Char} (h : SameRow row row')
    (hkeeps : KeepsHeader row row') :
    SaySame (withoutTicks (trim row)) (withoutTicks (trim row')) := by
  have hmarker : isSectionMarker (withoutTicks (trim row)) =
      isSectionMarker (withoutTicks (trim row')) := by
    rw [Bool.eq_iff_iff, isSectionMarker_row_iff h.isRow, isSectionMarker_row_iff h.isRow',
      ← h.heads]
    exact and_congr_right hkeeps
  refine ⟨?_, hmarker, ?_⟩
  · rw [nameIn?_of_isRow h.isRow, nameIn?_of_isRow h.isRow']
  · have hcells : cells (withoutTicks (trim row)) = cells (withoutTicks (trim row')) := by
      rw [cells_withoutTicks_trim, cells_withoutTicks_trim, h.kept]
    rw [row?, row?, hmarker, isRow_withoutTicks h.isRow, isRow_withoutTicks h.isRow', column?,
      column?, hcells]

/-- What a page is read as depends on what its lines say. -/
theorem foldl_step_of_saySame {lines lines' : List (List Char)}
    (h : List.Forall₂ SaySame lines lines') {r r' : Reading} (hname : r.name = r'.name)
    (hinside : r.inside = r'.inside) (hcolumns : r.columns = r'.columns) :
    (lines.foldl Reading.step r).name = (lines'.foldl Reading.step r').name ∧
      (lines.foldl Reading.step r).columns = (lines'.foldl Reading.step r').columns := by
  induction h generalizing r r' with
  | nil => exact ⟨hname, hcolumns⟩
  | cons hline _ ih =>
    rw [List.foldl_cons, List.foldl_cons]
    apply ih
    · rw [Reading.name_step, Reading.name_step, hname, hline.name]
    · rw [Reading.inside_step, Reading.inside_step, hinside, hline.marker]
    · rw [Reading.columns_step, Reading.columns_step, hinside, hcolumns, hline.row]

/-- Lines that are left out are left out of both pages, and the others say the same. -/
theorem forall₂_saySame {raws raws' : List (List Char)} (h : List.Forall₂ SameLine raws raws')
    (hkeeps : List.Forall₂ KeepsHeader raws raws') :
    List.Forall₂ SaySame (((raws.map trim).filter fun l => !l.isEmpty).map withoutTicks)
      (((raws'.map trim).filter fun l => !l.isEmpty).map withoutTicks) := by
  induction h with
  | nil => exact .nil
  | @cons line line' raws raws' hline _ ih =>
    obtain ⟨hkeep, hkeeps⟩ := List.forall₂_cons.1 hkeeps
    have hrest := ih hkeeps
    rw [List.map_cons, List.map_cons, List.filter_cons, List.filter_cons]
    rcases hline with rfl | hrow
    · split
      · exact .cons (.refl _) hrest
      · exact hrest
    · have hnonempty {row : List Char} (h : isRow (trim row) = true) :
          (!(trim row).isEmpty) = true := by
        rw [Bool.not_eq_true', List.isEmpty_eq_false_iff]
        intro hnil
        rw [hnil] at h
        exact absurd h (by decide)
      rw [if_pos (hnonempty hrow.isRow), if_pos (hnonempty hrow.isRow')]
      exact .cons (hrow.saySame hkeep) hrest

/-- **Padding is insignificant**, but for how the padding of a header row begins: two pages that
differ in padding give the same table, if each header row is known in both of them or in neither. -/
theorem read_eq_of_repadded {text text' : String} (hpadding : Repadded text text')
    (hheaders : List.Forall₂ KeepsHeader (pieces '\n' text.toList) (pieces '\n' text'.toList)) :
    (read text).name = (read text').name ∧ (read text).columns = (read text').columns :=
  foldl_step_of_saySame (forall₂_saySame hpadding.sameLines hheaders) rfl rfl rfl

/-- A header row and a data row are padded. -/
theorem read_eq_of_repadded_header :
    let text := "# T\n|Column Name|Type|Description|\n|---|---|---|\n|A|int|a|\n"
    let text' := "# T\n| Column Name|Type|Description|\n|---|---|---|\n|A|\tint|a|\n"
    Repadded text text' ∧
      List.Forall₂ KeepsHeader (pieces '\n' text.toList) (pieces '\n' text'.toList) ∧
      (read text).name = (read text').name ∧ (read text).columns = (read text').columns := by
  intro text text'
  let between := "# T\n| Column Name|Type|Description|\n|---|---|---|\n|A|int|a|\n"
  have hheader : Repad text between :=
    ⟨["# T".toList], '|' :: "Column Name|Type|Description|".toList, _,
      ["|---|---|---|".toList, "|A|int|a|".toList, []],
      .behind ' ' [] "Column Name|Type|Description|".toList (by decide),
      Or.inl (by decide), by decide, by decide⟩
  have hrow : Repad between text' :=
    ⟨["# T".toList, "| Column Name|Type|Description|".toList, "|---|---|---|".toList],
      "|A".toList ++ '|' :: "int|a|".toList, _, [[]],
      .behind '\t' "|A".toList "int|a|".toList (by decide),
      Or.inl (by decide), by decide, by decide⟩
  have hpadding : Repadded text text' := .trans _ _ _ (.rel _ _ hheader) (.rel _ _ hrow)
  have hkeeps : List.Forall₂ KeepsHeader (pieces '\n' text.toList) (pieces '\n' text'.toList) := by
    decide
  exact ⟨hpadding, hkeeps, read_eq_of_repadded hpadding hkeeps⟩

/-- With a second space in front of its words a header row announces nothing any more. -/
theorem columns_read_widePadding :
    let text := "# T\n| Column Name | Type | Description |\n|---|---|---|\n| A | int | a |\n"
    let text' := "# T\n|  Column Name | Type | Description |\n|---|---|---|\n| A | int | a |\n"
    Repadded text text' ∧ (read text).columns = .ofList [("A", "int")] ∧
      (read text').columns = .empty := by
  intro text text'
  have hheader : Repad text text' :=
    ⟨["# T".toList], '|' :: " Column Name | Type | Description |".toList, _,
      ["|---|---|---|".toList, "| A | int | a |".toList, []],
      .behind ' ' [] " Column Name | Type | Description |".toList (by decide),
      Or.inl (by decide), by decide, by decide⟩
  exact ⟨.rel _ _ hheader, by decide, by decide⟩

end TableCatalog.Page
