import TableCatalog.Proofs.Page.Sheet

/-!
# The name of a page and the text of its heading

A heading is a `# ` with text behind it, and the last word of the text is the name of the table. A
line is trimmed before it is looked at, so a `# ` that stands alone is no heading at all. What the
reader takes a name from, though, is the whole line, mark included. That makes no difference as long
as the text has a word, and it always would have one if trimming came last. Backticks are removed
after it: where nothing else follows the mark, the line is still a heading, its text is gone, and the
only word left is the mark itself.

`name_read_namedByText_iff` says that this is the one way to go wrong: apart from it a name is a word
of heading text. Whatever it comes from, it is not empty and holds neither white space nor backticks.
-/

set_option autoImplicit false

namespace TableCatalog.Page

open Text

/-- What stands behind the mark of a heading. -/
def headingText (line : List Char) : List Char := line.drop 2

/-- A heading has no text, or nothing but white space. -/
def IsBare (line : List Char) : Prop := ∀ c ∈ headingText line, isBlank c = true

instance (line : List Char) : Decidable (IsBare line) :=
  List.decidableBAll (fun c => isBlank c = true) (headingText line)

/-- A page has its name from the text of its first heading. -/
structure NamedByText (text : String) : Prop where
  /-- A name is the last word of the text of the first heading. -/
  name_of_text {name : String} : (read text).name = some name →
    ∃ line after, FirstOf isHeading (lines text.toList) line after ∧
      IsLastWord name.toList (headingText line)
  /-- A heading without text names no table. -/
  name_of_bare {line : List Char} {after : List (List Char)} :
    FirstOf isHeading (lines text.toList) line after → IsBare line → (read text).name = none

/-! ## The last word of a heading -/

theorem eq_mark_append_headingText {line : List Char} (h : isHeading line = true) :
    line = '#' :: ' ' :: headingText line := by
  obtain ⟨more, rfl⟩ : "# ".toList <+: line := List.isPrefixOf_iff_prefix.1 h
  rfl

/-- The mark is not seen where there is text. -/
theorem exists_isLastWord_headingText {line : List Char} (h : isHeading line = true)
    (htext : ¬ IsBare line) :
    ∃ word, IsLastWord word (headingText line) ∧ IsLastWord word line := by
  unfold IsBare at htext
  push Not at htext
  obtain ⟨c, hc, hblank⟩ := htext
  obtain ⟨word, hword⟩ := exists_isLastWord hc (by simpa using hblank)
  refine ⟨word, hword, ?_⟩
  rw [eq_mark_append_headingText h]
  exact hword.behind ['#'] (by decide)

theorem isLastWord_of_isBare {line : List Char} (h : isHeading line = true) (hbare : IsBare line) :
    IsLastWord ['#'] line := by
  have hmark : ∀ c ∈ ['#'], isBlank c = false := by
    intro c hc
    rw [List.mem_singleton.1 hc]
    decide
  have hafter : ∀ c ∈ ' ' :: headingText line, isBlank c = true :=
    List.forall_mem_cons.2 ⟨by decide, hbare⟩
  rw [eq_mark_append_headingText h]
  exact isLastWord_append (List.cons_ne_nil '#' []) hmark hafter

/-! ## The name -/

theorem exists_name_read {text : String} {line : List Char} {after : List (List Char)}
    (h : FirstOf isHeading (lines text.toList) line after) :
    ∃ word, IsLastWord word line ∧ (read text).name = some (.ofList word) :=
  (read_description text).name_of_heading h

theorem exists_firstOf_of_name {text name : String} (h : (read text).name = some name) :
    ∃ line after, FirstOf isHeading (lines text.toList) line after ∧
      IsLastWord name.toList line := by
  rcases none_or_firstOf isHeading (lines text.toList) with hnone | ⟨line, after, hfirst⟩
  · rw [(read_description text).name_of_none hnone] at h
    exact absurd h (by simp)
  · obtain ⟨word, hword, hname⟩ := exists_name_read hfirst
    rw [h, Option.some.injEq] at hname
    rw [hname]
    exact ⟨line, after, hfirst, by rwa [String.toList_ofList]⟩

/-- The name that a page gives to its table is a word. -/
theorem name_read_ne_empty {text name : String} (h : (read text).name = some name) :
    name ≠ "" := by
  obtain ⟨line, after, hfirst, -, -, -, hne, -⟩ := exists_firstOf_of_name h
  rwa [Ne, ← String.toList_eq_nil_iff]

theorem kept_name_read {text name : String} (h : (read text).name = some name) : Kept name := by
  obtain ⟨line, after, hfirst, hword⟩ := exists_firstOf_of_name h
  have hsubset := hword.subset
  obtain ⟨-, -, -, -, hkept, -⟩ := hword
  intro c hc
  refine ⟨hkept c hc, ?_⟩
  rintro rfl
  exact not_tick_of_mem_lines hfirst.mem (hsubset hc)

/-- A page whose first heading is bare is named by the mark. -/
theorem name_read_of_isBare {text : String} {line : List Char} {after : List (List Char)}
    (h : FirstOf isHeading (lines text.toList) line after) (hbare : IsBare line) :
    (read text).name = some "#" := by
  obtain ⟨word, hword, hname⟩ := exists_name_read h
  rw [hname, hword.unique (isLastWord_of_isBare h.passes hbare)]

/-- **When the name of a page comes from heading text**: its first heading has some. In any case a
name is not empty and holds neither white space nor backticks. -/
theorem name_read_namedByText_iff (text : String) :
    (∀ name, (read text).name = some name → name ≠ "" ∧ Kept name) ∧
      (NamedByText text ↔
        ∀ line after, FirstOf isHeading (lines text.toList) line after → ¬ IsBare line) := by
  refine ⟨fun name hname => ⟨name_read_ne_empty hname, kept_name_read hname⟩, ?_, ?_⟩
  · intro hnamed line after hfirst hbare
    have hnone := hnamed.name_of_bare hfirst hbare
    rw [name_read_of_isBare hfirst hbare] at hnone
    exact absurd hnone (by simp)
  · intro htext
    constructor
    · intro name hname
      obtain ⟨line, after, hfirst, hword⟩ := exists_firstOf_of_name hname
      obtain ⟨word, hofText, hofLine⟩ :=
        exists_isLastWord_headingText hfirst.passes (htext line after hfirst)
      rw [hword.unique hofLine]
      exact ⟨line, after, hfirst, hofText⟩
    · intro line after hfirst hbare
      exact absurd hbare (htext line after hfirst)

/-- A heading with nothing but backticks for its text names its table `#`. -/
theorem name_read_onlyTicks :
    let text := "# ``\n## Columns\n| A | int | a |\n"
    (read text).name = some "#" ∧
      FirstOf isHeading (lines text.toList) "# ".toList
        ["## Columns".toList, "| A | int | a |".toList] ∧
      IsBare "# ".toList := by
  intro text
  have hlines : lines text.toList =
      ["# ".toList, "## Columns".toList, "| A | int | a |".toList] := by
    decide
  have hfirst : FirstOf isHeading (lines text.toList) "# ".toList
      ["## Columns".toList, "| A | int | a |".toList] :=
    ⟨[], hlines, by simp, by decide⟩
  exact ⟨by decide, hfirst, by decide⟩

end TableCatalog.Page
