import Mathlib.Logic.Relation
import TableCatalog.Proofs.Page.Sheet

/-!
# Noise

Pages differ in much that has nothing to do with their tables: how their lines end, how far they are
indented, what stands between the rows, where words are set in backticks. `Reformat` is one such
change and `Reformatted` is any number of them, forwards and backwards.

What a page is read as depends on its telling lines only, which are the headings, the section markers
and the rows: the reader leaves every other line as if it were not there
(`Reading.step_of_not_telling`). So it is enough to see that a change keeps the telling lines. Within
a line each change keeps even what is said there (`Relaid.said_eq`), and this is where the order of
the two clean-ups matters. A line is trimmed first, so a backtick that is added inside what trimming
leaves is taken out again and nothing else goes with it; behind a space at the end of a line it would
save the space from being trimmed.
-/

set_option autoImplicit false

namespace TableCatalog.Page

open Text

/-! ## Changing a page -/

/-- What a line says: it is trimmed, and its backticks are removed. -/
def said (raw : List Char) : List Char := withoutTicks (trim raw)

/-- A line is a heading, a section marker or a row. -/
def isTelling (line : List Char) : Bool := isHeading line || isSectionMarker line || isRow line

/-- The headings, section markers and rows of a page, in order. -/
def tellingLines (text : String) : List (List Char) := (lines text.toList).filter isTelling

/-- The second line is the first with one character more, which says nothing. -/
inductive Relaid : List Char → List Char → Prop
  | start {blanks : List Char} (c : Char) (rest : List Char) :
      (∀ b ∈ blanks, isBlank b = true) → isBlank c = true →
        Relaid (blanks ++ rest) (blanks ++ c :: rest)
  | close {blanks : List Char} (c : Char) (front : List Char) :
      (∀ b ∈ blanks, isBlank b = true) → isBlank c = true →
        Relaid (front ++ blanks) (front ++ c :: blanks)
  /-- A backtick is put anywhere into what trimming leaves. -/
  | tick {left right : List Char} (front after : List Char) :
      (∀ b ∈ left, isBlank b = true) → (∀ b ∈ right, isBlank b = true) →
        trim (left ++ (front ++ after) ++ right) = front ++ after →
          Relaid (left ++ (front ++ after) ++ right) (left ++ (front ++ '`' :: after) ++ right)

/-- One change of a page that adds noise. -/
inductive Reformat : String → String → Prop
  /-- A line end gets a carriage return. -/
  | carriageReturn {text text' : String} (front after : List Char) :
      text.toList = front ++ '\n' :: after → text'.toList = front ++ '\r' :: '\n' :: after →
        Reformat text text'
  | lastBreak (text : String) : Reformat text (text ++ "\n")
  /-- A line is written in another way. -/
  | relay {text text' : String} {above below : List (List Char)} {line line' : List Char} :
      Relaid line line' → pieces '\n' text.toList = above ++ line :: below →
        pieces '\n' text'.toList = above ++ line' :: below → Reformat text text'
  /-- A line is put in that is blank or prose. -/
  | prose {text text' : String} {above below : List (List Char)} {extra : List Char} :
      isTelling (said extra) = false → pieces '\n' text.toList = above ++ below →
        pieces '\n' text'.toList = above ++ extra :: below → Reformat text text'

/-- Noise is added and removed, anywhere on a page. -/
def Reformatted : String → String → Prop := Relation.EqvGen Reformat

/-! ## Within a line -/

theorem trim_tick {cs front after : List Char} (h : trim cs = front ++ after) :
    trim (front ++ '`' :: after) = front ++ '`' :: after := by
  have hfirst : ∀ c ∈ (front ++ after).head?, isBlank c = false := by
    rw [← h]
    intro c hc
    exact isBlank_head?_trim hc
  have hlast : ∀ c ∈ (front ++ after).getLast?, isBlank c = false := by
    rw [← h]
    intro c hc
    exact isBlank_getLast?_trim hc
  -- at either end stands what stood there, or the backtick
  apply trim_eq_self
  · intro c hc
    cases front with
    | nil =>
      obtain rfl : '`' = c := Option.some.inj hc
      decide
    | cons d front => exact hfirst c hc
  · intro c hc
    rw [List.getLast?_append] at hlast
    rw [List.getLast?_append, List.getLast?_cons] at hc
    cases hafter : after.getLast? with
    | none =>
      rw [hafter] at hc
      obtain rfl : '`' = c := Option.some.inj hc
      decide
    | some d =>
      rw [hafter] at hc hlast
      exact hlast c hc

/-- **Within a line, noise changes nothing that is said.** -/
theorem Relaid.said_eq {line line' : List Char} (h : Relaid line line') : said line = said line' := by
  unfold said
  cases h with
  | @start blanks c rest hblanks hc =>
    have hmore : ∀ b ∈ [c], isBlank b = true := by simpa using hc
    rw [trim_blanks_append hblanks, trim_blanks_append hblanks]
    exact congrArg withoutTicks (trim_blanks_append hmore rest).symm
  | @close blanks c front hblanks hc =>
    have hmore : ∀ b ∈ c :: blanks, isBlank b = true := List.forall_mem_cons.2 ⟨hc, hblanks⟩
    rw [trim_append_blanks hblanks, trim_append_blanks hmore]
  | @tick left right front after hleft hright htrim =>
    have hticked : trim (left ++ (front ++ '`' :: after) ++ right) = front ++ '`' :: after := by
      rw [trim_append_blanks hright, trim_blanks_append hleft, trim_tick htrim]
    rw [htrim, hticked, withoutTicks_append, withoutTicks_append]
    rfl

/-! ## The telling lines of a page -/

/-- A line that was left out because it is blank would have told nothing. -/
theorem tellingLines_eq (text : String) :
    tellingLines text = ((pieces '\n' text.toList).map said).filter isTelling := by
  have hblank (l : List Char) : (isTelling (withoutTicks l) && !l.isEmpty) =
      isTelling (withoutTicks l) := by
    cases l with
    | nil => rfl
    | cons c l => exact Bool.and_true _
  calc tellingLines text
      = ((((pieces '\n' text.toList).map trim).filter fun l => !l.isEmpty).map
          withoutTicks).filter isTelling := rfl
    _ = (((pieces '\n' text.toList).map trim).filter fun l => isTelling (withoutTicks l)).map
          withoutTicks := by
        rw [List.filter_map, List.filter_filter]
        simp only [Function.comp_apply, hblank]
    _ = (((pieces '\n' text.toList).map trim).map withoutTicks).filter isTelling := by
        rw [List.filter_map (f := withoutTicks)]
        rfl
    _ = ((pieces '\n' text.toList).map said).filter isTelling := by
        rw [List.map_map]
        rfl

/-- **Noise changes none of the telling lines.** -/
theorem Reformat.tellingLines_eq {text text' : String} (h : Reformat text text') :
    tellingLines text = tellingLines text' := by
  rw [Page.tellingLines_eq, Page.tellingLines_eq]
  cases h with
  | carriageReturn front after htext htext' =>
    have hreturn : ∀ b ∈ ['\r'], isBlank b = true := by
      intro b hb
      rw [List.mem_singleton.1 hb]
      decide
    have hbreak : '\n' ∉ ['\r'] := by decide
    obtain ⟨above, line, hcut, hcut'⟩ := exists_pieces_append front hbreak
    have hsplit : front ++ '\r' :: '\n' :: after = (front ++ ['\r']) ++ '\n' :: after := by simp
    have hsaid : said (line ++ ['\r']) = said line := by
      rw [said, trim_append_blanks hreturn]
      rfl
    rw [htext, htext', hsplit, pieces_append, pieces_append, hcut, hcut']
    simp only [List.map_append, List.map_cons, List.map_nil, hsaid]
  | lastBreak =>
    have hbreak : (text ++ "\n").toList = text.toList ++ '\n' :: [] := String.toList_append
    rw [hbreak, pieces_append, List.map_append, List.filter_append]
    exact (List.append_nil _).symm
  | relay hline htext htext' =>
    rw [htext, htext', List.map_append, List.map_append, List.map_cons, List.map_cons, hline.said_eq]
  | prose hnothing htext htext' =>
    rw [htext, htext', List.map_append, List.map_append, List.map_cons, List.filter_append,
      List.filter_append, List.filter_cons_of_neg (by simp [hnothing])]

theorem Reformatted.tellingLines_eq {text text' : String} (h : Reformatted text text') :
    tellingLines text = tellingLines text' := by
  induction h with
  | rel _ _ hstep => exact hstep.tellingLines_eq
  | refl _ => rfl
  | symm _ _ _ ih => exact ih.symm
  | trans _ _ _ _ _ ih ih' => exact ih.trans ih'

/-! ## Reading -/

theorem Reading.step_of_not_telling (r : Reading) {line : List Char}
    (h : isTelling line = false) : r.step line = r := by
  unfold isTelling at h
  simp only [Bool.or_eq_false_iff] at h
  obtain ⟨⟨hheading, hmarker⟩, hrow⟩ := h
  simp [step, noteHeading, hheading, hmarker, hrow]

/-- A page is read as its telling lines. -/
theorem read_eq_foldl_tellingLines (text : String) :
    read text = (tellingLines text).foldl Reading.step .start := by
  have hskip : (fun (r : Reading) line => if isTelling line = true then r.step line else r) =
      Reading.step := by
    funext r line
    split
    · rfl
    · next hnot => exact (r.step_of_not_telling (Bool.eq_false_iff.2 hnot)).symm
  rw [tellingLines, List.foldl_filter, hskip]
  rfl

/-- **Noise does not change what a page is read as**, and nothing else does that keeps the headings,
the section markers and the rows, as trimming and the removal of backticks leave them. -/
theorem read_eq_of_reformatted (text text' : String) :
    (Reformatted text text' → read text = read text') ∧
      (tellingLines text = tellingLines text' → read text = read text') := by
  have htelling : tellingLines text = tellingLines text' → read text = read text' := by
    intro hsame
    rw [read_eq_foldl_tellingLines, read_eq_foldl_tellingLines, hsame]
  exact ⟨fun hnoise => htelling hnoise.tellingLines_eq, htelling⟩

/-- Each kind of noise once: a carriage return, a last line break, indentation, prose between the
announcement and the rows, a backtick. -/
theorem read_eq_of_reformatted_oneOfEach :
    let text := "# T\n## Columns\n| A | int | a |"
    let text' := "# T\r\n ## Columns\nSee `B`.\n| A | `int | a |\n"
    Reformatted text text' ∧ tellingLines text = tellingLines text' ∧ read text = read text' := by
  intro text text'
  let returned := "# T\r\n## Columns\n| A | int | a |"
  let indented := "# T\r\n ## Columns\n| A | int | a |\n"
  let explained := "# T\r\n ## Columns\nSee `B`.\n| A | int | a |\n"
  have hreturn : Reformat text returned :=
    .carriageReturn "# T".toList "## Columns\n| A | int | a |".toList (by decide) (by decide)
  have hindent : Reformat (returned ++ "\n") indented := by
    have hrelaid : Relaid "## Columns".toList " ## Columns".toList :=
      .start ' ' "## Columns".toList (fun b hb => absurd hb List.not_mem_nil) (by decide)
    have hcut : pieces '\n' (returned ++ "\n").toList =
        ["# T\r".toList] ++ "## Columns".toList :: ["| A | int | a |".toList, []] := by
      decide
    have hcut' : pieces '\n' indented.toList =
        ["# T\r".toList] ++ " ## Columns".toList :: ["| A | int | a |".toList, []] := by
      decide
    exact .relay hrelaid hcut hcut'
  have hexplain : Reformat indented explained := by
    have hprose : isTelling (said "See `B`.".toList) = false := by decide
    have hcut : pieces '\n' indented.toList =
        ["# T\r".toList, " ## Columns".toList] ++ ["| A | int | a |".toList, []] := by
      decide
    have hcut' : pieces '\n' explained.toList = ["# T\r".toList, " ## Columns".toList] ++
        "See `B`.".toList :: ["| A | int | a |".toList, []] := by
      decide
    exact .prose hprose hcut hcut'
  have htick : Reformat explained text' := by
    have hrelaid : Relaid ([] ++ ("| A | ".toList ++ "int | a |".toList) ++ [])
        ([] ++ ("| A | ".toList ++ '`' :: "int | a |".toList) ++ []) :=
      .tick "| A | ".toList "int | a |".toList (fun b hb => absurd hb List.not_mem_nil)
        (fun b hb => absurd hb List.not_mem_nil) (by decide)
    have hcut : pieces '\n' explained.toList =
        ["# T\r".toList, " ## Columns".toList, "See `B`.".toList] ++
          ([] ++ ("| A | ".toList ++ "int | a |".toList) ++ []) :: [[]] := by
      decide
    have hcut' : pieces '\n' text'.toList =
        ["# T\r".toList, " ## Columns".toList, "See `B`.".toList] ++
          ([] ++ ("| A | ".toList ++ '`' :: "int | a |".toList) ++ []) :: [[]] := by
      decide
    exact .relay hrelaid hcut hcut'
  have hnoise : Reformatted text text' :=
    .trans _ _ _ (.rel _ _ hreturn) <| .trans _ _ _ (.rel _ _ (.lastBreak returned)) <|
      .trans _ _ _ (.rel _ _ hindent) <| .trans _ _ _ (.rel _ _ hexplain) (.rel _ _ htick)
  exact ⟨hnoise, hnoise.tellingLines_eq, (read_eq_of_reformatted text text').1 hnoise⟩

end TableCatalog.Page
