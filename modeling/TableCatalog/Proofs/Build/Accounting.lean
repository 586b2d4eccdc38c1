import TableCatalog.Proofs.Build.Provenance
import TableCatalog.Proofs.Page.Skipped

/-!
# Every page and every row in the log

Nothing that a build finds is dropped without a word. Of each page the log says in the end either
which table it gave, with how many columns, or that it was passed over because it has no heading;
before that it names the rows of the page that described no column. So whoever reads the log knows
of every page what became of it, and of every row that it is either named there or written.

`buildEnvironment_ok_noted` has the notices of a build as they are made. Here they are taken by what
is read of them: a level, a message and fields (`Log.Notice.Says`). `Page.PageNoted` is what stands
in the log about one page, `BuildNoted` what stands there about an environment.
-/

set_option autoImplicit false

namespace TableCatalog

namespace Log.Notice

/-- What is read of a notice in a log. -/
structure Says (n : Notice) (level : Level) (message : String) (fields : List Field) : Prop where
  level_eq : n.level = level
  message_eq : n.message = message
  fields_eq : n.fields = fields

/-- A notice names a row that was passed over. -/
def NamesRow (row : String) (n : Notice) : Prop :=
  n.Says .trace "skipped table row" [("row", .text row)]

/-- A notice names some row. -/
def isRowNotice (n : Notice) : Bool := n.message == "skipped table row"

/-- A notice tells what became of a page. -/
def isPageNotice (n : Notice) : Bool :=
  n.message == "extracted table" || n.message == "no table heading found; skipping file"

end Log.Notice

namespace Page

open Text

/-- A notice tells what became of a page: with a heading it gives the table that the first one
names, without one it is passed over. -/
inductive Reported (file : Path) (text : String) (n : Log.Notice) : Prop
  | table {line word : List Char} {after : List (List Char)} :
      FirstOf isHeading (lines text.toList) line after → IsLastWord word line →
      n.Says .debug "extracted table" [("file", .text file), ("table", .text (.ofList word)),
        ("columns", .count (read text).columns.size)] →
      Reported file text n
  | passed : (∀ line ∈ lines text.toList, isHeading line = false) →
      n.Says .warn "no table heading found; skipping file" [("file", .text file)] →
      Reported file text n

/-- `notices` are what stands in the log about a page: the rows that were passed over, in their
order, and then what became of the page. -/
def PageNoted (file : Path) (text : String) (notices : List Log.Notice) : Prop :=
  ∃ skipped rows report, notices = rows ++ [report] ∧
    Accounted (lines text.toList) (read text).columns skipped ∧
    List.Forall₂ Log.Notice.NamesRow skipped rows ∧ Reported file text report

end Page

open Page (Reading PageNoted Reported Accounted)

/-- `notices` are what stands in the log about the pages of a directory. -/
structure BuildNoted (directory : Path) (names texts : List String)
    (notices : List Log.Notice) : Prop where
  /-- The pages stand there one by one, in the order of their names, between a beginning and an
  end. -/
  pages : ∃ first last blocks, notices = first :: blocks.flatten ++ [last] ∧
    List.Forall₂ (fun page block => PageNoted (Path.join directory page.1) page.2 block)
      (names.zip texts) blocks
  /-- Of each page the log tells once what became of it, and of nothing else. -/
  reports : List.Forall₂ (fun page n => Reported (Path.join directory page.1) page.2 n)
    (names.zip texts) (notices.filter Log.Notice.isPageNotice)
  /-- The rows that the log names are those that the pages passed over. -/
  rows : ∃ skipped,
    List.Forall₂ (fun text rows =>
      Accounted (Page.lines text.toList) (Page.read text).columns rows) texts skipped ∧
    List.Forall₂ Log.Notice.NamesRow skipped.flatten (notices.filter Log.Notice.isRowNotice)

/-! ## One page -/

namespace Page

/-- What is noted in the end about a page. -/
def Reading.report (page : Reading) (file : Path) : Log.Notice :=
  match page.name with
  | some name => .tableRead file name page.columns.size
  | none => .headingMissing file

theorem Reading.notices_eq (page : Reading) (file : Path) :
    page.notices file = page.skipped.map .rowSkipped ++ [page.report file] := rfl

theorem reported_read (file : Path) (text : String) :
    Reported file text ((read text).report file) := by
  rcases none_or_firstOf isHeading (lines text.toList) with hnone | ⟨line, after, hfirst⟩
  · have hname := (read_description text).name_of_none hnone
    rw [Reading.report, hname]
    exact .passed hnone ⟨rfl, rfl, rfl⟩
  · obtain ⟨word, hword, hname⟩ := (read_description text).name_of_heading hfirst
    rw [Reading.report, hname]
    exact .table hfirst hword ⟨rfl, rfl, rfl⟩

theorem forall₂_namesRow (rows : List String) :
    List.Forall₂ Log.Notice.NamesRow rows (rows.map .rowSkipped) :=
  forall₂_map_of_forall fun _ _ => ⟨rfl, rfl, rfl⟩

theorem pageNoted_read (file : Path) (text : String) :
    PageNoted file text ((read text).notices file) :=
  ⟨_, _, _, Reading.notices_eq _ file, accounted_read text, forall₂_namesRow _,
    reported_read file text⟩

section Filter

variable (page : Reading) (file : Path)

theorem filter_isPageNotice_notices :
    (page.notices file).filter Log.Notice.isPageNotice = [page.report file] := by
  have hrows : (page.skipped.map Log.Notice.rowSkipped).filter Log.Notice.isPageNotice = [] := by
    rw [List.filter_eq_nil_iff, List.forall_mem_map]
    exact fun row _ => by simp [Log.Notice.isPageNotice, Log.Notice.message]
  have hreport : (page.report file).isPageNotice = true := by
    unfold Reading.report
    cases page.name <;> rfl
  rw [Reading.notices_eq, List.filter_append, hrows, List.filter_singleton, hreport]
  rfl

theorem filter_isRowNotice_notices :
    (page.notices file).filter Log.Notice.isRowNotice = page.skipped.map .rowSkipped := by
  have hrows : (page.skipped.map Log.Notice.rowSkipped).filter Log.Notice.isRowNotice =
      page.skipped.map .rowSkipped := by
    rw [List.filter_eq_self, List.forall_mem_map]
    exact fun row _ => rfl
  have hreport : (page.report file).isRowNotice = false := by
    unfold Reading.report
    cases page.name <;> rfl
  rw [Reading.notices_eq, List.filter_append, hrows, List.filter_singleton, hreport]
  exact List.append_nil _

end Filter

end Page

/-! ## The pages of an environment -/

section Environment

variable (directory : Path) (names texts : List String)

/-- The notices about the pages are those about one page after the other. -/
theorem noticesOf_map : Reading.noticesOf (names.map (Path.join directory)) (texts.map Page.read) =
    ((names.zip texts).map fun page =>
      (Page.read page.2).notices (Path.join directory page.1)).flatten := by
  rw [Reading.noticesOf, List.zip_map, List.flatMap_map, List.flatMap_def]
  rfl

/-- A choice of notices that leaves out the two ends is made page by page. -/
theorem filter_environmentNotices {keep : Log.Notice → Bool}
    {kept : Reading → Path → List Log.Notice}
    (hpage : ∀ page file, (Reading.notices page file).filter keep = kept page file)
    (hfound : ∀ directory pattern pages, keep (.pagesFound directory pattern pages) = false)
    (hdone : ∀ tables columns, keep (.environmentDone tables columns) = false)
    (e : Environment) (schema : EnvironmentSchema) :
    (environmentNotices e directory names (texts.map Page.read) schema).filter keep =
      (names.zip texts).flatMap fun page =>
        kept (Page.read page.2) (Path.join directory page.1) := by
  rw [environmentNotices, noticesOf_map, List.filter_append, List.filter_cons, hfound,
    List.filter_singleton, hdone, List.filter_flatten, List.map_map, List.flatMap_def]
  simp [Function.comp_def, hpage]

theorem flatMap_skipped_zip (hlength : names.length = texts.length) :
    (names.zip texts).flatMap (fun page => (Page.read page.2).skipped.map Log.Notice.rowSkipped) =
      (texts.map fun text => (Page.read text).skipped).flatten.map .rowSkipped := by
  have htexts : (names.zip texts).map Prod.snd = texts := List.map_snd_zip hlength.ge
  rw [← List.flatMap_def, List.map_flatMap]
  conv_rhs => rw [← htexts, List.flatMap_map]

theorem buildNoted_environmentNotices (hlength : names.length = texts.length) (e : Environment)
    (schema : EnvironmentSchema) :
    BuildNoted directory names texts
      (environmentNotices e directory names (texts.map Page.read) schema) where
  pages := by
    refine ⟨_, _, _, congrArg (_ :: · ++ _) (noticesOf_map directory names texts), ?_⟩
    exact forall₂_map_of_forall fun page _ => Page.pageNoted_read _ _
  reports := by
    rw [filter_environmentNotices directory names texts Page.filter_isPageNotice_notices
      (fun _ _ _ => rfl) (fun _ _ => rfl), ← List.map_eq_flatMap]
    exact forall₂_map_of_forall fun page _ => Page.reported_read _ _
  rows := by
    refine ⟨texts.map fun text => (Page.read text).skipped, ?_, ?_⟩
    · exact forall₂_map_of_forall fun text _ => Page.accounted_read text
    · rw [filter_environmentNotices directory names texts Page.filter_isRowNotice_notices
        (fun _ _ _ => rfl) (fun _ _ => rfl), flatMap_skipped_zip names texts hlength]
      exact Page.forall₂_namesRow _

end Environment

/-- **Every page and every row is accounted for.** A page that is read is noted with all its rows,
whatever becomes of the run; and a build that succeeds notes each of the pages that it is built from
once. -/
theorem pages_and_rows_accounted :
    (∀ scopes file files tables text, ∀ w : World, w.files.readText file = .ok text →
      ∃ notices, PageNoted file text notices ∧
        scanPages scopes (file :: files) tables w =
          scanPages scopes files (Tables.mergeList tables (Page.read text).writes)
            (w.noted (notices.map fun n => ⟨scopes, n⟩))) ∧
    ∀ outer e directory overrides w schema,
      (buildEnvironment outer e directory overrides w).1 = .ok schema →
      ∃ g names texts entry notices,
        Glob.parse e.pattern = .ok g ∧ PageNames w.files directory g names ∧
        List.Forall₂ (fun name text => w.Holds (Path.join directory name) text) names texts ∧
        schema.tables = Tables.mergeList .empty
          ((texts.map Page.read).flatMap Reading.writes ++ OrderedMap.toList entry) ∧
        (buildEnvironment outer e directory overrides w).2.entries =
          w.entries ++ notices.map (fun n => ⟨outer ++ [.environment e.name], n⟩) ∧
        BuildNoted directory names texts notices := by
  constructor
  · intro scopes file files tables text w hread
    exact ⟨_, Page.pageNoted_read file text, scanPages_cons_ok hread⟩
  · intro outer e directory overrides w schema h
    obtain ⟨g, names, pages, entry, hparse, hnames, hpages, -, hschema, hnoted⟩ :=
      buildEnvironment_ok_noted h
    obtain ⟨texts, htexts, rfl⟩ := exists_texts hpages
    refine ⟨g, names, texts, entry, _, hparse, hnames, htexts, congrArg _ hschema, ?_,
      buildNoted_environmentNotices directory names texts htexts.length_eq e schema⟩
    rw [hnoted, World.entries_noted]

/-- A page without a heading whose last row is too short, and a page with one. -/
theorem pages_and_rows_accounted_twoPages :
    let a := "| x |\n## Columns\n| D | int | d |\n| x |\n"
    let b := "# T\n## Columns\n|A|int|\n"
    let w := World.quiet (twoPages a b "")
    let overrides : Overrides := ⟨.ofList [("env", .empty)], "o"⟩
    let schema : EnvironmentSchema := ⟨.ofList [("T", .ofList [("A", "int")])], []⟩
    (w.files.readText "d/a" = .ok a ∧
      ∃ notices, PageNoted "d/a" a notices ∧
        scanPages [] ["d/a", "d/b"] .empty w =
          scanPages [] ["d/b"] (Tables.mergeList .empty (Page.read a).writes)
            (w.noted (notices.map fun n => ⟨[], n⟩))) ∧
    (buildEnvironment [] anyPages "d" overrides w).1 = .ok schema ∧
      ∃ g names texts entry notices,
        Glob.parse anyPages.pattern = .ok g ∧ PageNames w.files "d" g names ∧
        List.Forall₂ (fun name text => w.Holds (Path.join "d" name) text) names texts ∧
        schema.tables = Tables.mergeList .empty
          ((texts.map Page.read).flatMap Reading.writes ++ OrderedMap.toList entry) ∧
        (buildEnvironment [] anyPages "d" overrides w).2.entries =
          w.entries ++ notices.map (fun n => ⟨[] ++ [.environment "env"], n⟩) ∧
        BuildNoted "d" names texts notices := by
  intro a b w overrides schema
  have hread : w.files.readText "d/a" = .ok a := by
    rw [FileTree.readText_eq_ok_iff]
    cbv
  have hbuilt : (buildEnvironment [] anyPages "d" overrides w).1 = .ok schema := by
    have hentry : overrides.environments.get? anyPages.name = some .empty := rfl
    refine (buildEnvironment_ok_iff fun _ _ _ _ => World.not_logsInto_quiet _ _).2 ?_
    exact ⟨_, _, _, _, parse_anyPages, pageNames_twoPages _ _ _, pageTexts_twoPages _ _ _, hentry,
      by decide⟩
  exact ⟨⟨hread, pages_and_rows_accounted.1 _ _ _ _ _ w hread⟩, hbuilt,
    pages_and_rows_accounted.2 _ _ _ _ w schema hbuilt⟩

end TableCatalog
