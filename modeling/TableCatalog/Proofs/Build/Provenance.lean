import Mathlib
import TableCatalog.Proofs.Build.Environment

/-!
# Where every table and every column of an environment comes from

`buildEnvironment_ok` leaves one list of writes behind: the pages in the order of their names, then
the override entry. `Provenance` reads that list back in terms of the pages and the entry
themselves. It is exact in both directions: nothing that a page or the entry says is lost, nothing
is there that neither of them says, and the order of tables and of columns is fixed.

The two levels follow different rules at once. A table and a column stand where they were *first*
seen; a type is the one that was seen *last*, and the entry is always last.
-/

set_option autoImplicit false

namespace TableCatalog

open Page (Reading)

/-- `type` is what the last page of a table that describes a column says of it. -/
def LastDescribes (pages : List Reading) (table column : String) (type : ColumnType) : Prop :=
  ∃ before page after, pages = before ++ page :: after ∧
    page.name = some table ∧ page.columns.get? column = some type ∧
    ∀ later ∈ after, later.name = some table → later.columns.get? column = none

/-- `tables` are what `pages`, in their order, and behind them the override entry `entry` say. -/
structure Provenance (pages : List Reading) (entry tables : Tables) : Prop where
  /-- A table is there if a page names it, with columns or without, or the entry has it. -/
  mem_keys_iff (table : String) :
    table ∈ tables.keys ↔ (∃ page ∈ pages, page.name = some table) ∨ table ∈ entry.keys
  /-- A type is the entry's; where the entry has none it is the last page's. -/
  type?_eq_some_iff (table column : String) (type : ColumnType) :
    Tables.type? tables table column = some type ↔
      Tables.type? entry table column = some type ∨
        Tables.type? entry table column = none ∧ LastDescribes pages table column type
  /-- The tables of the pages, each where it is first named, then those only the entry has. -/
  keys_eq : tables.keys = (pages.filterMap (·.name) ++ entry.keys).eraseDups
  /-- The columns of the table's pages, each where it first appears, then those only the entry
  has. -/
  keys_columnsOf_eq (table : String) :
    (Tables.columnsOf tables table).keys =
      ((pages.filter fun page => page.name = some table).flatMap (·.columns.keys) ++
        (Tables.columnsOf entry table).keys).eraseDups

/-! ## The writes of pages -/

theorem map_fst_writes (pages : List Reading) :
    (pages.flatMap Reading.writes).map Prod.fst = pages.filterMap (·.name) := by
  induction pages with
  | nil => rfl
  | cons page pages ih =>
    rw [List.flatMap_cons, List.map_append, ih, Reading.writes]
    cases h : page.name with
    | none => rw [List.filterMap_cons_none h]; rfl
    | some name => rw [List.filterMap_cons_some h]; rfl

theorem writesTo_writes (pages : List Reading) (table : String) :
    Tables.writesTo (pages.flatMap Reading.writes) table =
      (pages.filter fun page => page.name = some table).map (·.columns) := by
  induction pages with
  | nil => rfl
  | cons page pages ih =>
    rw [List.flatMap_cons, Tables.writesTo_append, ih, Reading.writes, List.filter_cons]
    cases h : page.name with
    | none => simp [Tables.writesTo]
    | some name => by_cases hn : name = table <;> simp [Tables.writesTo, hn]

theorem lastType?_writes (pages : List Reading) (table column : String) :
    Tables.lastType? (pages.flatMap Reading.writes) table column =
      pages.reverse.findSome? fun page =>
        if page.name = some table then page.columns.get? column else none := by
  induction pages with
  | nil => rfl
  | cons page pages ih =>
    rw [List.flatMap_cons, Tables.lastType?_append, ih, List.reverse_cons, List.findSome?_append,
      Reading.writes]
    -- the first page is asked last, so only its own answer is left to compare
    congr 1
    cases h : page.name with
    | none => simp [Tables.lastType?, Tables.writesTo, h]
    | some name => by_cases hn : name = table <;> simp [Tables.lastType?, Tables.writesTo, h, hn]

theorem lastType?_writes_eq_some_iff {pages : List Reading} {table column : String}
    {type : ColumnType} :
    Tables.lastType? (pages.flatMap Reading.writes) table column = some type ↔
      LastDescribes pages table column type := by
  rw [lastType?_writes, List.findSome?_eq_some_iff]
  constructor
  · rintro ⟨after, page, before, hpages, hpage, hafter⟩
    -- the page that decides must be one of the table, and those behind it say nothing
    split at hpage
    · next hname =>
      refine ⟨before.reverse, page, after.reverse, ?_, hname, hpage, fun later hlater hl => ?_⟩
      · rw [← List.reverse_reverse pages, hpages]
        simp
      · simpa [hl] using hafter later (List.mem_reverse.1 hlater)
    · simp at hpage
  · rintro ⟨before, page, after, rfl, hname, htype, hafter⟩
    refine ⟨after.reverse, page, before.reverse, by simp, by rw [if_pos hname, htype], ?_⟩
    intro later hlater
    by_cases hl : later.name = some table
    · rw [if_pos hl, hafter later (List.mem_reverse.1 hlater) hl]
    · rw [if_neg hl]

/-! ## The result -/

theorem Provenance.of_writes (pages : List Reading) (entry : Tables) :
    Provenance pages entry
      (Tables.mergeList .empty (pages.flatMap Reading.writes ++ entry.toList)) where
  mem_keys_iff table := by
    rw [Tables.keys_mergeList, OrderedMap.keys_empty, List.nil_append, List.mem_eraseDups,
      List.map_append, List.mem_append, map_fst_writes, List.mem_filterMap]
    rfl
  type?_eq_some_iff table column type := by
    have hempty : Tables.type? .empty table column = none := rfl
    rw [Tables.type?_mergeList, hempty, Option.or_none, Tables.lastType?_append,
      Tables.lastType?_toList, ← lastType?_writes_eq_some_iff, Option.or_eq_some_iff]
  keys_eq := by
    rw [Tables.keys_mergeList, OrderedMap.keys_empty, List.nil_append, List.map_append,
      map_fst_writes]
    rfl
  keys_columnsOf_eq table := by
    have hempty : Tables.columnsOf .empty table = .empty := rfl
    have hentry : (Tables.writesTo entry.toList table).flatMap OrderedMap.keys =
        (Tables.columnsOf entry table).keys := by
      rw [Tables.writesTo_toList, Tables.columnsOf]
      cases entry.get? table <;> simp
    rw [Tables.keys_columnsOf_mergeList, hempty, OrderedMap.keys_empty, List.nil_append,
      Tables.writesTo_append, List.flatMap_append, writesTo_writes, List.flatMap_map, hentry]

/-- **The provenance of a built environment.** The pages are those of the directory, in ascending
order of their names, each as it was read; the entry is that of the environment; and the tables say
what these say. -/
theorem buildEnvironment_provenance {outer : List Log.Scope} {e : Environment} {directory : Path}
    {overrides : Overrides} {w : World} {schema : EnvironmentSchema}
    (h : (buildEnvironment outer e directory overrides w).1 = .ok schema) :
    ∃ g names pages entry,
      Glob.parse e.pattern = .ok g ∧ PageNames w.files directory g names ∧
      List.Forall₂
        (fun name page => ∃ text, w.Holds (Path.join directory name) text ∧ page = Page.read text)
        names pages ∧
      overrides.environments.get? e.name = some entry ∧
      Provenance pages entry schema.tables := by
  obtain ⟨g, names, pages, entry, hparse, hnames, hpages, hentry, rfl⟩ := buildEnvironment_ok h
  exact ⟨g, names, pages, entry, hparse, hnames, hpages, hentry, .of_writes pages entry⟩

/-! ## A case

Two pages describe one table, the second page is listed first, and the entry replaces a type that
both levels of the merge have touched. -/

/-- A directory that lists its second page first, and an override file. -/
def twoPages (a b overrides : String) : FileTree :=
  ⟨⟨[(["d"], .directory), (["d", "b"], .file b.toUTF8), (["d", "a"], .file a.toUTF8),
    (["o"], .file overrides.toUTF8)], by simp⟩, []⟩

/-- The environment of that directory, whatever its pages are called. -/
def anyPages : Environment := ⟨"env", "d", "*", "", []⟩

theorem parse_anyPages : Glob.parse anyPages.pattern = .ok ⟨[.star]⟩ := by cbv

section TwoPages

variable (a b overrides : String)

theorem list_twoPages : (twoPages a b overrides).list "d" = .ok ["b", "a"] := by cbv

theorem pageTexts_twoPages : PageTexts (twoPages a b overrides) "d" ["a", "b"] [a, b] := by
  refine .cons ?_ (.cons ?_ .nil)
  · rw [FileTree.readText_eq_ok_iff]
    cbv
  · rw [FileTree.readText_eq_ok_iff]
    cbv

theorem pageNames_twoPages : PageNames (twoPages a b overrides) "d" ⟨[.star]⟩ ["a", "b"] :=
  .of_texts (list_twoPages a b overrides) (by decide) (pageTexts_twoPages a b overrides)
    (by decide) (by decide)

end TwoPages

theorem buildEnvironment_provenance_twoPages :
    let w := World.quiet
      (twoPages "# T\n## Columns\n|A|int|\n|B|bigint|\n" "# T\n## Columns\n|B|real|\n|C|date|\n"
        "")
    let overrides : Overrides :=
      ⟨.ofList [("env", .ofList [("T", .ofList [("A", "X")]), ("U", .empty)])], "o"⟩
    let schema : EnvironmentSchema :=
      ⟨.ofList [("T", .ofList [("A", "X"), ("B", "real"), ("C", "date")]), ("U", .empty)], []⟩
    (buildEnvironment [] anyPages "d" overrides w).1 = .ok schema ∧
      ∃ g names pages entry,
        Glob.parse anyPages.pattern = .ok g ∧ PageNames w.files "d" g names ∧
        List.Forall₂
          (fun name page => ∃ text, w.Holds (Path.join "d" name) text ∧ page = Page.read text)
          names pages ∧
        overrides.environments.get? anyPages.name = some entry ∧
        Provenance pages entry schema.tables := by
  intro w overrides schema
  have h : (buildEnvironment [] anyPages "d" overrides w).1 = .ok schema := by
    have hentry : overrides.environments.get? anyPages.name =
        some (.ofList [("T", .ofList [("A", "X")]), ("U", .empty)]) := by decide
    refine (buildEnvironment_ok_iff fun _ _ _ _ => World.not_logsInto_quiet _ _).2 ?_
    exact ⟨_, _, _, _, parse_anyPages, pageNames_twoPages _ _ _, pageTexts_twoPages _ _ _, hentry,
      by decide⟩
  exact ⟨h, buildEnvironment_provenance h⟩

end TableCatalog
