import TableCatalog.Proofs.Check
import TableCatalog.Proofs.Extract
import TableCatalog.Proofs.Grid

/-!
# The commands agree

`extract`, `check` and `environments` are three views of the same files. The first two build the
document the same way, each under a scope of its own, and a scope is seen in the log and nowhere
else. So they fail with the same errors, and what a check counts and lists is the document that
`extract` prints. The third builds nothing; it marks an environment as present exactly when
extracting it would not ask for its directory.

What a command leaves behind is described by `Ends`: an exit code, an output, and a complaint behind
the lines of the log.
-/

set_option autoImplicit false

namespace TableCatalog.Program

open CommandLine

/-- A command that has begun in `w` ends, and has changed nothing but the log on the way. -/
def Ends (w : World) (out : Outcome) (exit : Nat) (output complaint : String) : Prop :=
  ∃ es, out = leave (w.noted es) exit output complaint

theorem Ends.output_eq {w : World} {out : Outcome} {exit : Nat} {output complaint : String}
    (h : Ends w out exit output complaint) : out.output = output := by
  obtain ⟨es, rfl⟩ := h
  rfl

/-! ## Building under another scope -/

variable {names : List String} {b : BuildOptions} {w : World}

/-- A run fails with the same error under every scope. -/
theorem buildNamed_error_iff (scope scope' : Log.Scope) (err : CatalogError) :
    (buildNamed scope names b w).1 = .error err ↔ (buildNamed scope' names b w).1 = .error err := by
  rw [buildNamed_eq_buildSelected, buildNamed_eq_buildSelected,
    buildSelected_reports [scope] .builtin names b w err,
    buildSelected_reports [scope'] .builtin names b w err]

theorem buildNamed_scope_ok_iff (scope scope' : Log.Scope)
    (hspares : ∀ selected, EnvironmentSet.builtin.select names = .ok selected →
      ∀ e ∈ selected, w.SparesPages (e.sourceDir b.docsRoot) e) (d : Document) :
    (buildNamed scope names b w).1 = .ok d ↔ (buildNamed scope' names b w).1 = .ok d := by
  unfold buildNamed
  rw [Run.bind_eq_ok, Run.bind_eq_ok]
  refine exists_congr fun selected => and_congr_right fun hselected => ?_
  have hspares := hspares selected hselected
  exact (buildDocument_ok_iff hspares).trans (buildDocument_ok_iff hspares).symm

theorem buildNamed_eq {scope : Log.Scope} {result : Except CatalogError Document}
    (h : (buildNamed scope names b w).1 = result) :
    ∃ es, buildNamed scope names b w = (result, w.noted es) := by
  obtain ⟨es, hes⟩ := buildNamed_onlyNotes scope names b w
  exact ⟨es, Prod.ext h hes⟩

/-! ## What a check tells -/

/-- The cells of a column in the report. -/
def cells (c : Document.Column) : List String := [c.environment, c.table, c.name, c.type]

/-- What a report draws: a row for each of these columns. -/
def reportGrid (columns : List Document.Column) : Grid where
  header := ["Environment", "Table", "Column", "Type"]
  rows := columns.map cells

/-- The text of a check that has counted environments, tables and columns and has these columns to
report. -/
def verdict (environments tables columns : Nat) (unknown : List Document.Column) : String :=
  if unknown = [] then
    "All " ++ toString columns ++ " columns in " ++ toString tables ++ " tables across " ++
      toString environments ++ " environments use known KQL types.\n"
  else
    (reportGrid unknown).draw tableWidth ++ "\n" ++
      toString unknown.length ++ " of " ++ toString columns ++
      " columns use types KQL does not recognize.\n"

/-- **A check tells the numbers of the document and its unknown columns.** -/
theorem report_eq_verdict (d : Document) :
    report d = verdict d.keys.length d.tables.length d.columns.length d.unknownColumns := by
  have hsize : d.size = d.keys.length := by rw [OrderedMap.size, OrderedMap.keys, List.length_map]
  have hgrid : unknownGrid d.unknownTypes = reportGrid d.unknownColumns := by
    rw [unknownGrid, reportGrid, Document.unknownTypes_eq, List.map_map]
    rfl
  have hlength : d.unknownTypes.length = d.unknownColumns.length := by
    rw [Document.unknownTypes_eq, List.length_map]
  have hempty : d.unknownTypes.isEmpty = true ↔ d.unknownColumns = [] := by
    rw [Document.unknownTypes_eq, List.isEmpty_iff, List.map_eq_nil_iff]
  unfold verdict report
  simp only [hempty, hlength, hsize, hgrid, Document.length_columns, Document.length_tables]

/-- The drawing in a report shows its rows. -/
theorem shows_reportGrid (columns : List Document.Column) :
    Grid.Shows ((reportGrid columns).draw tableWidth) (reportGrid columns) := by
  refine Grid.draw_shows _ fun row hrow => ?_
  obtain ⟨c, -, rfl⟩ := List.mem_map.1 hrow
  rfl

/-! ## How a command ends -/

section Ends

variable {err : CatalogError} {d : Document}

theorem extract_ends_error (h : (buildNamed .extract names b w).1 = .error err)
    (output : Option Path) : Ends w (extract names output b w) 1 "" (complaint err) := by
  obtain ⟨es, hes⟩ := buildNamed_eq h
  exact ⟨es, by rw [extract, hes]⟩

theorem extract_ends_ok (h : (buildNamed .extract names b w).1 = .ok d) :
    Ends w (extract names none b w) 0 d.render "" := by
  obtain ⟨es, hes⟩ := buildNamed_eq h
  exact ⟨es, by rw [extract, hes]⟩

theorem check_ends_error (h : (buildNamed .check names b w).1 = .error err) :
    Ends w (check names b w) 1 "" (complaint err) := by
  obtain ⟨es, hes⟩ := buildNamed_eq h
  exact ⟨es, by rw [check, hes]⟩

theorem check_ends_ok (h : (buildNamed .check names b w).1 = .ok d) :
    Ends w (check names b w) (if d.unknownColumns = [] then 0 else 1)
      (verdict d.keys.length d.tables.length d.columns.length d.unknownColumns) "" := by
  obtain ⟨es, hes⟩ := buildNamed_eq h
  have hempty : d.unknownTypes.isEmpty = true ↔ d.unknownColumns = [] := by
    rw [Document.unknownTypes_eq, List.isEmpty_iff, List.map_eq_nil_iff]
  refine ⟨es, ?_⟩
  rw [check, hes, ← report_eq_verdict]
  simp only [hempty]

end Ends

/-! ## What is present -/

/-- The environments that are always there are selected one by one. -/
theorem chosen_builtin : ∀ e ∈ EnvironmentSet.builtin,
    unknownFaults EnvironmentSet.builtin [e.name] = [] ∧
      chosen EnvironmentSet.builtin [e.name] = [e] := by
  decide +kernel

/-- Extracting an environment asks for its directory exactly when it is not there. -/
theorem extract_missingSource_iff {e : Environment} (he : e ∈ EnvironmentSet.builtin)
    (b : BuildOptions) (w : World) :
    (∃ err, (buildNamed .extract [e.name] b w).1 = .error err ∧ err.isMissingSource = true) ↔
      w.files.isDirectory (e.sourceDir b.docsRoot) = false := by
  obtain ⟨hknown, hchosen⟩ := chosen_builtin e he
  rw [buildNamed_eq_buildSelected, buildSelected_missingSource_iff, hknown, hchosen]
  simp

/-- What the list of the environments draws. -/
def presenceGrid (rows : List (List String)) : Grid where
  header := ["Environment", "Directory", "Pattern", "Magic functions", "Present"]
  rows := rows

/-- A row of the environments tells the name of one in its first cell and has a mark in its last:
"yes" if extracting it would not ask for its directory, with the same root and whatever override
file, and else "no". -/
structure Marks (root : Path) (w : World) (e : Environment) (row : List String) : Prop where
  name : row.head? = some e.name
  mark : row.getLast? = some "yes" ∨ row.getLast? = some "no"
  yes_iff (b : BuildOptions) : b.docsRoot = root → (row.getLast? = some "yes" ↔
    ¬ ∃ err, (buildNamed .extract [e.name] b w).1 = .error err ∧ err.isMissingSource = true)

theorem environmentGrid_rows (root : Path) (w : World) :
    List.Forall₂ (Marks root w) EnvironmentSet.builtin
      (environmentGrid w.files root EnvironmentSet.builtin).rows := by
  rw [environmentGrid, List.forall₂_map_right_iff, List.forall₂_same]
  intro e he
  refine ⟨rfl, ?_, fun b hroot => ?_⟩
  · cases w.files.isDirectory (e.sourceDir root) <;> simp
  · rw [extract_missingSource_iff he, hroot]
    cases w.files.isDirectory (e.sourceDir root) <;> simp

/-! ## The three commands -/

/-- What the three commands of an order have to do with each other. `w` is the world in which the
log of the order has been opened. -/
structure CommandsAgree (s : Start) (order : Order) (names : List String) (w : World) : Prop where
  /-- The same errors keep `extract` and `check` from the document. -/
  error_iff (err : CatalogError) :
    (buildNamed .check names (buildOptions s order) w).1 = .error err ↔
      (buildNamed .extract names (buildOptions s order) w).1 = .error err
  /-- About an error both complain in the same words, and they end with code 1. -/
  complain (err : CatalogError) :
    (buildNamed .extract names (buildOptions s order) w).1 = .error err →
      Ends w (carryOut s { order with command := .extract names none }) 1 "" (complaint err) ∧
      Ends w (carryOut s { order with command := .check names }) 1 "" (complaint err)
  /-- Of the document that `extract` prints, `check` tells the numbers and shows the columns whose
  type is no scalar type, each once and in document order. -/
  report (d : Document) :
    (buildNamed .extract names (buildOptions s order) w).1 = .ok d →
      Ends w (carryOut s { order with command := .extract names none }) 0 d.render "" ∧
      ∃ rows : List Document.Column,
        Ends w (carryOut s { order with command := .check names }) (if rows = [] then 0 else 1)
          (verdict d.keys.length d.tables.length d.columns.length rows) "" ∧
        Grid.Shows ((reportGrid rows).draw tableWidth) (reportGrid rows) ∧
        rows.Nodup ∧ rows.Sublist d.columns ∧
        ∀ c, c ∈ rows ↔
          d.type? c.environment c.table c.name = some c.type ∧ c.type ∉ ColumnType.scalars
  /-- `environments` shows a row for every environment, in their order, with a mark. -/
  present : ∃ rows,
    Ends w (carryOut s { order with command := .environments }) 0
      ((presenceGrid rows).draw tableWidth ++ "\n") "" ∧
    Grid.Shows ((presenceGrid rows).draw tableWidth) (presenceGrid rows) ∧
    List.Forall₂ (Marks (buildOptions s order).docsRoot w) EnvironmentSet.builtin rows

/-- **The three commands agree on the same files.** If the log cannot be opened, all of them end in
the same way. -/
theorem carryOut_commandsAgree {s : Start} {order : Order} {names : List String}
    (hspares : ∀ w, openLog s order.log = .ok w →
      ∀ selected, EnvironmentSet.builtin.select names = .ok selected →
      ∀ e ∈ selected, w.SparesPages (e.sourceDir (buildOptions s order).docsRoot) e) :
    match openLog s order.log with
    | .error fault => ∀ command, carryOut s { order with command := command } =
        ⟨1, "", logComplaint fault, s.files⟩
    | .ok w => CommandsAgree s order names w := by
  cases hopen : openLog s order.log with
  | error fault =>
    intro command
    simp only [carryOut, hopen]
  | ok w =>
    have hcarry (command : Command) : carryOut s { order with command := command } =
        perform command (buildOptions s order) w := by
      simp only [carryOut, hopen]
      rfl
    refine ⟨buildNamed_error_iff _ _, fun err herr => ?_, fun d hd => ?_, ?_⟩
    · rw [hcarry, hcarry]
      exact ⟨extract_ends_error herr none, check_ends_error ((buildNamed_error_iff _ _ err).1 herr)⟩
    · have hd' := (buildNamed_scope_ok_iff .extract .check (hspares w hopen) d).1 hd
      rw [hcarry, hcarry]
      exact ⟨extract_ends_ok hd, d.unknownColumns, check_ends_ok hd', shows_reportGrid _,
        d.nodup_columns.filter _, List.filter_sublist, fun c => Document.mem_unknownColumns_iff⟩
    · rw [hcarry]
      refine ⟨_, ⟨[], rfl⟩, Grid.draw_shows _ fun row hrow => ?_,
        environmentGrid_rows (buildOptions s order).docsRoot w⟩
      obtain ⟨e, -, rfl⟩ := List.mem_map.1 hrow
      rfl

/-! ## A case

One of two environments is there. Its page has a type that is no scalar type. -/

section OnePage

/-- An order for this environment, with the log on the error stream. -/
def plainOrder : Order where
  command := .extract ["sentinel"] none
  docsRoot := none
  overrides := "o"
  log := ⟨0, 0, none, .full, false, none⟩

/-- The environment whose directory `onePage` has. -/
def sentinel : Environment := EnvironmentSet.builtin[1]

variable (page overrides : String)

theorem list_onePage : (onePage page overrides).list "./sentinel_docs" = .ok ["a.md"] :=
  FileTree.list_eq_ok_iff.2 ⟨["w", "sentinel_docs"], resolve_pages rfl rfl, rfl⟩

theorem pageTexts_onePage :
    PageTexts (onePage page overrides) "./sentinel_docs" ["a.md"] [page] := by
  have hsegments : Path.segments (Path.join "./sentinel_docs" "a.md") =
      [".", "sentinel_docs", "a.md"] := by decide
  have hpage : (onePage page overrides).nodes.get? ["w", "sentinel_docs", "a.md"] =
      some (.file page.toUTF8) := rfl
  refine .cons ?_ .nil
  rw [FileTree.readText_eq_ok_iff, FileTree.readBytes_eq_ok_iff]
  refine ⟨["w", "sentinel_docs", "a.md"], .full,
    FileTree.resolve_eq_ok_iff.2 ⟨by decide, ?_⟩, rfl⟩
  rw [hsegments, FileTree.walk, if_pos (by decide), FileTree.walk_into (by decide) rfl]
  exact FileTree.walk_last (by decide) fun node hnode =>
    ⟨_, .full, Option.some.inj (hnode.symm.trans hpage)⟩

theorem readText_overrides_onePage : (onePage page overrides).readText "o" = .ok overrides := by
  rw [FileTree.readText_eq_ok_iff]
  cbv

theorem documented_onePage {environments : OrderedMap String Tables} {entry : Tables}
    (hentry : environments.get? "sentinel" = some entry) :
    Documented (onePage page (Overrides.render environments)) [sentinel] ⟨".", "o"⟩
      (.ofList [("sentinel", ⟨Tables.mergeList .empty
        ((Page.read page).writes ++ entry.toList), []⟩)]) := by
  have hparse : Glob.parse "*.md" =
      .ok ⟨[.star, .literal [46], .literal [109], .literal [100]]⟩ := by cbv
  refine ⟨List.forall_mem_singleton.2 (FileTree.isDirectory_of_list (list_onePage ..)), _, _,
    Overrides.load_of_readText (readText_overrides_onePage ..), .cons ?_ .nil, rfl⟩
  refine ⟨_, ["a.md"], [page], entry, hparse, ?_, pageTexts_onePage .., hentry, ?_⟩
  · exact .of_texts (list_onePage page _) (by decide) (pageTexts_onePage page _)
      (by decide) (by decide)
  · rw [List.map_singleton, List.flatMap_singleton]
    rfl

/-- The other environment has no directory. -/
theorem isDirectory_onePage : (onePage page overrides).isDirectory "./defender_docs" = false := by
  have hsegments : Path.segments "./defender_docs" = [".", "defender_docs"] := by decide
  have hfree : (onePage page overrides).nodes.get? (["w"] ++ ["defender_docs"]) = none := rfl
  rw [Bool.eq_false_iff, ne_eq, FileTree.isDirectory_eq_true_iff]
  rintro ⟨place, fault?, hfound⟩
  obtain ⟨-, hwalk⟩ := FileTree.resolve_eq_ok_iff.1 hfound
  rw [hsegments, FileTree.walk, if_pos (by decide)] at hwalk
  have hvacant : (onePage page overrides).walk FileTree.maxLinks ["w"] ["defender_docs"] =
      .ok ((onePage page overrides).spotAt (["w"] ++ ["defender_docs"])) :=
    FileTree.walk_last (by decide) fun node hnode => absurd (hfree.symm.trans hnode) (by simp)
  rw [FileTree.spotAt, hfree] at hvacant
  exact absurd (hvacant.symm.trans hwalk) (by simp)

theorem environmentGrid_onePage :
    environmentGrid (onePage page overrides) "." EnvironmentSet.builtin =
      presenceGrid [["m365", "defender_docs", "*-table.md", "FileProfile, DeviceFromIP", "no"],
        ["sentinel", "sentinel_docs", "*.md", "", "yes"]] := by
  have hmissing := isDirectory_onePage page overrides
  have hthere := FileTree.isDirectory_of_list (list_onePage page overrides)
  have hplace : Path.join "." "defender_docs" = "./defender_docs" := by decide
  have hplace' : Path.join "." "sentinel_docs" = "./sentinel_docs" := by decide
  simp only [environmentGrid, EnvironmentSet.builtin, Environment.sourceDir, List.map_cons,
    List.map_nil, hplace, hplace', hmissing, hthere]
  rfl

set_option maxRecDepth 1000 in
/-- The report of the one column. -/
theorem draw_onePage : (reportGrid [⟨"sentinel", "T", "B", "integer"⟩]).draw tableWidth =
    String.intercalate "\n"
      ["╭─────────────┬───────┬────────┬─────────╮",
       "│ Environment ┆ Table ┆ Column ┆ Type    │",
       "╞═════════════╪═══════╪════════╪═════════╡",
       "│ sentinel    ┆ T     ┆ B      ┆ integer │",
       "╰─────────────┴───────┴────────┴─────────╯"] := by
  have hwidths : (reportGrid [⟨"sentinel", "T", "B", "integer"⟩]).widths tableWidth =
      [11, 5, 6, 7] := by decide
  rw [Grid.draw, hwidths]
  refine congrArg (String.intercalate "\n") ?_
  simp only [Grid.drawLine_eq, Grid.drawRow, Grid.drawShaped_eq, Grid.fieldLine_eq]
  rfl

set_option maxRecDepth 2000 in
/-- The list of the environments. -/
theorem draw_environments_onePage :
    (environmentGrid (onePage page overrides) "." EnvironmentSet.builtin).draw tableWidth =
      String.intercalate "\n"
        ["╭─────────────┬───────────────┬────────────┬───────────────────────────┬─────────╮",
         "│ Environment ┆ Directory     ┆ Pattern    ┆ Magic functions           ┆ Present │",
         "╞═════════════╪═══════════════╪════════════╪═══════════════════════════╪═════════╡",
         "│ m365        ┆ defender_docs ┆ *-table.md ┆ FileProfile, DeviceFromIP ┆ no      │",
         "│ sentinel    ┆ sentinel_docs ┆ *.md       ┆                           ┆ yes     │",
         "╰─────────────┴───────────────┴────────────┴───────────────────────────┴─────────╯"] := by
  rw [environmentGrid_onePage]
  have hwidths : (presenceGrid
      [["m365", "defender_docs", "*-table.md", "FileProfile, DeviceFromIP", "no"],
        ["sentinel", "sentinel_docs", "*.md", "", "yes"]]).widths tableWidth =
      [11, 13, 10, 25, 7] := by decide
  rw [Grid.draw, hwidths]
  refine congrArg (String.intercalate "\n") ?_
  simp only [Grid.drawLine_eq, Grid.drawRow, Grid.drawShaped_eq, Grid.fieldLine_eq]
  rfl

end OnePage

theorem carryOut_commandsAgree_onePage :
    let page := "# T\n## Columns\n|A|int|\n|B|integer|\n"
    let environments : OrderedMap String Tables := .ofList [("sentinel", .empty)]
    let s : Start := ⟨[], [], "", onePage page (Overrides.render environments)⟩
    let d : Document :=
      .ofList [("sentinel", ⟨.ofList [("T", .ofList [("A", "int"), ("B", "integer")])], []⟩)]
    let w : World := ⟨s.files, logger s plainOrder.log .errorStream, "", []⟩
    (∀ w, openLog s plainOrder.log = .ok w →
        ∀ selected, EnvironmentSet.builtin.select ["sentinel"] = .ok selected →
        ∀ e ∈ selected, w.SparesPages (e.sourceDir (buildOptions s plainOrder).docsRoot) e) ∧
      openLog s plainOrder.log = .ok w ∧
      (buildNamed .extract ["sentinel"] (buildOptions s plainOrder) w).1 = .ok d ∧
      d.unknownColumns = [⟨"sentinel", "T", "B", "integer"⟩] ∧
      (carryOut s { plainOrder with command := .check ["sentinel"] }).output =
        String.intercalate "\n"
          ["╭─────────────┬───────┬────────┬─────────╮",
           "│ Environment ┆ Table ┆ Column ┆ Type    │",
           "╞═════════════╪═══════╪════════╪═════════╡",
           "│ sentinel    ┆ T     ┆ B      ┆ integer │",
           "╰─────────────┴───────┴────────┴─────────╯"] ++
        "\n1 of 2 columns use types KQL does not recognize.\n" ∧
      (carryOut s { plainOrder with command := .environments }).output =
        String.intercalate "\n"
          ["╭─────────────┬───────────────┬────────────┬───────────────────────────┬─────────╮",
           "│ Environment ┆ Directory     ┆ Pattern    ┆ Magic functions           ┆ Present │",
           "╞═════════════╪═══════════════╪════════════╪═══════════════════════════╪═════════╡",
           "│ m365        ┆ defender_docs ┆ *-table.md ┆ FileProfile, DeviceFromIP ┆ no      │",
           "│ sentinel    ┆ sentinel_docs ┆ *.md       ┆                           ┆ yes     │",
           "╰─────────────┴───────────────┴────────────┴───────────────────────────┴─────────╯"] ++
        "\n" ∧
      CommandsAgree s plainOrder ["sentinel"] w := by
  intro page environments s d w
  have hspares (w : World) (hopen : openLog s plainOrder.log = .ok w)
      (selected : EnvironmentSet) (_ : EnvironmentSet.builtin.select ["sentinel"] = .ok selected) :
      ∀ e ∈ selected, w.SparesPages (e.sourceDir (buildOptions s plainOrder).docsRoot) e := by
    obtain rfl := Except.ok.inj hopen
    rintro e - g name - - ⟨place, hsink, -⟩
    exact absurd hsink (by simp [logger])
  have hselect : EnvironmentSet.builtin.select ["sentinel"] = .ok [sentinel] := rfl
  have hbuilt : (buildNamed .extract ["sentinel"] (buildOptions s plainOrder) w).1 = .ok d := by
    have hentry : environments.get? "sentinel" = some .empty := by decide
    have hwritten : d = .ofList [("sentinel", ⟨Tables.mergeList .empty
        ((Page.read page).writes ++ (OrderedMap.empty : Tables).toList), []⟩)] := by decide
    rw [buildNamed, Run.bind_eq_ok]
    refine ⟨[sentinel], hselect, ?_⟩
    rw [hwritten]
    exact (buildDocument_ok_iff (hspares w rfl _ hselect)).2 (documented_onePage page hentry)
  have hunknown : d.unknownColumns = [⟨"sentinel", "T", "B", "integer"⟩] := by decide
  have hchecked := (buildNamed_scope_ok_iff .extract .check (hspares w rfl) d).1 hbuilt
  refine ⟨hspares, rfl, hbuilt, hunknown, ?_, ?_, carryOut_commandsAgree hspares⟩
  · have hcolumns : d.columns.length = 2 := by decide
    refine (check_ends_ok hchecked).output_eq.trans ?_
    rw [hunknown, hcolumns, verdict, if_neg (List.cons_ne_nil _ _), draw_onePage]
    simp only [String.append_assoc]
    rfl
  · rw [← draw_environments_onePage page (Overrides.render environments)]
    rfl

end TableCatalog.Program
