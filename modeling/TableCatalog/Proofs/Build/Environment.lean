import TableCatalog.Build
import TableCatalog.Proofs.Listing
import TableCatalog.Proofs.Tables

/-!
# One environment: what it is built from, and why it may not be

Three lemmas describe `buildEnvironment` completely, and nothing later opens it.

* `buildEnvironment_ok_noted`: when it succeeds, its pages have been listed and read, its entry in
  the override file found, and its tables are one list of writes: those of the pages, in the order
  of their names, and behind them those of the entry. What it has noted follows the pages in the
  same order. `buildEnvironment_ok` is this without the log.
* `buildEnvironment_reports`: when it fails, it reports the first of `environmentFaults`, which are
  everything that is wrong with the environment.
* `buildEnvironment_ok_iff`: when the log goes elsewhere, both together. `BuiltFrom` says it of the
  file tree alone.

Between the pages the run writes its log, so each page is read in a world of its own. The first
lemma therefore speaks of a text that the page *may read as* (`World.Holds`), while the second does
not need to: whether a page can be read at all is the same in all of these worlds.
-/

set_option autoImplicit false

namespace TableCatalog

/-! ## One page -/

namespace Page.Reading

/-- What a page writes into the tables: its columns under its name, or nothing if it has none. -/
def writes (page : Reading) : List (String × Columns) :=
  match page.name with
  | some name => [(name, page.columns)]
  | none => []

/-- What is noted about a page. -/
def notices (page : Reading) (file : Path) : List Log.Notice :=
  page.skipped.map .rowSkipped ++
    [match page.name with
    | some name => .tableRead file name page.columns.size
    | none => .headingMissing file]

end Page.Reading

/-- The error that reading a file ends in, if it does. -/
def unreadable? (t : FileTree) (file : Path) : Option CatalogError :=
  match t.readText file with
  | .ok _ => none
  | .error fault => some (.unreadableFile file fault)

theorem unreadable?_noted (w : World) (es : List Log.Entry) :
    unreadable? (w.noted es).files = unreadable? w.files := by
  funext file
  unfold unreadable?
  -- the text may have grown, but whether there is one is settled
  cases h : w.files.readText file with
  | error fault => rw [(World.readText_noted_error w es).2 h]
  | ok text =>
    cases h' : (w.noted es).files.readText file with
    | error fault => rw [(World.readText_noted_error w es).1 h'] at h; simp at h
    | ok text' => rfl

/-- A page that can be read is noted and written, and the scan goes on with the next one. -/
theorem scanPages_cons_ok {scopes : List Log.Scope} {file : Path} {files : List Path}
    {tables : Tables} {w : World} {text : String} (h : w.files.readText file = .ok text) :
    scanPages scopes (file :: files) tables w =
      scanPages scopes files (Tables.mergeList tables (Page.read text).writes)
        (w.noted (((Page.read text).notices file).map fun n => ⟨scopes, n⟩)) := by
  rw [scanPages, Run.bind_apply, readPage, Run.look_apply, h]
  dsimp only
  rw [Run.bind_apply, Run.noteAll_apply]
  generalize Page.read text = page
  obtain ⟨name, inside, columns, skipped⟩ := page
  unfold Page.Reading.writes Page.Reading.notices
  rw [List.map_append, World.noted_append]
  cases name <;> rfl

theorem scanPages_cons_error {scopes : List Log.Scope} {file : Path} {files : List Path}
    {tables : Tables} {w : World} {fault : IoFault} (h : w.files.readText file = .error fault) :
    scanPages scopes (file :: files) tables w = (.error (.unreadableFile file fault), w) := by
  rw [scanPages, Run.bind_apply, readPage, Run.look_apply, h]

/-! ## All pages -/

theorem scanPages_onlyNotes (scopes : List Log.Scope) (files : List Path) (tables : Tables) :
    Run.OnlyNotes (scanPages scopes files tables) := by
  induction files generalizing tables with
  | nil => exact Run.OnlyNotes.pure tables
  | cons file files ih =>
    intro w
    cases h : w.files.readText file with
    | error fault => exact ⟨[], by rw [scanPages_cons_error h]; rfl⟩
    | ok text =>
      rw [scanPages_cons_ok h]
      obtain ⟨es, hes⟩ := ih _ _
      exact ⟨_, by rw [hes, ← World.noted_append]⟩

/-- What is noted about pages, one after the other. -/
def Page.Reading.noticesOf (files : List Path) (pages : List Page.Reading) : List Log.Notice :=
  (files.zip pages).flatMap fun p => p.2.notices p.1

/-- A scan that succeeds has read every file, in order, and noted and written every page. -/
theorem scanPages_ok {scopes : List Log.Scope} {files : List Path} {tables result : Tables}
    {w : World} (h : (scanPages scopes files tables w).1 = .ok result) :
    ∃ pages, List.Forall₂ (fun file page => ∃ text, w.Holds file text ∧ page = Page.read text)
        files pages ∧
      result = Tables.mergeList tables (pages.flatMap Page.Reading.writes) ∧
      (scanPages scopes files tables w).2 =
        w.noted ((Page.Reading.noticesOf files pages).map fun n => ⟨scopes, n⟩) := by
  induction files generalizing tables w with
  | nil =>
    simp only [scanPages, Run.pure_apply, Except.ok.injEq] at h
    exact ⟨[], .nil, h.symm, rfl⟩
  | cons file files ih =>
    cases hread : w.files.readText file with
    | error fault => rw [scanPages_cons_error hread] at h; simp at h
    | ok text =>
      rw [scanPages_cons_ok hread] at h ⊢
      -- the other pages are read in a later world, so what they hold there is carried back
      obtain ⟨pages, hpages, hresult, hnoted⟩ := ih h
      refine ⟨Page.read text :: pages, .cons ⟨text, World.holds_of_readText hread, rfl⟩ ?_, ?_, ?_⟩
      · exact hpages.imp fun _ _ ⟨text', hholds, hpage⟩ => ⟨text', hholds.of_noted, hpage⟩
      · rw [hresult, List.flatMap_cons, Tables.mergeList_append]
      · rw [hnoted, ← World.noted_append, ← List.map_append]
        rfl

/-- A scan reports the first file that cannot be read. -/
theorem scanPages_reports (scopes : List Log.Scope) (files : List Path) (tables : Tables)
    (w : World) :
    Run.Reports (scanPages scopes files tables w).1 (files.filterMap (unreadable? w.files)) := by
  induction files generalizing tables w with
  | nil => exact .ok tables
  | cons file files ih =>
    cases hread : w.files.readText file with
    | error fault =>
      have hun : unreadable? w.files file = some (.unreadableFile file fault) := by
        rw [unreadable?, hread]
      rw [scanPages_cons_error hread, List.filterMap_cons_some hun]
      exact .error _ _
    | ok text =>
      have hun : unreadable? w.files file = none := by rw [unreadable?, hread]
      rw [scanPages_cons_ok hread, List.filterMap_cons_none hun, ← unreadable?_noted]
      exact ih _ _

/-! ## The environment -/

/-- What is wrong with the pattern of an environment. -/
def patternFaults (e : Environment) : List CatalogError :=
  match Glob.parse e.pattern with
  | .ok _ => []
  | .error fault => [.badPattern e.pattern fault]

/-- The pages that cannot be read, in the order of their names. -/
def pageFaults (t : FileTree) (directory : Path) (pattern : String) : List CatalogError :=
  match Glob.parse pattern with
  | .error _ => []
  | .ok g =>
    match listPages t directory g with
    | .error _ => []
    | .ok files => files.filterMap (unreadable? t)

/-- What an override file lacks for an environment. -/
def entryFaults (overrides : Overrides) (environment : String) : List CatalogError :=
  match overrides.environments.get? environment with
  | some _ => []
  | none => [.missingOverrides overrides.path environment]

/-- Everything that is wrong with an environment, in the order in which it would be reported. -/
def environmentFaults (t : FileTree) (directory : Path) (overrides : Overrides)
    (e : Environment) : List CatalogError :=
  patternFaults e ++ directoryFaults t directory ++ pageFaults t directory e.pattern ++
    entryFaults overrides e.name

theorem compilePattern_ok_iff {pattern : String} {g : Glob} :
    compilePattern pattern = .ok g ↔ Glob.parse pattern = .ok g := by
  unfold compilePattern
  cases Glob.parse pattern <;> simp

theorem compilePattern_reports (e : Environment) :
    Run.Reports (compilePattern e.pattern) (patternFaults e) := by
  unfold compilePattern patternFaults
  cases Glob.parse e.pattern with
  | ok g => exact .ok g
  | error fault => exact .error _ []

theorem apply_ok_iff {overrides : Overrides} {environment : String} {tables result : Tables} :
    overrides.apply environment tables = .ok result ↔
      ∃ entry, overrides.environments.get? environment = some entry ∧
        result = Tables.mergeAll tables entry := by
  unfold Overrides.apply Overrides.tablesFor
  cases overrides.environments.get? environment <;> simp [Except.map, eq_comm]

theorem apply_reports (overrides : Overrides) (environment : String) (tables : Tables) :
    Run.Reports (overrides.apply environment tables) (entryFaults overrides environment) := by
  unfold Overrides.apply Overrides.tablesFor entryFaults
  cases overrides.environments.get? environment with
  | some entry => exact .ok _
  | none => exact .error _ []

theorem buildEnvironment_onlyNotes (outer : List Log.Scope) (e : Environment) (directory : Path)
    (overrides : Overrides) : Run.OnlyNotes (buildEnvironment outer e directory overrides) := by
  rw [buildEnvironment]
  exact .bind (.ofExcept _) fun g => .bind (.look _) fun files => .bind (.note _ _) fun _ =>
    .bind (scanPages_onlyNotes _ _ _) fun scraped => .bind (.ofExcept _) fun tables =>
    .bind (.note _ _) fun _ => .pure _

/-- What is noted while an environment is built. -/
def environmentNotices (e : Environment) (directory : Path) (names : List String)
    (pages : List Page.Reading) (schema : EnvironmentSchema) : List Log.Notice :=
  .pagesFound directory e.pattern names.length ::
    Page.Reading.noticesOf (names.map (Path.join directory)) pages ++
      [.environmentDone schema.tableCount schema.columnCount]

/-- **What a built environment is built from, and what is noted about it.** -/
theorem buildEnvironment_ok_noted {outer : List Log.Scope} {e : Environment} {directory : Path}
    {overrides : Overrides} {w : World} {schema : EnvironmentSchema}
    (h : (buildEnvironment outer e directory overrides w).1 = .ok schema) :
    ∃ g names pages entry,
      Glob.parse e.pattern = .ok g ∧ PageNames w.files directory g names ∧
      List.Forall₂
        (fun name page => ∃ text, w.Holds (Path.join directory name) text ∧ page = Page.read text)
        names pages ∧
      overrides.environments.get? e.name = some entry ∧
      schema =
        ⟨Tables.mergeList .empty (pages.flatMap Page.Reading.writes ++ entry.toList),
          e.magicFunctions⟩ ∧
      (buildEnvironment outer e directory overrides w).2 =
        w.noted ((environmentNotices e directory names pages schema).map fun n =>
          ⟨outer ++ [.environment e.name], n⟩) := by
  obtain ⟨w', hrun⟩ : ∃ w', buildEnvironment outer e directory overrides w = (.ok schema, w') :=
    ⟨_, Prod.ext h rfl⟩
  rw [hrun]
  rw [buildEnvironment] at hrun
  obtain ⟨g, w₀, hcompiled, hrun⟩ := Run.bind_eq_ok_mk.1 hrun
  obtain ⟨hg, rfl⟩ := Prod.mk.inj hcompiled
  obtain ⟨files, w₀, hlooked, hrun⟩ := Run.bind_eq_ok_mk.1 hrun
  obtain ⟨hfiles, rfl⟩ := Prod.mk.inj hlooked
  rw [Run.note_bind] at hrun
  obtain ⟨scraped, w₁, hscraped, hrun⟩ := Run.bind_eq_ok_mk.1 hrun
  obtain ⟨tables, w₂, happlied, hrun⟩ := Run.bind_eq_ok_mk.1 hrun
  obtain ⟨htables, rfl⟩ := Prod.mk.inj happlied
  obtain ⟨hschema, rfl⟩ := Prod.mk.inj hrun
  obtain rfl := Except.ok.inj hschema
  obtain ⟨names, hnames, rfl⟩ := listPages_ok hfiles
  obtain ⟨pages, hpages, rfl, hnoted⟩ := scanPages_ok (congrArg Prod.fst hscraped)
  obtain ⟨entry, hentry, rfl⟩ := apply_ok_iff.1 htables
  rw [List.forall₂_map_left_iff] at hpages
  refine ⟨g, names, pages, entry, compilePattern_ok_iff.1 hg, hnames, ?_, hentry, ?_, ?_⟩
  · exact hpages.imp fun _ _ ⟨text, hholds, hpage⟩ => ⟨text, hholds.of_noted, hpage⟩
  · rw [Tables.mergeList_append, ← Tables.mergeAll_eq_mergeList]
  · -- the scan stands between the first notice and the last
    rw [hscraped] at hnoted
    obtain rfl : w₁ = _ := hnoted
    rw [environmentNotices, List.map_append, List.map_cons, List.length_map, World.noted_append]
    rfl

/-- What a built environment is built from. -/
theorem buildEnvironment_ok {outer : List Log.Scope} {e : Environment} {directory : Path}
    {overrides : Overrides} {w : World} {schema : EnvironmentSchema}
    (h : (buildEnvironment outer e directory overrides w).1 = .ok schema) :
    ∃ g names pages entry,
      Glob.parse e.pattern = .ok g ∧ PageNames w.files directory g names ∧
      List.Forall₂
        (fun name page => ∃ text, w.Holds (Path.join directory name) text ∧ page = Page.read text)
        names pages ∧
      overrides.environments.get? e.name = some entry ∧
      schema =
        ⟨Tables.mergeList .empty (pages.flatMap Page.Reading.writes ++ entry.toList),
          e.magicFunctions⟩ := by
  obtain ⟨g, names, pages, entry, hparse, hnames, hpages, hentry, hschema, -⟩ :=
    buildEnvironment_ok_noted h
  exact ⟨g, names, pages, entry, hparse, hnames, hpages, hentry, hschema⟩

/-- **An environment that cannot be built reports its first fault**, and only one that has a fault
cannot be built. -/
theorem buildEnvironment_reports (outer : List Log.Scope) (e : Environment) (directory : Path)
    (overrides : Overrides) (w : World) :
    Run.Reports (buildEnvironment outer e directory overrides w).1
      (environmentFaults w.files directory overrides e) := by
  rw [environmentFaults, List.append_assoc, List.append_assoc, buildEnvironment]
  refine .bind (compilePattern_reports e) fun g hg => ?_
  refine .bind (listPages_reports _ _ g) fun files hfiles => ?_
  have hlist : listPages w.files directory g = .ok files := hfiles
  rw [pageFaults, compilePattern_ok_iff.1 hg]
  dsimp only
  rw [hlist, Run.note_bind]
  refine .bind ?_ fun scraped _ => ?_
  · -- what has been noted by now does not change which pages can be read
    have hscan := scanPages_reports (outer ++ [.environment e.name]) files .empty
      (w.noted [⟨outer ++ [.environment e.name], .pagesFound directory e.pattern files.length⟩])
    rw [unreadable?_noted] at hscan
    exact hscan
  · rw [← List.append_nil (entryFaults overrides e.name)]
    exact .bind (apply_reports _ _ _) fun tables _ => .ok _

/-! ## A log that goes elsewhere -/

/-- The log of `w` goes into none of an environment's pages. -/
def World.SparesPages (w : World) (directory : Path) (e : Environment) : Prop :=
  ∀ g name, Glob.parse e.pattern = .ok g → HasPage w.files directory g name →
    ¬ w.LogsInto (Path.join directory name)

/-- `schema` is what the pages of a directory, in the order of their names, and an entry give for
an environment. -/
def BuiltFrom (t : FileTree) (directory : Path) (held : Option Tables) (e : Environment)
    (schema : EnvironmentSchema) : Prop :=
  ∃ g names texts entry, Glob.parse e.pattern = .ok g ∧ PageNames t directory g names ∧
    PageTexts t directory names texts ∧ held = some entry ∧
    schema = ⟨Tables.mergeList .empty
      ((texts.map Page.read).flatMap Page.Reading.writes ++ entry.toList), e.magicFunctions⟩

theorem BuiltFrom.unique {t : FileTree} {directory : Path} {held : Option Tables}
    {e : Environment} {schema schema' : EnvironmentSchema}
    (h : BuiltFrom t directory held e schema) (h' : BuiltFrom t directory held e schema') :
    schema = schema' := by
  obtain ⟨g, names, texts, entry, hparse, hnames, htexts, rfl, rfl⟩ := h
  obtain ⟨g', names', texts', entry', hparse', hnames', htexts', hentry, rfl⟩ := h'
  obtain rfl : g = g' := Except.ok.inj (hparse.symm.trans hparse')
  obtain rfl : names = names' := hnames.unique hnames'
  obtain rfl : entry = entry' := Option.some.inj hentry
  rw [htexts.unique htexts']

theorem World.sparesPages_quiet (files : FileTree) (directory : Path) (e : Environment) :
    (World.quiet files).SparesPages directory e :=
  fun _ _ _ _ => World.not_logsInto_quiet _ _

theorem World.sparesPages_noted {w : World} {directory : Path} {e : Environment}
    (h : w.SparesPages directory e) (es : List Log.Entry) :
    (w.noted es).SparesPages directory e := by
  intro g name hparse hpage
  rw [World.logsInto_noted]
  exact h g name hparse ((hasPage_noted ..).1 hpage)

/-- What an environment is built from stays the same throughout a run. -/
theorem builtFrom_noted {w : World} {directory : Path} {held : Option Tables} {e : Environment}
    {schema : EnvironmentSchema} (hspares : w.SparesPages directory e) (es : List Log.Entry) :
    BuiltFrom (w.noted es).files directory held e schema ↔
      BuiltFrom w.files directory held e schema := by
  have hread {g : Glob} {names : List String} (hparse : Glob.parse e.pattern = .ok g)
      (hnames : PageNames w.files directory g names) (name : String) (hname : name ∈ names) :
      (w.noted es).files.readText (Path.join directory name) =
        w.files.readText (Path.join directory name) :=
    World.readText_noted_eq w es (hspares g name hparse ((hnames.mem_iff name).1 hname))
  constructor
  · rintro ⟨g, names, texts, entry, hparse, hnames, htexts, hentry, rfl⟩
    rw [pageNames_noted] at hnames
    refine ⟨g, names, texts, entry, hparse, hnames, htexts.moved ?_, hentry, rfl⟩
    exact fun name hname text htext => (hread hparse hnames name hname).symm.trans htext
  · rintro ⟨g, names, texts, entry, hparse, hnames, htexts, hentry, rfl⟩
    refine ⟨g, names, texts, entry, hparse, (pageNames_noted ..).2 hnames, htexts.moved ?_, hentry,
      rfl⟩
    exact fun name hname text htext => (hread hparse hnames name hname).trans htext

/-- Pages that have been read from texts are those texts, read. -/
theorem exists_texts {Held : String → String → Prop} {names : List String}
    {pages : List Page.Reading}
    (hpages : List.Forall₂ (fun name page => ∃ text, Held name text ∧ page = Page.read text)
      names pages) : ∃ texts, List.Forall₂ Held names texts ∧ pages = texts.map Page.read := by
  induction hpages with
  | nil => exact ⟨[], .nil, rfl⟩
  | cons hpage _ ih =>
    obtain ⟨text, hheld, rfl⟩ := hpage
    obtain ⟨texts, htexts, rfl⟩ := ih
    exact ⟨text :: texts, .cons hheld htexts, rfl⟩

/-- Pages that the log does not go into are read as they stand. -/
theorem texts_of_pages {w : World} {directory : Path} {names : List String}
    {pages : List Page.Reading}
    (hpages : List.Forall₂
      (fun name page => ∃ text, w.Holds (Path.join directory name) text ∧ page = Page.read text)
      names pages) (hno : ∀ name ∈ names, ¬ w.LogsInto (Path.join directory name)) :
    ∃ texts, PageTexts w.files directory names texts ∧ pages = texts.map Page.read := by
  obtain ⟨texts, htexts, rfl⟩ := exists_texts hpages
  exact ⟨texts, forall₂_imp_of_mem htexts fun name hname _ hholds => hholds.eq (hno name hname),
    rfl⟩

/-- The pages of those files that can be read. -/
def pagesOf (t : FileTree) (files : List Path) : List Page.Reading :=
  files.filterMap fun file => (t.readText file).toOption.map Page.read

theorem pagesOf_eq {w : World} {files : List Path} {pages : List Page.Reading}
    (hpages : List.Forall₂ (fun file page => ∃ text, w.Holds file text ∧ page = Page.read text)
      files pages) (hno : ∀ file ∈ files, ¬ w.LogsInto file) :
    (∀ file ∈ files, ∃ text, w.files.readText file = .ok text) ∧ pagesOf w.files files = pages := by
  induction hpages with
  | nil => simp [pagesOf]
  | cons hpage _ ih =>
    obtain ⟨text, hholds, rfl⟩ := hpage
    obtain ⟨hfile, hfiles⟩ := List.forall_mem_cons.1 hno
    obtain ⟨hread, hpagesOf⟩ := ih hfiles
    refine ⟨List.forall_mem_cons.2 ⟨⟨text, hholds.eq hfile⟩, hread⟩, ?_⟩
    rw [pagesOf, List.filterMap_cons, hholds.eq hfile]
    exact congrArg _ hpagesOf

/-- **What a scan does** if the log goes into none of the files: where all of them can be read it
writes their pages, in order, and else it fails. -/
theorem scanPages_ok_iff {scopes : List Log.Scope} {files : List Path} {tables result : Tables}
    {w : World} (hno : ∀ file ∈ files, ¬ w.LogsInto file) :
    (scanPages scopes files tables w).1 = .ok result ↔
      (∀ file ∈ files, ∃ text, w.files.readText file = .ok text) ∧
        result = Tables.mergeList tables ((pagesOf w.files files).flatMap Page.Reading.writes) := by
  have hscanned {result : Tables} (h : (scanPages scopes files tables w).1 = .ok result) :
      (∀ file ∈ files, ∃ text, w.files.readText file = .ok text) ∧
        result = Tables.mergeList tables ((pagesOf w.files files).flatMap Page.Reading.writes) := by
    obtain ⟨pages, hpages, rfl, -⟩ := scanPages_ok h
    obtain ⟨hread, rfl⟩ := pagesOf_eq hpages hno
    exact ⟨hread, rfl⟩
  constructor
  · exact hscanned
  · rintro ⟨hread, rfl⟩
    have hfaults : files.filterMap (unreadable? w.files) = [] := by
      refine List.filterMap_eq_nil_iff.2 fun file hfile => ?_
      obtain ⟨text, htext⟩ := hread file hfile
      rw [unreadable?, htext]
    -- nothing stops the scan, so it has a result, and that can only be this one
    obtain ⟨result, hresult⟩ := (scanPages_reports scopes files tables w).ok_iff.2 hfaults
    rw [hresult, (hscanned hresult).2]

theorem unreadable?_of_texts {t : FileTree} {directory : Path} {names texts : List String}
    (htexts : PageTexts t directory names texts) :
    (names.map (Path.join directory)).filterMap (unreadable? t) = [] := by
  refine List.filterMap_eq_nil_iff.2 (List.forall_mem_map.2 fun name hname => ?_)
  obtain ⟨text, htext⟩ := htexts.exists_readText hname
  rw [unreadable?, htext]

/-- An environment has no fault if its pattern is one, its directory can be listed, its pages hold
texts and its entry is found. -/
theorem environmentFaults_eq_nil {t : FileTree} {directory : Path} {overrides : Overrides}
    {e : Environment} {g : Glob} {names texts : List String} {entry : Tables}
    (hparse : Glob.parse e.pattern = .ok g)
    (hlist : listPages t directory g = .ok (names.map (Path.join directory)))
    (htexts : PageTexts t directory names texts)
    (hentry : overrides.environments.get? e.name = some entry) :
    environmentFaults t directory overrides e = [] := by
  have hpattern : patternFaults e = [] := by rw [patternFaults, hparse]
  have hpages : pageFaults t directory e.pattern = [] := by
    rw [pageFaults, hparse]
    dsimp only
    rw [hlist]
    exact unreadable?_of_texts htexts
  have hentries : entryFaults overrides e.name = [] := by rw [entryFaults, hentry]
  have hdirectory : directoryFaults t directory = [] :=
    (listPages_reports t directory g).ok_iff.1 ⟨_, hlist⟩
  rw [environmentFaults, hpattern, hdirectory, hpages, hentries]
  rfl

/-- **An environment is built from its pages and its entry**, exactly when they are there, if the
log goes elsewhere. -/
theorem buildEnvironment_ok_iff {outer : List Log.Scope} {e : Environment} {directory : Path}
    {overrides : Overrides} {w : World} {schema : EnvironmentSchema}
    (hspares : w.SparesPages directory e) :
    (buildEnvironment outer e directory overrides w).1 = .ok schema ↔
      BuiltFrom w.files directory (overrides.environments.get? e.name) e schema := by
  have hbuilt {schema' : EnvironmentSchema}
      (h : (buildEnvironment outer e directory overrides w).1 = .ok schema') :
      BuiltFrom w.files directory (overrides.environments.get? e.name) e schema' := by
    obtain ⟨g, names, pages, entry, hparse, hnames, hpages, hentry, rfl⟩ := buildEnvironment_ok h
    obtain ⟨texts, htexts, rfl⟩ := texts_of_pages hpages fun name hname =>
      hspares g name hparse ((hnames.mem_iff name).1 hname)
    exact ⟨g, names, texts, entry, hparse, hnames, htexts, hentry, rfl⟩
  constructor
  · exact hbuilt
  · intro h
    obtain ⟨g, names, texts, entry, hparse, hnames, htexts, hentry, -⟩ := id h
    -- no fault is left, so there is a result, and it can only be this one
    obtain ⟨schema', hschema'⟩ := (buildEnvironment_reports outer e directory overrides w).ok_iff.2
      (environmentFaults_eq_nil hparse (listPages_of_pageNames hnames) htexts hentry)
    rw [hschema', h.unique (hbuilt hschema')]

end TableCatalog
