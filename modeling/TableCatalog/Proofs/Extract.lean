import TableCatalog.Program
import TableCatalog.Proofs.Build.NewFile

/-!
# Extracting is all or nothing

The program either delivers the document, whole and in one place, or it leaves the place as it was
and ends with code 1. Between the two is the log, which may be written in either case; so the files
are compared everywhere but at the log's place, and what the log must not be is an input or the
output (`LogApart`).

The document is the one that the files give as they were when the program was started. Opening the
log may have created its file (`openLog_opened`), and a run may have written into it; neither
changes the document (`buildNamed_ok_iff`), or where the output goes.
-/

set_option autoImplicit false

namespace TableCatalog.Program

open CommandLine

/-- Two trees have the same current directory and the same nodes beside some places. -/
def SameBeside (places : List Location) (t t' : FileTree) : Prop :=
  t'.current = t.current ∧ ∀ place, place ∉ places → t'.node? place = t.node? place

/-- Where the log of an order goes, if it goes to a file that can be opened. -/
def logPlaces (s : Start) (o : LogOrder) : List Location :=
  (o.file.bind fun path => (s.files.target path).toOption).toList

/-- The log of a run is none of its pages, not its override file and not its output. -/
structure LogApart (w : World) (names : List String) (output : Option Path) (o : BuildOptions) :
    Prop where
  pages : ∀ selected, EnvironmentSet.builtin.select names = .ok selected →
    ∀ e ∈ selected, w.SparesPages (e.sourceDir o.docsRoot) e
  overrides : ¬ w.LogsInto o.overridesPath
  output : ∀ path, output = some path → ∀ place, w.files.target path = .ok place →
    w.logger.sink ≠ .file place

/-- The chosen destination holds the document and the other one nothing; all else is as before. -/
def Delivered (s : Start) (log : List Location) (output : Option Path) (d : Document)
    (out : Outcome) : Prop :=
  match output with
  | none => out.output = d.render ∧ SameBeside log s.files out.files
  | some path => out.output = "" ∧ out.files.readText path = .ok d.render ∧
      ∃ place, s.files.target path = .ok place ∧ SameBeside (place :: log) s.files out.files

/-- What can keep an order to extract from being carried out. -/
inductive Hindered (s : Start) (order : Order) (names : List String) (output : Option Path) : Prop
  | log {fault : IoFault} : openLog s order.log = .error fault → Hindered s order names output
  | document {err : CatalogError} :
      (buildNamed .extract names (buildOptions s order) (.quiet s.files)).1 = .error err →
      Hindered s order names output
  | output {path : Path} {fault : IoFault} : output = some path →
      s.files.target path = .error fault → Hindered s order names output

theorem SameBeside.refl (places : List Location) (t : FileTree) : SameBeside places t t :=
  ⟨rfl, fun _ _ => rfl⟩

theorem SameBeside.trans {places : List Location} {t t' t'' : FileTree}
    (h : SameBeside places t t') (h' : SameBeside places t' t'') : SameBeside places t t'' :=
  ⟨h'.1.trans h.1, fun place hplace => (h'.2 place hplace).trans (h.2 place hplace)⟩

theorem SameBeside.mono {places more : List Location} {t t' : FileTree}
    (h : SameBeside places t t') (hsub : ∀ place ∈ places, place ∈ more) : SameBeside more t t' :=
  ⟨h.1, fun place hplace => h.2 place fun hmem => hplace (hsub place hmem)⟩

theorem SameBeside.of_alikeBut {at_ : Location} {t t' : FileTree} (h : t.AlikeBut at_ t') :
    SameBeside [at_] t t' := by
  refine ⟨h.current.symm, fun place hplace => ?_⟩
  rw [FileTree.node?, FileTree.node?, h.elsewhere place (by simpa using hplace)]

/-- Noting changes nothing beside the log. -/
theorem sameBeside_noted {places : List Location} {w : World}
    (h : ∀ place, w.logger.sink = .file place → place ∈ places) (es : List Log.Entry) :
    SameBeside places w.files (w.noted es).files :=
  ⟨World.current_noted w es, fun place hplace =>
    World.node?_noted w es fun hsink => hplace (h place hsink)⟩

/-! ## Opening the log -/

/-- A world in which the log has been opened: the files are those of the start, but for the file of
the log, which may be new. -/
structure Opened (s : Start) (o : LogOrder) (w : World) : Prop where
  sink : ∀ place, w.logger.sink = .file place → place ∈ logPlaces s o
  files : w.files = s.files ∨ ∃ place, w.logger.sink = .file place ∧ NewFile place s.files w.files

theorem openLog_opened {s : Start} {o : LogOrder} {w : World} (h : openLog s o = .ok w) :
    Opened s o w := by
  unfold openLog at h
  cases hfile : o.file with
  | none =>
    rw [hfile] at h
    obtain rfl := Except.ok.inj h
    exact ⟨fun place hsink => absurd hsink (by simp [logger]), Or.inl rfl⟩
  | some path =>
    rw [hfile] at h
    unfold FileTree.openAppend at h
    cases htarget : s.files.target path with
    | error fault => simp [htarget, bind, Except.bind] at h
    | ok place =>
      have hplaces : place ∈ logPlaces s o := by simp [logPlaces, hfile, htarget, Except.toOption]
      cases hnode : s.files.node? place with
      | some node =>
        simp only [htarget, hnode, bind, Except.bind, pure, Except.pure, Except.ok.injEq] at h
        subst h
        refine ⟨fun place' hsink => ?_, Or.inl rfl⟩
        cases hsink
        exact hplaces
      | none =>
        simp only [htarget, hnode, bind, Except.bind, pure, Except.pure, Except.ok.injEq] at h
        subst h
        refine ⟨fun place' hsink => ?_, Or.inr ⟨place, rfl, .of_target htarget ?_ _⟩⟩
        · cases hsink
          exact hplaces
        · unfold FileTree.node? at hnode
          split at hnode
          · exact absurd hnode (by simp)
          · exact hnode

variable {s : Start} {o : LogOrder} {w : World}

/-- A log at a free name begins as an empty file. -/
theorem openLog_of_free {path : Path} {place : Location} (hfile : o.file = some path)
    (htarget : s.files.target path = .ok place) (hfree : s.files.node? place = none) :
    openLog s o =
      .ok ⟨s.files.place place (.file .empty), logger s o (.file place), "", []⟩ := by
  simp only [openLog, hfile, FileTree.openAppend, htarget, hfree, bind, Except.bind, pure,
    Except.pure]

/-- Throughout a run, a path can be written to if it could be at the start, and leads to the same
place. -/
theorem Opened.target_noted (h : Opened s o w) (es : List Log.Entry) (path : Path)
    (place : Location) :
    (w.noted es).files.target path = .ok place ↔ s.files.target path = .ok place := by
  rw [World.target_noted]
  rcases h.files with hfiles | ⟨at_, -, hnew⟩
  · rw [hfiles]
  · exact ⟨FileTree.target_alikeBut hnew.alike.symm, FileTree.target_alikeBut hnew.alike⟩

theorem Opened.target_fault (h : Opened s o w) {es : List Log.Entry} {path : Path}
    {fault : IoFault} (hfault : (w.noted es).files.target path = .error fault) :
    ∃ fault', s.files.target path = .error fault' := by
  cases hstart : s.files.target path with
  | error fault' => exact ⟨fault', rfl⟩
  | ok place =>
    rw [(h.target_noted es path place).2 hstart] at hfault
    exact absurd hfault (by simp)

/-- Beside the log, the files are those of the start throughout a run. -/
theorem Opened.sameBeside (h : Opened s o w) (es : List Log.Entry) :
    SameBeside (logPlaces s o) s.files (w.noted es).files := by
  have hopened : SameBeside (logPlaces s o) s.files w.files := by
    rcases h.files with hfiles | ⟨at_, hsink, hnew⟩
    · rw [hfiles]
      exact .refl _ _
    · refine (SameBeside.of_alikeBut hnew.alike).mono fun place hplace => ?_
      rw [List.mem_singleton.1 hplace]
      exact h.sink at_ hsink
  exact hopened.trans (sameBeside_noted h.sink es)

/-! ## Building -/

theorem buildNamed_onlyNotes (scope : Log.Scope) (names : List String) (o : BuildOptions) :
    Run.OnlyNotes (buildNamed scope names o) :=
  .bind (.ofExcept _) fun _ => buildDocument_onlyNotes _ _ _

/-- **The document does not depend on the log**: neither on a file created for it nor on what is
written there. -/
theorem buildNamed_ok_iff {names : List String} {output : Option Path} {b : BuildOptions}
    (h : Opened s o w) (hapart : LogApart w names output b) (scope : Log.Scope) (d : Document) :
    (buildNamed scope names b w).1 = .ok d ↔
      (buildNamed scope names b (.quiet s.files)).1 = .ok d := by
  unfold buildNamed
  rw [Run.bind_eq_ok, Run.bind_eq_ok]
  refine exists_congr fun selected => and_congr_right fun hselected => ?_
  have hspares := hapart.pages selected hselected
  have hquiet : ∀ e ∈ selected, (World.quiet s.files).SparesPages (e.sourceDir b.docsRoot) e :=
    fun _ _ _ _ _ _ => World.not_logsInto_quiet _ _
  refine (buildDocument_ok_iff hspares).trans (Iff.trans ?_ (buildDocument_ok_iff hquiet).symm)
  rcases h.files with hfiles | ⟨at_, hsink, hnew⟩
  · rw [hfiles]
    exact Iff.rfl
  · have hno : NoInput w.files at_ selected b :=
      ⟨fun e he g name hparse hpage hat => hspares e he g name hparse hpage ⟨at_, hsink, hat⟩,
        fun hat => hapart.overrides ⟨at_, hsink, hat⟩⟩
    exact (hnew.documented_iff hno d).symm

/-! ## Writing the document -/

/-- A world in which a text has been written to a place. -/
def written (w : World) (at_ : Location) (text : String) : World :=
  { w with files := w.files.place at_ (.file text.toUTF8) }

section Written

variable {path : Path} {at_ : Location}

/-- What was written stays, whatever is noted afterwards, if the log does not go there. -/
theorem readText_written (htarget : w.files.target path = .ok at_)
    (hsink : w.logger.sink ≠ .file at_) (text : String) (es : List Log.Entry) :
    ((written w at_ text).noted es).files.readText path = .ok text := by
  have hno : ¬ (written w at_ text).LogsInto path := by
    rintro ⟨place, hplace, hleads⟩
    have hthere : (written w at_ text).files.location? path = some at_ :=
      FileTree.location?_of_resolve (FileTree.resolve_place htarget text.toUTF8)
    obtain rfl := Option.some.inj (hthere.symm.trans hleads)
    exact hsink hplace
  rw [World.readText_noted_eq _ es hno]
  exact FileTree.readText_place htarget text

theorem sameBeside_written {places : List Location} (htarget : w.files.target path = .ok at_)
    (hsink : ∀ place, w.logger.sink = .file place → place ∈ places) (text : String)
    (es : List Log.Entry) :
    SameBeside (at_ :: places) w.files ((written w at_ text).noted es).files := by
  have halike := FileTree.alikeBut_place (FileTree.target_eq_ok_iff.1 htarget).2.2.2 text.toUTF8
  have hplaced : SameBeside (at_ :: places) w.files (w.files.place at_ (.file text.toUTF8)) :=
    (SameBeside.of_alikeBut halike).mono (by simp)
  refine hplaced.trans (sameBeside_noted (fun place hplace => ?_) es)
  exact List.mem_cons_of_mem at_ (hsink place hplace)

/-- A document that was written is delivered, whatever is noted about it. -/
theorem Opened.delivered {o : LogOrder} {es : List Log.Entry} (h : Opened s o w)
    (htarget : (w.noted es).files.target path = .ok at_) (hsink : w.logger.sink ≠ .file at_)
    (d : Document) (e : Log.Entry) :
    Delivered s (logPlaces s o) (some path) d
      (leave ((written (w.noted es) at_ d.render).note e) 0 "" "") := by
  have hapart : (w.noted es).logger.sink ≠ .file at_ := by
    rw [World.logger_noted]
    exact hsink
  have hlog : ∀ place, (w.noted es).logger.sink = .file place → place ∈ logPlaces s o := by
    rw [World.logger_noted]
    exact h.sink
  have hbefore : SameBeside (at_ :: logPlaces s o) s.files (w.noted es).files :=
    (h.sameBeside es).mono fun place hmem => List.mem_cons_of_mem at_ hmem
  exact ⟨rfl, readText_written htarget hapart d.render [e], at_,
    (h.target_noted es path at_).1 htarget,
    hbefore.trans (sameBeside_written htarget hlog d.render [e])⟩

end Written

/-! ## A case

The log is created among the pages of the environment, under a name that makes no page. -/

/-- One page in the directory of an environment, and an override file. -/
def onePage (page overrides : String) : FileTree :=
  ⟨⟨[(["w"], .directory), (["w", "sentinel_docs"], .directory),
    (["w", "sentinel_docs", "a.md"], .file page.toUTF8), (["w", "o"], .file overrides.toUTF8)],
    by simp⟩, ["w"]⟩

/-- The order to extract this environment into a file, with the log among the pages. -/
def logAmongPages (page overrides : String) : Start where
  arguments := ["extract", "--env", "sentinel", "--overrides", "o", "-o", "out",
    "--log-file", "sentinel_docs/log"]
  variableValues := []
  time := ""
  files := onePage page overrides

def logAmongPagesOrder : Order where
  command := .extract ["sentinel"] (some "out")
  docsRoot := none
  overrides := "o"
  log := ⟨0, 0, none, .full, false, some "sentinel_docs/log"⟩

section OnePage

variable (page overrides : String)

theorem read_logAmongPages :
    CommandLine.read (logAmongPages page overrides).arguments = .ok logAmongPagesOrder := by
  have hread : CommandLine.read ["extract", "--env", "sentinel", "--overrides", "o", "-o", "out",
    "--log-file", "sentinel_docs/log"] = .ok logAmongPagesOrder := by decide
  exact hread

/-- The place of the log. -/
abbrev logInPages : Location := ["w", "sentinel_docs", "log"]

theorem get?_onePage_log : (onePage page overrides).nodes.get? logInPages = none := rfl

theorem target_onePage : (onePage page overrides).target "sentinel_docs/log" = .ok logInPages := by
  have hsegments : Path.segments "sentinel_docs/log" = ["sentinel_docs", "log"] := by
    decide
  refine FileTree.target_eq_ok_iff.2 ⟨by decide, by decide, ?_,
    by simp [get?_onePage_log]⟩
  rw [hsegments, FileTree.walk_into (by decide) rfl]
  exact FileTree.walk_last (by decide) fun node hnode =>
    absurd ((get?_onePage_log page overrides).symm.trans hnode) (by simp)

/-- The tree with the log, which is still empty. -/
abbrev withLog : FileTree := (onePage page overrides).place logInPages (.file .empty)

/-- The directory of the pages is found from `w`. -/
theorem resolve_pages {t : FileTree} (hcurrent : t.current = ["w"])
    (hpages : t.nodes.get? ["w", "sentinel_docs"] = some .directory) :
    t.resolve "./sentinel_docs" = .ok (["w", "sentinel_docs"], .directory) := by
  have hsegments : Path.segments "./sentinel_docs" = [".", "sentinel_docs"] := by decide
  have horigin : t.origin "./sentinel_docs" = ["w"] := hcurrent
  have hat : t.directoryAt (["w"] ++ ["sentinel_docs"]) = .directory :=
    FileTree.directoryAt_of_get? hpages
  refine FileTree.resolve_eq_ok_iff.2 ⟨by decide, ?_⟩
  rw [hsegments, horigin, FileTree.walk, if_pos (by decide),
    FileTree.walk_into (by decide) hpages, FileTree.walk, hat]
  rfl

/-- A page is listed in the directory of the pages, and is a file there. -/
theorem listed_of_hasPage {t : FileTree} {g : Glob} {name : String}
    (hdirectory : t.resolve "./sentinel_docs" = .ok (["w", "sentinel_docs"], .directory))
    (hpage : HasPage t "./sentinel_docs" g name) :
    name ∈ t.namesAt ["w", "sentinel_docs"] ∧
      t.isFile (Path.join "./sentinel_docs" name) = true ∧ g.accepts name = true := by
  obtain ⟨⟨listed, hlisted, hname⟩, hpage⟩ := hpage
  obtain ⟨place, hplace, rfl⟩ := FileTree.list_eq_ok_iff.1 hlisted
  obtain ⟨rfl, -⟩ := Prod.mk.inj (Except.ok.inj (hdirectory.symm.trans hplace))
  simp only [isPage, Bool.and_eq_true] at hpage
  exact ⟨hname, hpage.1.1, hpage.2⟩

/-- The page of `onePage` stands in that directory. -/
theorem location?_page {t : FileTree} {held : ByteArray}
    (hdirectory : t.resolve "./sentinel_docs" = .ok (["w", "sentinel_docs"], .directory))
    (hnode : t.nodes.get? ["w", "sentinel_docs", "a.md"] = some (.file held))
    (hfile : t.isFile (Path.join "./sentinel_docs" "a.md") = true) :
    t.location? (Path.join "./sentinel_docs" "a.md") = some ["w", "sentinel_docs", "a.md"] := by
  obtain ⟨found, content, access, hfound⟩ := FileTree.isFile_eq_true_iff.1 hfile
  have hleads := FileTree.resolve_join hdirectory ⟨by decide, by decide⟩ (by decide) hnode
    hfound
  rw [FileTree.location?_of_resolve hfound, (Prod.mk.inj hleads).1]
  rfl

/-- The pattern keeps the log out of the pages. -/
theorem location?_page_withLog {g : Glob} {name : String} (hparse : Glob.parse "*.md" = .ok g)
    (hpage : HasPage (withLog page overrides) "./sentinel_docs" g name) :
    (withLog page overrides).location? (Path.join "./sentinel_docs" name) ≠ some logInPages := by
  have hdirectory : (withLog page overrides).resolve "./sentinel_docs" =
      .ok (["w", "sentinel_docs"], .directory) := resolve_pages rfl rfl
  obtain ⟨hname, hfile, haccepted⟩ := listed_of_hasPage hdirectory hpage
  have hnames : name ∈ ["a.md", "log"] := hname
  rcases List.mem_pair.1 hnames with rfl | rfl
  · rw [location?_page hdirectory rfl hfile]
    decide
  · have hrefused : (Glob.parse "*.md").map (·.accepts "log") = .ok false := by decide
    rw [hparse] at hrefused
    have haccepts : g.accepts "log" = false := Except.ok.inj hrefused
    rw [haccepts] at haccepted
    exact absurd haccepted (by simp)

theorem openLog_logAmongPages :
    openLog (logAmongPages page overrides) logAmongPagesOrder.log =
      .ok ⟨withLog page overrides, logger (logAmongPages page overrides) logAmongPagesOrder.log
        (.file logInPages), "", []⟩ :=
  openLog_of_free rfl (target_onePage page overrides) rfl

theorem logApart_logAmongPages {w : World}
    (h : openLog (logAmongPages page overrides) logAmongPagesOrder.log = .ok w) :
    LogApart w ["sentinel"] (some "out")
      (buildOptions (logAmongPages page overrides) logAmongPagesOrder) := by
  rw [openLog_logAmongPages] at h
  obtain rfl := Except.ok.inj h
  refine ⟨?_, ?_, ?_⟩
  · intro selected hselected e he g name hparse hpage
    have hselect : EnvironmentSet.builtin.select ["sentinel"] =
        .ok (EnvironmentSet.builtin.drop 1) := rfl
    obtain rfl := Except.ok.inj (hselect.symm.trans hselected)
    have hpages : ∀ e ∈ EnvironmentSet.builtin.drop 1,
        e.sourceDir "." = "./sentinel_docs" ∧ e.pattern = "*.md" := by decide
    obtain ⟨hsource, hpattern⟩ := hpages e he
    have hroot : (buildOptions (logAmongPages page overrides) logAmongPagesOrder).docsRoot = "." :=
      rfl
    rw [hroot, hsource] at hpage ⊢
    rw [hpattern] at hparse
    rintro ⟨place, hsink, hlocation⟩
    cases hsink
    exact location?_page_withLog page overrides hparse hpage hlocation
  · rintro ⟨place, hsink, hlocation⟩
    cases hsink
    have hoverrides : (withLog page overrides).location? "o" = some ["w", "o"] := by cbv
    exact absurd (hoverrides.symm.trans hlocation) (by decide)
  · intro path hpath place htarget hsink
    cases hpath
    cases hsink
    have hout : (withLog page overrides).target "out" = .ok ["w", "out"] := by cbv
    exact absurd (hout.symm.trans htarget) (by decide)

end OnePage

/-! ## Extracting -/

theorem extract_delivered_or_hindered {order : Order} {names : List String}
    {output : Option Path} (h : Opened s order.log w)
    (hapart : LogApart w names output (buildOptions s order)) :
    (∃ d, (buildNamed .extract names (buildOptions s order) (.quiet s.files)).1 = .ok d ∧
      (extract names output (buildOptions s order) w).exit = 0 ∧
      Delivered s (logPlaces s order.log) output d
        (extract names output (buildOptions s order) w)) ∨
    ((extract names output (buildOptions s order) w).exit = 1 ∧
      (extract names output (buildOptions s order) w).output = "" ∧
      SameBeside (logPlaces s order.log) s.files
        (extract names output (buildOptions s order) w).files ∧
      Hindered s order names output) := by
  have hiff := buildNamed_ok_iff h hapart .extract
  obtain ⟨es, hes⟩ := buildNamed_onlyNotes .extract names (buildOptions s order) w
  have hbeside := h.sameBeside es
  unfold extract
  cases hbuild : buildNamed .extract names (buildOptions s order) w with
  | mk result later =>
    rw [hbuild] at hes hiff
    obtain rfl : later = w.noted es := hes
    cases result with
    | error err =>
      refine Or.inr ⟨rfl, rfl, hbeside, ?_⟩
      cases hquiet : (buildNamed .extract names (buildOptions s order) (.quiet s.files)).1 with
      | error err' => exact .document hquiet
      | ok d => exact absurd ((hiff d).2 hquiet) (by simp)
    | ok d =>
      have hd := (hiff d).1 rfl
      cases output with
      | none => exact Or.inl ⟨d, hd, rfl, rfl, hbeside⟩
      | some path =>
        cases htarget : (w.noted es).files.target path with
        | error fault =>
          obtain ⟨fault', hfault'⟩ := h.target_fault htarget
          simp only [FileTree.write_of_fault htarget]
          exact Or.inr ⟨rfl, rfl, hbeside, .output rfl hfault'⟩
        | ok at_ =>
          have hplace : w.files.target path = .ok at_ := by
            rw [← World.target_noted w es path]
            exact htarget
          simp only [FileTree.write_of_target htarget]
          exact Or.inl ⟨d, hd, rfl, h.delivered htarget (hapart.output path rfl at_ hplace) d _⟩

/-- **Extracting is all or nothing.** Either the program ends with code 0, and the chosen
destination holds the document of the files as they were while the other one is empty; or it ends
with code 1 and has written nothing but its log, since the log cannot be opened, there is no
document, or the output cannot be written. -/
theorem run_extract_delivered_or_hindered {order : Order} {names : List String}
    {output : Option Path} (hread : CommandLine.read s.arguments = .ok order)
    (hcommand : order.command = .extract names output)
    (hapart : ∀ w, openLog s order.log = .ok w → LogApart w names output (buildOptions s order)) :
    (∃ d, (buildNamed .extract names (buildOptions s order) (.quiet s.files)).1 = .ok d ∧
      (run s).exit = 0 ∧ Delivered s (logPlaces s order.log) output d (run s)) ∨
    ((run s).exit = 1 ∧ (run s).output = "" ∧
      SameBeside (logPlaces s order.log) s.files (run s).files ∧
      Hindered s order names output) := by
  cases hopen : openLog s order.log with
  | error fault =>
    have hrun : run s = ⟨1, "", logComplaint fault, s.files⟩ := by
      simp [run, hread, carryOut, hopen]
    rw [hrun]
    exact Or.inr ⟨rfl, rfl, .refl _ _, .log hopen⟩
  | ok w =>
    have hrun : run s = extract names output (buildOptions s order) w := by
      simp [run, hread, carryOut, hopen, hcommand, perform]
    rw [hrun]
    exact extract_delivered_or_hindered (openLog_opened hopen) (hapart w hopen)

theorem run_extract_delivered_or_hindered_logAmongPages :
    let s := logAmongPages "# T\n## Columns\n|A|int|\n" "\x7b\"sentinel\":\x7b\x7d\x7d"
    CommandLine.read s.arguments = .ok logAmongPagesOrder ∧
      logAmongPagesOrder.command = .extract ["sentinel"] (some "out") ∧
      (∀ w, openLog s logAmongPagesOrder.log = .ok w →
        LogApart w ["sentinel"] (some "out") (buildOptions s logAmongPagesOrder)) ∧
      ((∃ d, (buildNamed .extract ["sentinel"] (buildOptions s logAmongPagesOrder)
          (.quiet s.files)).1 = .ok d ∧ (run s).exit = 0 ∧
          Delivered s (logPlaces s logAmongPagesOrder.log) (some "out") d (run s)) ∨
        ((run s).exit = 1 ∧ (run s).output = "" ∧
          SameBeside (logPlaces s logAmongPagesOrder.log) s.files (run s).files ∧
          Hindered s logAmongPagesOrder ["sentinel"] (some "out"))) := by
  intro s
  have hread := read_logAmongPages "# T\n## Columns\n|A|int|\n" "\x7b\"sentinel\":\x7b\x7d\x7d"
  have hapart (w : World) (h : openLog s logAmongPagesOrder.log = .ok w) :=
    logApart_logAmongPages _ _ h
  exact ⟨hread, rfl, hapart, run_extract_delivered_or_hindered hread rfl hapart⟩

end TableCatalog.Program
