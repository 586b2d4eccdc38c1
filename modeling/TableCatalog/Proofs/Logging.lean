import TableCatalog.Proofs.Commands

/-!
# Logging does not influence results

Two runs are compared that may differ in everything that only the log reads: how much is logged, in
which form and colour, where to, and what the environment variable for filters says
(`SameButLogging`). They end with the same code, the same output and the same output file
(`run_sameResults`), whichever command is run.

There is one way around this: a log that goes into a file which the run reads or writes. So each of
the two logs must be none of the pages, not the override file and not the output file, under
whatever name (`LogHarmless`); nothing else is asked of it. That this is not too much is
`readText_extract_logIntoOutput`: a log that goes into the output file stands there behind the
document, so how much is logged is seen in it.

The proof compares two worlds that have been opened over the same files. Each command does the same
in both: `buildNamed_ok_iff` brings either of them back to a world without a log.
-/

set_option autoImplicit false

namespace TableCatalog.CommandLine

/-! ## What only the log reads -/

/-- A setting of the log. -/
def Setting.isLogging : Setting → Bool
  | .verbose | .quiet | .colour | .logLevel | .logFormat | .logFile => true
  | .docsRoot | .overrides | .environment | .output | .help | .version => false

/-- What was given, without the settings of the log. -/
def withoutLogging (gs : List Given) : List Given := gs.filter fun g => !g.setting.isLogging

/-- Two command lines that differ in settings of the log only. -/
structure Arguments.AlikeButLogging (a a' : Arguments) : Prop where
  verb : a'.verb = a.verb
  front : withoutLogging a'.front = withoutLogging a.front
  behind : withoutLogging a'.behind = withoutLogging a.behind

/-- The environments that a command is about, if it builds any. -/
def Command.names? : Command → Option (List String)
  | .extract names _ => some names
  | .check names => some names
  | .environments => none

/-- The file that a command writes. -/
def Command.output? : Command → Option Path
  | .extract _ output => output
  | .check _ => none
  | .environments => none

namespace Arguments

theorem valuesIn_withoutLogging {setting : Setting} (h : setting.isLogging = false)
    (gs : List Given) : valuesIn (withoutLogging gs) setting = valuesIn gs setting := by
  have hkept (g : Given) : (decide (g.setting = setting) && !g.setting.isLogging) =
      decide (g.setting = setting) := by
    by_cases hg : g.setting = setting
    · rw [hg, h, Bool.not_false, Bool.and_true]
    · simp [hg]
  simp only [valuesIn, withoutLogging, List.filter_filter, hkept]

namespace AlikeButLogging

variable {a a' : Arguments}

theorem value? (h : a.AlikeButLogging a') {setting : Setting} (hs : setting.isLogging = false) :
    a'.value? setting = a.value? setting := by
  rw [Arguments.value?, Arguments.value?, ← valuesIn_withoutLogging hs a'.behind,
    ← valuesIn_withoutLogging hs a'.front, h.behind, h.front, valuesIn_withoutLogging hs,
    valuesIn_withoutLogging hs]

theorem command (h : a.AlikeButLogging a') : a'.order.command = a.order.command := by
  have henvironments : valuesIn a'.behind .environment = valuesIn a.behind .environment := by
    rw [← valuesIn_withoutLogging rfl a'.behind, h.behind, valuesIn_withoutLogging rfl]
  show a'.command = a.command
  have houtput : a'.value? .output = a.value? .output := h.value? rfl
  rw [Arguments.command, Arguments.command, h.verb, henvironments, houtput]

end AlikeButLogging

end Arguments

end TableCatalog.CommandLine

namespace TableCatalog.Program

open CommandLine

/-- Two starts, with their command lines, that differ in what only the log reads: in settings of the
log, in the variable for filters, and in the time. -/
structure SameButLogging (s s' : Start) (a a' : Arguments) : Prop where
  files : s'.files = s.files
  values : ∀ name, name ≠ filterVariable → variableOf? s' name = variableOf? s name
  arguments : a.AlikeButLogging a'

/-- If the log of a run can be opened, it is no input of the run and not its output. -/
def LogHarmless (s : Start) (order : Order) : Prop :=
  ∀ w, openLog s order.log = .ok w → ∀ names, order.command.names? = some names →
    LogApart w names order.command.output? (buildOptions s order)

/-- Two outcomes are the same but for the log: the exit codes, the outputs, and what stands where
the output file goes to, among the files `t` of the start. -/
structure SameResults (t : FileTree) (destination : Option Path) (out out' : Outcome) : Prop where
  exit : out'.exit = out.exit
  output : out'.output = out.output
  written : ∀ path place, destination = some path → t.target path = .ok place →
    out'.files.node? place = out.files.node? place

theorem SameButLogging.buildOptions {s s' : Start} {a a' : Arguments}
    (h : SameButLogging s s' a a') :
    Program.buildOptions s' a'.order = Program.buildOptions s a.order := by
  have hroot : a'.order.docsRoot = a.order.docsRoot := h.arguments.value? rfl
  have hoverrides : a'.order.overrides = a.order.overrides :=
    congrArg (fun value => value.getD defaultOverrides) (h.arguments.value? rfl)
  rw [Program.buildOptions, Program.buildOptions, hroot, hoverrides,
    h.values rootVariable (by decide)]

/-! ## Two worlds over the same files -/

section Opened

variable {s : Start} {o o' : LogOrder} {w w' : World} {names : List String} {b : BuildOptions}
  {destination : Option Path} {path : Path} {place : Location}

/-- Of a start, opening the log depends on its files only. -/
theorem Opened.of_files {s' : Start} (h : Opened s' o w) (hfiles : s'.files = s.files) :
    Opened s o w := by
  refine ⟨fun place hplace => ?_, hfiles ▸ h.files⟩
  have hmem := h.sink place hplace
  rwa [logPlaces, hfiles] at hmem

theorem Opened.isDirectory (h : Opened s o w) (path : Path) :
    w.files.isDirectory path = s.files.isDirectory path := by
  rcases h.files with hfiles | ⟨at_, -, hnew⟩
  · rw [hfiles]
  · rw [Bool.eq_iff_iff]
    exact (FileTree.isDirectory_alikeBut hnew.alike path).symm

/-- What stands elsewhere than the log stands there throughout a run. -/
theorem Opened.node?_noted (h : Opened s o w) (hsink : w.logger.sink ≠ .file place)
    (es : List Log.Entry) : (w.noted es).files.node? place = s.files.node? place := by
  rw [World.node?_noted w es hsink]
  rcases h.files with hfiles | ⟨at_, hat, hnew⟩
  · rw [hfiles]
  · have hne : place ≠ at_ := by
      rintro rfl
      exact hsink hat
    rw [FileTree.node?, FileTree.node?, hnew.alike.elsewhere place hne]

/-- What cannot be written to at the start cannot be written to later. -/
theorem Opened.exists_fault (h : Opened s o w) {fault : IoFault}
    (hfault : s.files.target path = .error fault) (es : List Log.Entry) :
    ∃ fault', (w.noted es).files.target path = .error fault' := by
  cases hnoted : (w.noted es).files.target path with
  | error fault' => exact ⟨fault', rfl⟩
  | ok place =>
    rw [(h.target_noted es path place).1 hnoted] at hfault
    exact absurd hfault (by simp)

theorem LogApart.sink_ne (hapart : LogApart w names destination b) (h : Opened s o w)
    (hpath : destination = some path) (htarget : s.files.target path = .ok place) :
    w.logger.sink ≠ .file place :=
  hapart.output path hpath place ((h.target_noted [] path place).2 htarget)

/-- Two worlds over the same files have the same document. -/
theorem buildNamed_ok_iff_of_opened (h : Opened s o w) (h' : Opened s o' w')
    (hapart : LogApart w names destination b) (hapart' : LogApart w' names destination b)
    (scope : Log.Scope) (d : Document) :
    (buildNamed scope names b w).1 = .ok d ↔ (buildNamed scope names b w').1 = .ok d :=
  (buildNamed_ok_iff h hapart scope d).trans (buildNamed_ok_iff h' hapart' scope d).symm

theorem buildNamed_error_of_opened (h : Opened s o w) (h' : Opened s o' w')
    (hapart : LogApart w names destination b) (hapart' : LogApart w' names destination b)
    {scope : Log.Scope} {err : CatalogError} (herr : (buildNamed scope names b w).1 = .error err) :
    ∃ err', (buildNamed scope names b w').1 = .error err' := by
  cases hresult : (buildNamed scope names b w').1 with
  | error err' => exact ⟨err', rfl⟩
  | ok d =>
    rw [(buildNamed_ok_iff_of_opened h h' hapart hapart' scope d).2 hresult] at herr
    exact absurd herr (by simp)

/-! ## The commands -/

/-- Where a text has been written, the text stands, whatever is noted elsewhere. -/
theorem node?_written (hsink : w.logger.sink ≠ .file place) (text : String) (e : Log.Entry) :
    ((written w place text).note e).files.node? place =
      if place.isEmpty then some .directory else some (.file text.toUTF8) := by
  have hnoted : ((written w place text).noted [e]).files.node? place =
      (written w place text).files.node? place := World.node?_noted (written w place text) [e] hsink
  have hnode : (written w place text).files.nodes.get? place = some (.file text.toUTF8) :=
    FileTree.get?_place_self text.toUTF8
  rw [← hnode]
  exact hnoted

/-- A document that has been written is written in every other such world. -/
theorem extract_sameResults_of_ok (h : Opened s o w) (h' : Opened s o' w')
    (hapart : LogApart w names (some path) b) (hapart' : LogApart w' names (some path) b)
    {d : Document} (hbuilt : (buildNamed .extract names b w).1 = .ok d)
    (hbuilt' : (buildNamed .extract names b w').1 = .ok d) :
    SameResults s.files (some path) (extract names (some path) b w)
      (extract names (some path) b w') := by
  obtain ⟨es, hes⟩ := buildNamed_eq hbuilt
  obtain ⟨es', hes'⟩ := buildNamed_eq hbuilt'
  cases htarget : s.files.target path with
  | error fault =>
    obtain ⟨_, hfault⟩ := h.exists_fault htarget es
    obtain ⟨_, hfault'⟩ := h'.exists_fault htarget es'
    rw [extract, extract, hes, hes']
    simp only [FileTree.write_of_fault hfault, FileTree.write_of_fault hfault']
    refine ⟨rfl, rfl, fun _ place hpath hplace => ?_⟩
    rw [← Option.some.inj hpath, htarget] at hplace
    exact absurd hplace (by simp)
  | ok at_ =>
    have hsink : (w.noted es).logger.sink ≠ .file at_ := by
      rw [World.logger_noted]
      exact hapart.sink_ne h rfl htarget
    have hsink' : (w'.noted es').logger.sink ≠ .file at_ := by
      rw [World.logger_noted]
      exact hapart'.sink_ne h' rfl htarget
    rw [extract, extract, hes, hes']
    simp only [FileTree.write_of_target ((h.target_noted es path at_).2 htarget),
      FileTree.write_of_target ((h'.target_noted es' path at_).2 htarget)]
    refine ⟨rfl, rfl, fun _ place hpath hplace => ?_⟩
    rw [← Option.some.inj hpath, htarget] at hplace
    obtain rfl := Except.ok.inj hplace
    exact (node?_written hsink' d.render _).trans (node?_written hsink d.render _).symm

theorem extract_sameResults (h : Opened s o w) (h' : Opened s o' w')
    (hapart : LogApart w names destination b) (hapart' : LogApart w' names destination b) :
    SameResults s.files destination (extract names destination b w)
      (extract names destination b w') := by
  cases hbuilt : (buildNamed .extract names b w).1 with
  | error err =>
    obtain ⟨err', hbuilt'⟩ := buildNamed_error_of_opened h h' hapart hapart' hbuilt
    obtain ⟨es, hes⟩ := extract_ends_error hbuilt destination
    obtain ⟨es', hes'⟩ := extract_ends_error hbuilt' destination
    rw [hes, hes']
    refine ⟨rfl, rfl, fun path place hpath htarget => ?_⟩
    -- nothing has been written in either world, so the place is as it was
    exact (h'.node?_noted (hapart'.sink_ne h' hpath htarget) es').trans
      (h.node?_noted (hapart.sink_ne h hpath htarget) es).symm
  | ok d =>
    have hbuilt' := (buildNamed_ok_iff_of_opened h h' hapart hapart' .extract d).1 hbuilt
    cases destination with
    | none =>
      obtain ⟨es, hes⟩ := extract_ends_ok hbuilt
      obtain ⟨es', hes'⟩ := extract_ends_ok hbuilt'
      rw [hes, hes']
      exact ⟨rfl, rfl, fun path place hpath _ => absurd hpath (by simp)⟩
    | some path => exact extract_sameResults_of_ok h h' hapart hapart' hbuilt hbuilt'

theorem check_sameResults (h : Opened s o w) (h' : Opened s o' w')
    (hapart : LogApart w names none b) (hapart' : LogApart w' names none b) :
    SameResults s.files none (check names b w) (check names b w') := by
  cases hbuilt : (buildNamed .check names b w).1 with
  | error err =>
    obtain ⟨err', hbuilt'⟩ := buildNamed_error_of_opened h h' hapart hapart' hbuilt
    obtain ⟨es, hes⟩ := check_ends_error hbuilt
    obtain ⟨es', hes'⟩ := check_ends_error hbuilt'
    rw [hes, hes']
    exact ⟨rfl, rfl, fun path place hpath _ => absurd hpath (by simp)⟩
  | ok d =>
    have hbuilt' := (buildNamed_ok_iff_of_opened h h' hapart hapart' .check d).1 hbuilt
    obtain ⟨es, hes⟩ := check_ends_ok hbuilt
    obtain ⟨es', hes'⟩ := check_ends_ok hbuilt'
    rw [hes, hes']
    exact ⟨rfl, rfl, fun path place hpath _ => absurd hpath (by simp)⟩

theorem environments_sameResults (h : Opened s o w) (h' : Opened s o' w') (root : Path) :
    SameResults s.files none (environments root w) (environments root w') := by
  have hgrid : environmentGrid w'.files root .builtin = environmentGrid w.files root .builtin := by
    simp only [environmentGrid, h.isDirectory, h'.isDirectory]
  rw [environments, environments, hgrid]
  generalize environmentGrid w.files root .builtin = grid
  exact ⟨rfl, rfl, fun path place hpath _ => absurd hpath (by simp)⟩

/-- Every command has the same results in two worlds over the same files. -/
theorem perform_sameResults (h : Opened s o w) (h' : Opened s o' w') (c : Command)
    (hapart : ∀ names, c.names? = some names → LogApart w names c.output? b)
    (hapart' : ∀ names, c.names? = some names → LogApart w' names c.output? b) :
    SameResults s.files c.output? (perform c b w) (perform c b w') := by
  cases c with
  | extract names output =>
    exact extract_sameResults h h' (hapart names rfl) (hapart' names rfl)
  | check names => exact check_sameResults h h' (hapart names rfl) (hapart' names rfl)
  | environments => exact environments_sameResults h h' b.docsRoot

end Opened

/-! ## The whole program -/

/-- A log can be opened if it goes to the error stream, or to a path that can be written to. -/
theorem exists_openLog_iff {s : Start} {o : LogOrder} :
    (∃ w, openLog s o = .ok w) ↔
      ∀ path, o.file = some path → ∃ place, s.files.target path = .ok place := by
  unfold openLog FileTree.openAppend
  cases o.file with
  | none => simp
  | some path =>
    cases htarget : s.files.target path with
    | error fault => simp [htarget, bind, Except.bind]
    | ok place =>
      cases hnode : s.files.node? place <;>
        simp [htarget, hnode, bind, Except.bind, pure, Except.pure]

/-- The error stream is no file, so a log that goes there is harmless. -/
theorem logHarmless_of_noFile {s : Start} {order : Order} (h : order.log.file = none) :
    LogHarmless s order := by
  intro w hopen names _
  have hsink : w.logger.sink = .errorStream := by
    rw [openLog, h] at hopen
    rw [← Except.ok.inj hopen]
    rfl
  have hno (place : Location) : w.logger.sink ≠ .file place := by
    rw [hsink]
    exact Log.Sink.noConfusion
  refine ⟨fun _ _ _ _ _ _ _ _ hinto => ?_, fun hinto => ?_, fun _ _ place _ => hno place⟩
  · obtain ⟨place, hplace, -⟩ := hinto
    exact hno place hplace
  · obtain ⟨place, hplace, -⟩ := hinto
    exact hno place hplace

theorem carryOut_sameResults {s s' : Start} {order order' : Order} (hfiles : s'.files = s.files)
    (hcommand : order'.command = order.command)
    (hoptions : buildOptions s' order' = buildOptions s order)
    (hopens : (∃ w, openLog s order.log = .ok w) ↔ ∃ w', openLog s' order'.log = .ok w')
    (hharmless : LogHarmless s order) (hharmless' : LogHarmless s' order') :
    SameResults s.files order.command.output? (carryOut s order) (carryOut s' order') := by
  rw [carryOut, carryOut]
  cases hopen : openLog s order.log with
  | error fault =>
    cases hopen' : openLog s' order'.log with
    | error fault' => exact ⟨rfl, rfl, fun path place _ _ => congrArg (·.node? place) hfiles⟩
    | ok w' =>
      obtain ⟨w, hw⟩ := hopens.2 ⟨w', hopen'⟩
      rw [hopen] at hw
      exact absurd hw (by simp)
  | ok w =>
    obtain ⟨w', hopen'⟩ := hopens.1 ⟨w, hopen⟩
    have hapart' := hharmless' w' hopen'
    rw [hcommand, hoptions] at hapart'
    rw [hopen', hcommand, hoptions]
    exact perform_sameResults (openLog_opened hopen) ((openLog_opened hopen').of_files hfiles)
      order.command (hharmless w hopen) hapart'

/-- **Logging does not influence results.** Two accepted command lines over the same files that
differ in what only the log reads end with the same code, the same output and the same output file,
if the file of the log stays what it is or both logs can be opened, and neither log goes into what
is read or written. -/
theorem run_sameResults {s s' : Start} {a a' : Arguments}
    (hread : readArguments s.arguments = .ok a) (hread' : readArguments s'.arguments = .ok a')
    (hsame : SameButLogging s s' a a')
    (hopens : a'.order.log.file = a.order.log.file ∨
      (∃ w, openLog s a.order.log = .ok w) ∧ ∃ w', openLog s' a'.order.log = .ok w')
    (hharmless : LogHarmless s a.order) (hharmless' : LogHarmless s' a'.order) :
    SameResults s.files a.order.command.output? (run s) (run s') := by
  have hrun {s : Start} {a : Arguments} (h : readArguments s.arguments = .ok a) :
      run s = carryOut s a.order := by
    rw [run, CommandLine.read, h]
    rfl
  have hiff : (∃ w, openLog s a.order.log = .ok w) ↔ ∃ w', openLog s' a'.order.log = .ok w' := by
    rcases hopens with hfile | ⟨hopen, hopen'⟩
    · rw [exists_openLog_iff, exists_openLog_iff, hfile, hsame.files]
    · exact iff_of_true hopen hopen'
  rw [hrun hread, hrun hread']
  exact carryOut_sameResults hsame.files hsame.arguments.command hsame.buildOptions hiff hharmless
    hharmless'

/-- A run that is told to be quiet, in colour and by a filter, and one with a log among its
pages. -/
theorem run_sameResults_logAmongPages :
    let s' := logAmongPages "# T\n## Columns\n|A|int|\n" "\x7b\"sentinel\":\x7b\x7d\x7d"
    let s : Start :=
      { s' with
        arguments := ["-q", "extract", "--env", "sentinel", "--overrides", "o", "-o", "out",
          "--color", "always"]
        variableValues := [("RUST_LOG", "trace")] }
    let asked : List Given := [⟨.environment, "sentinel"⟩, ⟨.overrides, "o"⟩, ⟨.output, "out"⟩]
    let a : Arguments := ⟨[⟨.quiet, ""⟩], some .extract, asked ++ [⟨.colour, "always"⟩]⟩
    let a' : Arguments := ⟨[], some .extract, asked ++ [⟨.logFile, "sentinel_docs/log"⟩]⟩
    readArguments s.arguments = .ok a ∧ readArguments s'.arguments = .ok a' ∧
      SameButLogging s s' a a' ∧
      (a'.order.log.file = a.order.log.file ∨
        (∃ w, openLog s a.order.log = .ok w) ∧ ∃ w', openLog s' a'.order.log = .ok w') ∧
      LogHarmless s a.order ∧ LogHarmless s' a'.order ∧
      SameResults s.files a.order.command.output? (run s) (run s') := by
  intro s' s asked a a'
  have hread : readArguments s.arguments = .ok a := by decide
  have hread' : readArguments s'.arguments = .ok a' := by decide
  have horder' : a'.order = logAmongPagesOrder := by decide
  have hsame : SameButLogging s s' a a' := by
    refine ⟨rfl, fun name hname => ?_, ⟨rfl, by decide, by decide⟩⟩
    have hno : (name == "RUST_LOG") = false := beq_eq_false_iff_ne.2 hname
    simp [variableOf?, s, s', logAmongPages, List.lookup, hno]
  have hopens : a'.order.log.file = a.order.log.file ∨
      (∃ w, openLog s a.order.log = .ok w) ∧ ∃ w', openLog s' a'.order.log = .ok w' := by
    refine Or.inr ⟨⟨_, rfl⟩, ?_⟩
    rw [horder']
    exact ⟨_, openLog_logAmongPages _ _⟩
  have hharmless : LogHarmless s a.order := logHarmless_of_noFile rfl
  have hharmless' : LogHarmless s' a'.order := by
    rw [horder']
    intro w hopen names hnames
    obtain rfl := Option.some.inj hnames
    exact logApart_logAmongPages _ _ hopen
  exact ⟨hread, hread', hsame, hopens, hharmless, hharmless',
    run_sameResults hread hread' hsame hopens hharmless hharmless'⟩

/-! ## A log that goes into the output -/

/-- An entry that is shown is a line at the end of the file that the log goes into. -/
theorem readText_note {w : World} {path : Path} {place : Location} {held : String}
    (hsink : w.logger.sink = .file place) (hread : w.files.readText path = .ok held)
    (hleads : w.files.location? path = some place) (e : Log.Entry) :
    (w.note e).files.readText path = .ok (held ++ (w.logger.line? e).getD "") := by
  unfold World.note World.writeLine
  dsimp only
  cases hline : w.logger.line? e with
  | none =>
    rw [Option.getD_none, String.append_empty]
    exact hread
  | some text =>
    simp only [hsink]
    rw [FileTree.readText_append, hread, Except.map, if_pos hleads, Option.getD_some]

/-- **What is logged about the document stands behind it**, if the log goes into the output file. -/
theorem readText_extract_logIntoOutput {s : Start} {o : LogOrder} {w : World} {names : List String}
    {b : BuildOptions} {path : Path} {place : Location} {d : Document} (h : Opened s o w)
    (hbuilt : (buildNamed .extract names b w).1 = .ok d)
    (htarget : s.files.target path = .ok place) (hsink : w.logger.sink = .file place) :
    (extract names (some path) b w).files.readText path =
      .ok (d.render ++ (w.logger.line? ⟨[.extract], .documentWritten path⟩).getD "") := by
  obtain ⟨es, hes⟩ := buildNamed_eq hbuilt
  have hplace : (w.noted es).files.target path = .ok place := (h.target_noted es path place).2 htarget
  have hread : (written (w.noted es) place d.render).files.readText path = .ok d.render :=
    FileTree.readText_place hplace d.render
  have hleads : (written (w.noted es) place d.render).files.location? path = some place :=
    FileTree.location?_of_resolve (FileTree.resolve_place hplace d.render.toUTF8)
  have hlogger : (written (w.noted es) place d.render).logger = w.logger := World.logger_noted w es
  rw [extract, hes, ← hlogger]
  simp only [FileTree.write_of_target hplace]
  exact readText_note (hlogger ▸ hsink) hread hleads _

section OnePage

variable (page overrides : String)

/-- The place of the output. -/
abbrev outPlace : Location := ["w", "out"]

/-- The tree in which the log has been opened where the output goes. -/
abbrev withOutput : FileTree := (onePage page overrides).place outPlace (.file .empty)

/-- The only page of `onePage` stands elsewhere. -/
theorem location?_page_withOutput {g : Glob} {name : String}
    (hpage : HasPage (withOutput page overrides) "./sentinel_docs" g name) :
    (withOutput page overrides).location? (Path.join "./sentinel_docs" name) ≠ some outPlace := by
  have hdirectory : (withOutput page overrides).resolve "./sentinel_docs" =
      .ok (["w", "sentinel_docs"], .directory) := resolve_pages rfl rfl
  obtain ⟨hname, hfile, -⟩ := listed_of_hasPage hdirectory hpage
  have hnames : name ∈ ["a.md"] := hname
  obtain rfl := List.mem_singleton.1 hnames
  rw [location?_page hdirectory rfl hfile]
  decide

end OnePage

/-- An override file with an entry for one environment. -/
def noOverrides : OrderedMap String Tables := .ofList [("sentinel", .empty)]

/-- A run that is told to extract into the file that its log goes to. -/
def logIntoOutput (flags : List String) : Start where
  arguments := ["extract", "--env", "sentinel", "--overrides", "o", "-o", "out",
    "--log-file", "out"] ++ flags
  variableValues := []
  time := ""
  files := onePage "# T\n" (Overrides.render noOverrides)

def logIntoOutputOrder (verbose : Nat) : Order where
  command := .extract ["sentinel"] (some "out")
  docsRoot := none
  overrides := "o"
  log := ⟨verbose, 0, none, .full, false, some "out"⟩

/-- The document of that run. -/
def documentOfOnePage : Document := .ofList [("sentinel", ⟨.ofList [("T", .empty)], []⟩)]

section LogIntoOutput

variable (flags : List String) (verbose : Nat)

theorem target_logIntoOutput : (logIntoOutput flags).files.target "out" = .ok outPlace := by cbv

theorem openLog_logIntoOutput :
    openLog (logIntoOutput flags) (logIntoOutputOrder verbose).log =
      .ok ⟨withOutput "# T\n" (Overrides.render noOverrides),
        logger (logIntoOutput flags) (logIntoOutputOrder verbose).log (.file outPlace), "", []⟩ :=
  openLog_of_free rfl (target_logIntoOutput flags) rfl

/-- The log goes into the output, but into no input. -/
theorem logApart_logIntoOutput {w : World}
    (h : openLog (logIntoOutput flags) (logIntoOutputOrder verbose).log = .ok w) :
    LogApart w ["sentinel"] none
      (buildOptions (logIntoOutput flags) (logIntoOutputOrder verbose)) := by
  rw [openLog_logIntoOutput] at h
  obtain rfl := Except.ok.inj h
  refine ⟨?_, ?_, fun path hpath => absurd hpath (by simp)⟩
  · intro selected hselected e he g name hparse hpage
    have hselect : EnvironmentSet.builtin.select ["sentinel"] = .ok [sentinel] := rfl
    obtain rfl := Except.ok.inj (hselect.symm.trans hselected)
    obtain rfl := List.mem_singleton.1 he
    have hsource : sentinel.sourceDir
        (buildOptions (logIntoOutput flags) (logIntoOutputOrder verbose)).docsRoot =
          "./sentinel_docs" := by
      show sentinel.sourceDir "." = "./sentinel_docs"
      decide
    rw [hsource] at hpage ⊢
    rintro ⟨place, hsink, hlocation⟩
    cases hsink
    exact location?_page_withOutput _ _ hpage hlocation
  · rintro ⟨place, hsink, hlocation⟩
    cases hsink
    have hoverrides : (withOutput "# T\n" (Overrides.render noOverrides)).location? "o" =
        some ["w", "o"] := by cbv
    exact absurd (hoverrides.symm.trans hlocation) (by decide)

theorem readText_run_logIntoOutput
    (hread : CommandLine.read (logIntoOutput flags).arguments = .ok (logIntoOutputOrder verbose)) :
    (run (logIntoOutput flags)).files.readText "out" =
      .ok (documentOfOnePage.render ++
        ((logger (logIntoOutput flags) (logIntoOutputOrder verbose).log (.file outPlace)).line?
          ⟨[.extract], .documentWritten "out"⟩).getD "") := by
  have hopen := openLog_logIntoOutput flags verbose
  have hentry : noOverrides.get? "sentinel" = some .empty := by decide
  have hdocument : documentOfOnePage = .ofList [("sentinel", ⟨Tables.mergeList .empty
      ((Page.read "# T\n").writes ++ (OrderedMap.empty : Tables).toList), []⟩)] := by
    decide
  have hquiet : (buildNamed .extract ["sentinel"]
      (buildOptions (logIntoOutput flags) (logIntoOutputOrder verbose))
      (.quiet (logIntoOutput flags).files)).1 = .ok documentOfOnePage := by
    rw [buildNamed, Run.bind_eq_ok]
    refine ⟨[sentinel], rfl, ?_⟩
    rw [hdocument]
    exact (buildDocument_ok_iff fun e _ => World.sparesPages_quiet _ _ e).2
      (documented_onePage "# T\n" hentry)
  have hbuilt := (buildNamed_ok_iff (openLog_opened hopen) (logApart_logIntoOutput flags verbose hopen)
    .extract documentOfOnePage).2 hquiet
  have hrun : run (logIntoOutput flags) = extract ["sentinel"] (some "out")
      (buildOptions (logIntoOutput flags) (logIntoOutputOrder verbose))
      ⟨withOutput "# T\n" (Overrides.render noOverrides),
        logger (logIntoOutput flags) (logIntoOutputOrder verbose).log (.file outPlace), "", []⟩ := by
    rw [run, hread]
    show carryOut (logIntoOutput flags) (logIntoOutputOrder verbose) = _
    rw [carryOut, hopen]
    rfl
  rw [hrun]
  exact readText_extract_logIntoOutput (openLog_opened hopen) hbuilt (target_logIntoOutput flags) rfl

end LogIntoOutput

/-- With its log in its output file, a run that is told to log more leaves another output file. -/
theorem readText_run_logIntoOutput_verbose :
    let s := logIntoOutput []
    let s' := logIntoOutput ["-v"]
    let asked : List Given := [⟨.environment, "sentinel"⟩, ⟨.overrides, "o"⟩, ⟨.output, "out"⟩,
      ⟨.logFile, "out"⟩]
    let a : Arguments := ⟨[], some .extract, asked⟩
    let a' : Arguments := ⟨[], some .extract, asked ++ [⟨.verbose, ""⟩]⟩
    readArguments s.arguments = .ok a ∧ readArguments s'.arguments = .ok a' ∧
      SameButLogging s s' a a' ∧ a'.order.log.file = a.order.log.file ∧
      a.order.command.output? = some "out" ∧
      (run s).files.readText "out" = .ok documentOfOnePage.render ∧
      (run s').files.readText "out" =
        .ok (documentOfOnePage.render ++ " INFO extract: schema document written path=out\n") := by
  intro s s' asked a a'
  have hread : CommandLine.read s.arguments = .ok (logIntoOutputOrder 0) := by decide
  have hread' : CommandLine.read s'.arguments = .ok (logIntoOutputOrder 1) := by decide
  have hline : (logger s (logIntoOutputOrder 0).log (.file outPlace)).line?
      ⟨[.extract], .documentWritten "out"⟩ = none := by decide
  have hline' : (logger s' (logIntoOutputOrder 1).log (.file outPlace)).line?
      ⟨[.extract], .documentWritten "out"⟩ =
        some " INFO extract: schema document written path=out\n" := by decide
  have htext := readText_run_logIntoOutput [] 0 hread
  have htext' := readText_run_logIntoOutput ["-v"] 1 hread'
  rw [hline, Option.getD_none, String.append_empty] at htext
  rw [hline', Option.getD_some] at htext'
  exact ⟨by decide, by decide, ⟨rfl, fun _ _ => rfl, ⟨rfl, by decide, by decide⟩⟩,
    rfl, rfl, htext, htext'⟩

end TableCatalog.Program
