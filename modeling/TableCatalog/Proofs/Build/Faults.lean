import TableCatalog.Program
import TableCatalog.Proofs.Build.Environment
import TableCatalog.Proofs.Overrides

/-!
# Which error a run reports

A run can go wrong in eight ways, and in several of them at once. `runFaults` lists everything that
is wrong with its input, without running anything, in the order of discovery:

    unknownFaults       the selected names that no environment has, in the order they were given
    sourceFaults        the directories that are missing, in the order of declaration
    overridesFaults     the override file, if it cannot be read or is not one
    environmentFaults   for one environment after the other: its pattern, its directory, its pages
                        in the order of their names, its entry

What an override file is, the grammar says (`Overrides.Says`) and not the reader. A directory that is
there, and passes the second step, can still be one that does not list its names
(`mem_directoryFaults_iff`), and a page that is listed one that cannot be read.

`buildSelected_outcome` says that a run fails with the first of them, and that it has a document if
there is none. It rests on `Reports.bind` alone: each stage reports its own faults, and the faults
of two stages stand one behind the other. That the log of an earlier environment cannot repair or
break a later one is `environmentFaults_noted`.
-/

set_option autoImplicit false

namespace TableCatalog

/-- Select environments by their names and build their document. -/
def buildSelected (outer : List Log.Scope) (all : EnvironmentSet) (names : List String)
    (o : BuildOptions) : Run Document := do
  let environments ← Run.ofExcept (all.select names)
  buildDocument outer environments o

/-- What the program builds is a selection from the environments that are always there. -/
theorem buildNamed_eq_buildSelected (scope : Log.Scope) (names : List String) (o : BuildOptions) :
    Program.buildNamed scope names o = buildSelected [scope] .builtin names o := rfl

/-! ## The faults -/

/-- The environments that a selection leaves, in the order of declaration; no names leave all. -/
def chosen (all : EnvironmentSet) (names : List String) : EnvironmentSet :=
  all.filter fun e => names = [] ∨ e.name ∈ names

/-- The selected names that no environment has, in the order they were given. -/
def unknownFaults (all : EnvironmentSet) (names : List String) : List CatalogError :=
  (names.filter fun name => ∀ e ∈ all, e.name ≠ name).map .unknownEnvironment

/-- The directories that are missing, in the order of declaration. -/
def sourceFaults (t : FileTree) (root : Path) (s : EnvironmentSet) : List CatalogError :=
  (s.filter fun e => !t.isDirectory (e.sourceDir root)).map fun e =>
    .missingSource e.name e.directory
      (if Path.isCurrent root || root.isEmpty then none else some (e.sourceDir root)) e.instructions

/-- What is wrong with the override file: it cannot be read, or its text is not an object of
objects of objects of texts. -/
def overridesFaults (t : FileTree) (path : Path) : List CatalogError :=
  match t.readText path with
  | .error fault => [.unreadableFile path fault]
  | .ok text =>
    if h : ∃ environments, Overrides.Says text environments then []
    else [.badOverrides path (Overrides.complaint h)]

/-- What is wrong with environments, one after the other. -/
def environmentsFaults (t : FileTree) (o : BuildOptions) (s : EnvironmentSet) :
    List CatalogError :=
  match Overrides.load t o.overridesPath with
  | .error _ => []
  | .ok overrides => s.flatMap fun e => environmentFaults t (e.sourceDir o.docsRoot) overrides e

/-- Everything that is wrong with the input of a run, in the order of discovery. -/
def runFaults (t : FileTree) (all : EnvironmentSet) (names : List String) (o : BuildOptions) :
    List CatalogError :=
  unknownFaults all names ++ sourceFaults t o.docsRoot (chosen all names) ++
    overridesFaults t o.overridesPath ++ environmentsFaults t o (chosen all names)

/-! ## Each stage reports its own -/

theorem isNone_get? (all : EnvironmentSet) (name : String) :
    (all.get? name).isNone = decide (∀ e ∈ all, e.name ≠ name) := by
  rw [Bool.eq_iff_iff, Option.isNone_iff_eq_none, EnvironmentSet.get?, List.find?_eq_none]
  simp

theorem select_reports (all : EnvironmentSet) (names : List String) :
    Run.Reports (all.select names) (unknownFaults all names) := by
  have hfind : (names.find? fun name => (all.get? name).isNone) =
      (names.filter fun name => ∀ e ∈ all, e.name ≠ name).head? := by
    rw [List.head?_filter]
    simp only [isNone_get?]
  unfold EnvironmentSet.select unknownFaults
  split
  · next hnames =>
    rw [List.isEmpty_iff.1 hnames]
    exact .ok _
  · rw [hfind]
    cases names.filter fun name => ∀ e ∈ all, e.name ≠ name with
    | nil => exact .ok _
    | cons name more => exact .error _ _

theorem eq_chosen_of_select {all s : EnvironmentSet} {names : List String}
    (h : all.select names = .ok s) : s = chosen all names := by
  unfold EnvironmentSet.select at h
  unfold chosen
  split at h
  · next hnames =>
    obtain rfl := Except.ok.inj h
    simp [List.isEmpty_iff.1 hnames]
  · next hnames =>
    split at h
    · simp at h
    · obtain rfl := Except.ok.inj h
      have hne : names ≠ [] := by simpa using hnames
      simp [hne]

theorem ensureSources_cons_ok {t : FileTree} {root : Path} {e : Environment} {s : EnvironmentSet}
    (h : t.isDirectory (e.sourceDir root) = true) :
    ensureSources root t (e :: s) =
      (ensureSources root t s).map fun sources => (e, e.sourceDir root) :: sources := by
  rw [ensureSources, Environment.ensureSourceDir, if_pos h]
  cases ensureSources root t s <;> rfl

theorem ensureSources_reports (t : FileTree) (root : Path) (s : EnvironmentSet) :
    Run.Reports (ensureSources root t s) (sourceFaults t root s) := by
  induction s with
  | nil => exact .ok _
  | cons e s ih =>
    cases h : t.isDirectory (e.sourceDir root) with
    | true =>
      have hfaults : sourceFaults t root (e :: s) = sourceFaults t root s := by
        rw [sourceFaults, List.filter_cons_of_neg (by simp [h]), sourceFaults]
      rw [ensureSources_cons_ok h, hfaults]
      exact ih.map _
    | false =>
      rw [sourceFaults, List.filter_cons_of_pos (by simp [h]), ensureSources,
        Environment.ensureSourceDir, h]
      exact .error _ _

theorem ensureSources_ok {t : FileTree} {root : Path} {s : EnvironmentSet}
    {sources : List (Environment × Path)} (h : ensureSources root t s = .ok sources) :
    sources = s.map fun e => (e, e.sourceDir root) := by
  induction s generalizing sources with
  | nil => exact (Except.ok.inj h).symm
  | cons e s ih =>
    cases hdir : t.isDirectory (e.sourceDir root) with
    | true =>
      rw [ensureSources_cons_ok hdir] at h
      cases hrest : ensureSources root t s with
      | error err => rw [hrest] at h; simp [Except.map] at h
      | ok rest =>
        rw [hrest] at h
        rw [List.map_cons, ← ih hrest]
        exact (Except.ok.inj h).symm
    | false =>
      rw [ensureSources, Environment.ensureSourceDir, hdir] at h
      simp [bind, Except.bind] at h

theorem load_reports (t : FileTree) (path : Path) :
    Run.Reports (Overrides.load t path) (overridesFaults t path) := by
  unfold Overrides.load overridesFaults
  cases t.readText path with
  | error fault => exact .error _ []
  | ok text =>
    dsimp only
    split_ifs with hsays
    · obtain ⟨environments, henvironments⟩ := hsays
      rw [Overrides.ofJson_of_says henvironments]
      exact .ok _
    · rw [Overrides.ofJson_of_not_says hsays]
      exact .error _ []

theorem environmentFaults_noted (w : World) (es : List Log.Entry) :
    environmentFaults (w.noted es).files = environmentFaults w.files := by
  funext directory overrides e
  unfold environmentFaults directoryFaults pageFaults
  simp only [World.list_noted, listPages_noted, unreadable?_noted]

theorem buildAll_reports (outer : List Log.Scope) (overrides : Overrides)
    (sources : List (Environment × Path)) (d : Document) (w : World) :
    Run.Reports (buildAll outer overrides sources d w).1
      (sources.flatMap fun source => environmentFaults w.files source.2 overrides source.1) := by
  induction sources generalizing d w with
  | nil => exact .ok d
  | cons source sources ih =>
    obtain ⟨e, directory⟩ := source
    rw [buildAll, List.flatMap_cons]
    refine .bind (buildEnvironment_reports _ _ _ _ _) fun schema _ => ?_
    obtain ⟨es, hes⟩ := buildEnvironment_onlyNotes outer e directory overrides w
    -- the rest meets a later world, which has the faults of this one
    rw [hes, ← environmentFaults_noted w es]
    exact ih _ _

theorem buildAll_onlyNotes (outer : List Log.Scope) (overrides : Overrides)
    (sources : List (Environment × Path)) (d : Document) :
    Run.OnlyNotes (buildAll outer overrides sources d) := by
  induction sources generalizing d with
  | nil => exact .pure d
  | cons source rest ih =>
    obtain ⟨e, directory⟩ := source
    exact .bind (buildEnvironment_onlyNotes _ _ _ _) fun schema => ih _

theorem buildDocument_onlyNotes (outer : List Log.Scope) (s : EnvironmentSet) (o : BuildOptions) :
    Run.OnlyNotes (buildDocument outer s o) :=
  .bind (.look _) fun _ => .bind (.look _) fun _ => buildAll_onlyNotes _ _ _ _

theorem buildDocument_reports (outer : List Log.Scope) (s : EnvironmentSet) (o : BuildOptions)
    (w : World) :
    Run.Reports (buildDocument outer s o w).1
      (sourceFaults w.files o.docsRoot s ++ overridesFaults w.files o.overridesPath ++
        environmentsFaults w.files o s) := by
  rw [List.append_assoc, buildDocument]
  refine .bind (ensureSources_reports _ _ _) fun sources hsources => ?_
  refine .bind (load_reports _ _) fun overrides hload => ?_
  have hload' : Overrides.load w.files o.overridesPath = .ok overrides := hload
  rw [ensureSources_ok hsources, environmentsFaults, hload']
  have hall := buildAll_reports outer overrides (s.map fun e => (e, e.sourceDir o.docsRoot))
    .empty w
  rw [List.flatMap_map] at hall
  exact hall

theorem buildSelected_reports (outer : List Log.Scope) (all : EnvironmentSet) (names : List String)
    (o : BuildOptions) (w : World) :
    Run.Reports (buildSelected outer all names o w).1 (runFaults w.files all names o) := by
  rw [runFaults, List.append_assoc, List.append_assoc, ← List.append_assoc (sourceFaults _ _ _)]
  refine .bind (select_reports all names) fun s hs => ?_
  rw [eq_chosen_of_select hs]
  exact buildDocument_reports _ _ _ _

/-- **Which error a run reports.** It fails with the first fault of its input, whatever else is
wrong with it, and it has a document if there is no fault at all. -/
theorem buildSelected_outcome (outer : List Log.Scope) (all : EnvironmentSet) (names : List String)
    (o : BuildOptions) (w : World) :
    (∀ err, (buildSelected outer all names o w).1 = .error err ↔
      (runFaults w.files all names o).head? = some err) ∧
    ((∃ d, (buildSelected outer all names o w).1 = .ok d) ↔
      runFaults w.files all names o = []) := by
  have hreports := buildSelected_reports outer all names o w
  exact ⟨hreports, hreports.ok_iff⟩

/-! ## Missing directories -/

section OtherFaults

variable {t : FileTree} {directory path : Path} {overrides : Overrides} {e : Environment}
  {err : CatalogError}

theorem isMissingSource_of_mem_overridesFaults (h : err ∈ overridesFaults t path) :
    err.isMissingSource = false := by
  unfold overridesFaults at h
  split at h
  · rw [List.mem_singleton.1 h]
    rfl
  · split_ifs at h
    · simp at h
    · rw [List.mem_singleton.1 h]
      rfl

theorem isMissingSource_of_mem_patternFaults (h : err ∈ patternFaults e) :
    err.isMissingSource = false := by
  unfold patternFaults at h
  split at h
  · simp at h
  · rw [List.mem_singleton.1 h]
    rfl

theorem isMissingSource_of_mem_directoryFaults (h : err ∈ directoryFaults t directory) :
    err.isMissingSource = false := by
  unfold directoryFaults at h
  split at h
  · simp at h
  · rw [List.mem_singleton.1 h]
    rfl

theorem isMissingSource_of_unreadable? {file : Path} (h : unreadable? t file = some err) :
    err.isMissingSource = false := by
  unfold unreadable? at h
  split at h
  · simp at h
  · rw [← Option.some.inj h]
    rfl

theorem isMissingSource_of_mem_pageFaults {pattern : String}
    (h : err ∈ pageFaults t directory pattern) : err.isMissingSource = false := by
  unfold pageFaults at h
  split at h
  · simp at h
  · split at h
    · simp at h
    · obtain ⟨file, -, hfile⟩ := List.mem_filterMap.1 h
      exact isMissingSource_of_unreadable? hfile

theorem isMissingSource_of_mem_entryFaults {environment : String}
    (h : err ∈ entryFaults overrides environment) : err.isMissingSource = false := by
  unfold entryFaults at h
  split at h
  · simp at h
  · rw [List.mem_singleton.1 h]
    rfl

theorem isMissingSource_of_mem_environmentsFaults {o : BuildOptions} {s : EnvironmentSet}
    (h : err ∈ environmentsFaults t o s) : err.isMissingSource = false := by
  unfold environmentsFaults at h
  split at h
  · simp at h
  · obtain ⟨e, -, he⟩ := List.mem_flatMap.1 h
    simp only [environmentFaults, List.mem_append] at he
    rcases he with ((hpattern | hdirectory) | hpage) | hentry
    · exact isMissingSource_of_mem_patternFaults hpattern
    · exact isMissingSource_of_mem_directoryFaults hdirectory
    · exact isMissingSource_of_mem_pageFaults hpage
    · exact isMissingSource_of_mem_entryFaults hentry

end OtherFaults

theorem sourceFaults_eq_nil_iff {t : FileTree} {root : Path} {s : EnvironmentSet} :
    sourceFaults t root s = [] ↔ ∀ e ∈ s, t.isDirectory (e.sourceDir root) = true := by
  simp [sourceFaults, List.filter_eq_nil_iff]

/-- **When a run asks for a directory**: all names are known, and one of the chosen environments
lacks its directory. -/
theorem buildSelected_missingSource_iff (outer : List Log.Scope) (all : EnvironmentSet)
    (names : List String) (o : BuildOptions) (w : World) :
    (∃ err, (buildSelected outer all names o w).1 = .error err ∧ err.isMissingSource = true) ↔
      unknownFaults all names = [] ∧
        ∃ e ∈ chosen all names, w.files.isDirectory (e.sourceDir o.docsRoot) = false := by
  have hmissing : (∃ e ∈ chosen all names, w.files.isDirectory (e.sourceDir o.docsRoot) = false) ↔
      sourceFaults w.files o.docsRoot (chosen all names) ≠ [] := by
    simp [sourceFaults_eq_nil_iff]
  simp only [buildSelected_reports outer all names o w _, hmissing, runFaults]
  have hlater : ∀ err ∈ overridesFaults w.files o.overridesPath ++
      environmentsFaults w.files o (chosen all names), err.isMissingSource = false := by
    intro err herr
    rcases List.mem_append.1 herr with hoverrides | henvironments
    · exact isMissingSource_of_mem_overridesFaults hoverrides
    · exact isMissingSource_of_mem_environmentsFaults henvironments
  have hsource : ∀ err ∈ sourceFaults w.files o.docsRoot (chosen all names),
      err.isMissingSource = true := by
    intro err herr
    obtain ⟨e, -, rfl⟩ := List.mem_map.1 herr
    rfl
  have hunknown : ∀ err ∈ unknownFaults all names, err.isMissingSource = false := by
    intro err herr
    obtain ⟨name, -, rfl⟩ := List.mem_map.1 herr
    rfl
  rw [List.append_assoc, List.append_assoc]
  -- the first fault is of the first kind that has one
  generalize unknownFaults all names = unknown at hunknown
  generalize sourceFaults w.files o.docsRoot (chosen all names) = missing at hsource
  generalize overridesFaults w.files o.overridesPath ++
    environmentsFaults w.files o (chosen all names) = later at hlater
  cases unknown with
  | cons err unknown => simp [hunknown err List.mem_cons_self]
  | nil =>
    cases missing with
    | cons err missing => simp [hsource err List.mem_cons_self]
    | nil =>
      simp only [List.nil_append, ne_eq, not_true_eq_false, and_false, iff_false]
      rintro ⟨err, herr, hasks⟩
      rw [hlater err (List.mem_of_head? herr)] at hasks
      exact absurd hasks (by simp)

end TableCatalog
