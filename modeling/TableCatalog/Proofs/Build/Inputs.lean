import TableCatalog.Proofs.Build.Document
import TableCatalog.Proofs.Build.Provenance

/-!
# What a document depends on

Two runs may differ in the file tree, in the root of the documentation, in the place of the override
file, in the order in which directories list their names, and in the log. `SameInput` says what they
have to share: for each environment the names of its pages with their content, as far as they can be
read, and its entry in the override file. `buildDocument_eq_of_sameInput` says that this is enough, for the document and for
whether there is one.

The two trees are compared through paths, since a run sees nothing else of them. A run whose log
goes into one of its own pages reads what it has just written; `World.SparesPages` excludes that and
nothing more. By `Documented` the comparison never meets a world in the middle of a run, and the
order of the pages needs no argument here: `PageNames` fixes it by the names alone.
-/

set_option autoImplicit false

namespace TableCatalog

/-- A directory has a page of this name, and this is its content, if it can be read. -/
def PageHolds (t : FileTree) (directory : Path) (g : Glob) (name : String)
    (held : Option ByteArray) : Prop :=
  HasPage t directory g name ∧ (t.readBytes (Path.join directory name)).toOption = held

/-- Two file trees, each with its own root, hold the same pages for the environments `s`. -/
structure SamePages (s : EnvironmentSet) (t : FileTree) (root : Path) (t' : FileTree)
    (root' : Path) : Prop where
  source : ∀ e ∈ s, t.isDirectory (e.sourceDir root) = t'.isDirectory (e.sourceDir root')
  /-- A directory can be listed in both trees or in neither. -/
  listed : ∀ e ∈ s, (∃ listed, t.list (e.sourceDir root) = .ok listed) ↔
    ∃ listed, t'.list (e.sourceDir root') = .ok listed
  /-- The pages are the same, by name and content. -/
  pages : ∀ e ∈ s, ∀ g, Glob.parse e.pattern = .ok g → ∀ name held,
    PageHolds t (e.sourceDir root) g name held ↔ PageHolds t' (e.sourceDir root') g name held

/-- What an override file gives for an environment: nothing if there is no entry, or no file that
can be read as one. -/
def overridesFor? (t : FileTree) (path : Path) (environment : String) : Option Tables :=
  (Overrides.load t path).toOption.bind fun overrides => overrides.environments.get? environment

/-- Two file trees, each with its own root and its own override file, hold the same input for the
environments `s`. -/
structure SameInput (s : EnvironmentSet) (t : FileTree) (o : BuildOptions) (t' : FileTree)
    (o' : BuildOptions) : Prop where
  source : ∀ e ∈ s, t.isDirectory (e.sourceDir o.docsRoot) = true
  source' : ∀ e ∈ s, t'.isDirectory (e.sourceDir o'.docsRoot) = true
  /-- A directory can be listed in both trees or in neither. -/
  listed : ∀ e ∈ s, (∃ listed, t.list (e.sourceDir o.docsRoot) = .ok listed) ↔
    ∃ listed, t'.list (e.sourceDir o'.docsRoot) = .ok listed
  /-- The pages are the same, by name and content. -/
  pages : ∀ e ∈ s, ∀ g, Glob.parse e.pattern = .ok g → ∀ name held,
    PageHolds t (e.sourceDir o.docsRoot) g name held ↔
      PageHolds t' (e.sourceDir o'.docsRoot) g name held
  /-- The entries are the same, with their order. -/
  entries : ∀ e ∈ s, overridesFor? t o.overridesPath e.name =
    overridesFor? t' o'.overridesPath e.name
  /-- Where no environment asks for an entry, the override file is still read. -/
  files : s = [] → ((∃ overrides, Overrides.load t o.overridesPath = .ok overrides) ↔
    ∃ overrides, Overrides.load t' o'.overridesPath = .ok overrides)

theorem SameInput.symm {s : EnvironmentSet} {t t' : FileTree} {o o' : BuildOptions}
    (h : SameInput s t o t' o') : SameInput s t' o' t o where
  source := h.source'
  source' := h.source
  listed e he := (h.listed e he).symm
  pages e he g hparse name held := (h.pages e he g hparse name held).symm
  entries e he := (h.entries e he).symm
  files hs := (h.files hs).symm

/-! ## Pages -/

theorem hasPage_iff_exists {t : FileTree} {directory : Path} {g : Glob} {name : String} :
    HasPage t directory g name ↔ ∃ held, PageHolds t directory g name held :=
  ⟨fun h => ⟨_, h, rfl⟩, fun ⟨_, h⟩ => h.1⟩

theorem toOption_eq_some_iff {ε α : Type} {r : Except ε α} {a : α} :
    r.toOption = some a ↔ r = .ok a := by
  cases r <;> simp [Except.toOption]

variable {s : EnvironmentSet} {t t' : FileTree} {o o' : BuildOptions}

/-- The pages of an environment, in their order and with their texts, are those of the other
tree. -/
theorem SamePages.pageTexts {root root' : Path} (h : SamePages s t root t' root')
    {e : Environment} (he : e ∈ s) {g : Glob} (hparse : Glob.parse e.pattern = .ok g)
    {names texts : List String} (hnames : PageNames t (e.sourceDir root) g names)
    (htexts : PageTexts t (e.sourceDir root) names texts) :
    PageNames t' (e.sourceDir root') g names ∧ PageTexts t' (e.sourceDir root') names texts := by
  have hpages := h.pages e he g hparse
  refine ⟨⟨(h.listed e he).1 hnames.listed, hnames.ascending, fun name => ?_⟩, ?_⟩
  · rw [hnames.mem_iff, hasPage_iff_exists, hasPage_iff_exists]
    exact exists_congr (hpages name)
  · refine htexts.moved fun name hname text htext => ?_
    rw [FileTree.readText_eq_ok_iff, ← toOption_eq_some_iff] at htext ⊢
    exact ((hpages name _).1 ⟨(hnames.mem_iff name).1 hname, htext⟩).2

theorem SameInput.samePages (h : SameInput s t o t' o') :
    SamePages s t o.docsRoot t' o'.docsRoot where
  source e he := (h.source e he).trans (h.source' e he).symm
  listed := h.listed
  pages := h.pages

/-- What an environment is built from in one tree, it is built from in the other. -/
theorem SameInput.builtFrom (h : SameInput s t o t' o') {e : Environment} (he : e ∈ s)
    {held : Option Tables} {schema : EnvironmentSchema}
    (hbuilt : BuiltFrom t (e.sourceDir o.docsRoot) held e schema) :
    BuiltFrom t' (e.sourceDir o'.docsRoot) held e schema := by
  obtain ⟨g, names, texts, entry, hparse, hnames, htexts, hentry, rfl⟩ := hbuilt
  obtain ⟨hnames', htexts'⟩ := h.samePages.pageTexts he hparse hnames htexts
  exact ⟨g, names, texts, entry, hparse, hnames', htexts', hentry, rfl⟩

/-! ## Entries -/

theorem overridesFor?_of_load {path : Path} {overrides : Overrides}
    (h : Overrides.load t path = .ok overrides) (environment : String) :
    overridesFor? t path environment = overrides.environments.get? environment := by
  rw [overridesFor?, h]
  rfl

theorem overridesFor?_of_readText {path : Path} {text : String}
    (h : t.readText path = .ok text) (environment : String) :
    overridesFor? t path environment =
      (Overrides.ofJson text path).toOption.bind fun overrides =>
        overrides.environments.get? environment := by
  rw [overridesFor?, Overrides.load, h]

theorem load_of_overridesFor? {path : Path} {environment : String} {entry : Tables}
    (h : overridesFor? t path environment = some entry) :
    ∃ overrides, Overrides.load t path = .ok overrides := by
  unfold overridesFor? at h
  cases hload : Overrides.load t path with
  | ok overrides => exact ⟨overrides, rfl⟩
  | error err => rw [hload] at h; simp [Except.toOption] at h

/-! ## Documents -/

theorem SameInput.documented (h : SameInput s t o t' o') {d : Document}
    (hd : Documented t s o d) : Documented t' s o' d := by
  obtain ⟨-, overrides, schemas, hload, hschemas, rfl⟩ := hd
  have hload' : ∃ overrides', Overrides.load t' o'.overridesPath = .ok overrides' := by
    cases hschemas with
    | nil => exact (h.files rfl).1 ⟨overrides, hload⟩
    | @cons e _ _ _ hbuilt _ =>
      obtain ⟨_, _, _, entry, _, _, _, hentry, _⟩ := hbuilt
      rw [← overridesFor?_of_load hload, h.entries e List.mem_cons_self] at hentry
      exact load_of_overridesFor? hentry
  obtain ⟨overrides', hload'⟩ := hload'
  refine ⟨h.source', overrides', schemas, hload', forall₂_imp_of_mem hschemas ?_, rfl⟩
  intro e he schema hbuilt
  rw [← overridesFor?_of_load hload', ← h.entries e he, overridesFor?_of_load hload]
  exact h.builtFrom he hbuilt

section MovedPages

variable (a b overrides : String)

/-- Environments over these pages have a document if each of them has an entry. -/
theorem documented_twoPages_of_entries {overrides : String} {read : Overrides}
    (hload : Overrides.load (twoPages a b overrides) "o" = .ok read) {s : EnvironmentSet}
    (hs : ∀ e ∈ s, e.directory = anyPages.directory ∧ e.pattern = anyPages.pattern ∧
      ∃ entry, read.environments.get? e.name = some entry) :
    ∃ d, Documented (twoPages a b overrides) s ⟨"", "o"⟩ d := by
  have hsource (e : Environment) (he : e ∈ s) : e.sourceDir "" = "d" := by
    rw [Environment.sourceDir, (hs e he).1]
    rfl
  have hbuilt : ∃ schemas, AllBuilt (twoPages a b overrides) "" read s schemas := by
    clear hload
    induction s with
    | nil => exact ⟨[], .nil⟩
    | cons e s ih =>
      obtain ⟨schemas, hschemas⟩ := ih (fun e' he' => hs e' (List.mem_cons_of_mem e he'))
        fun e' he' => hsource e' (List.mem_cons_of_mem e he')
      obtain ⟨-, hpattern, entry, hentry⟩ := hs e List.mem_cons_self
      have hfirst : ∃ schema, BuiltFrom (twoPages a b overrides) (e.sourceDir "")
          (read.environments.get? e.name) e schema := by
        rw [hsource e List.mem_cons_self]
        exact ⟨_, _, _, _, entry, hpattern ▸ parse_anyPages, pageNames_twoPages ..,
          pageTexts_twoPages .., hentry, rfl⟩
      obtain ⟨schema, hschema⟩ := hfirst
      exact ⟨schema :: schemas, .cons hschema hschemas⟩
  obtain ⟨schemas, hschemas⟩ := hbuilt
  refine ⟨_, fun e he => ?_, read, schemas, hload, hschemas, rfl⟩
  exact FileTree.isDirectory_of_list ((hsource e he).symm ▸ list_twoPages a b overrides)

theorem readText_overrides_twoPages : (twoPages a b overrides).readText "o" = .ok overrides := by
  rw [FileTree.readText_eq_ok_iff]
  cbv

end MovedPages

end TableCatalog
