import TableCatalog.Proofs.Build.Faults

/-!
# What a document is made of

`Documented` describes the document of some environments by the file tree the run began with: every
directory is there, the override file gives an entry to each environment, and the environments are
written into the document in the order in which they are declared. No world and no log occur in it.
`buildDocument_ok_iff` says that this is what a run returns, if its log spares the pages.
-/

set_option autoImplicit false

namespace TableCatalog

/-- Write schemas into a document, each under the name of its environment. -/
def writeSchemas (d : Document) (schemas : List (Environment × EnvironmentSchema)) : Document :=
  schemas.foldl (fun acc p => acc.insert p.1.name p.2) d

/-- `schemas` are what the environments `s`, each with its pages and its entry, are built into. -/
def AllBuilt (t : FileTree) (root : Path) (overrides : Overrides) (s : EnvironmentSet)
    (schemas : List EnvironmentSchema) : Prop :=
  List.Forall₂ (fun e schema =>
    BuiltFrom t (e.sourceDir root) (overrides.environments.get? e.name) e schema) s schemas

/-- `d` is the document of the environments `s`. -/
def Documented (t : FileTree) (s : EnvironmentSet) (o : BuildOptions) (d : Document) : Prop :=
  (∀ e ∈ s, t.isDirectory (e.sourceDir o.docsRoot) = true) ∧
    ∃ overrides schemas, Overrides.load t o.overridesPath = .ok overrides ∧
      AllBuilt t o.docsRoot overrides s schemas ∧ d = writeSchemas .empty (s.zip schemas)

theorem writeSchemas_empty (built : List (Environment × EnvironmentSchema)) :
    writeSchemas .empty built = .ofList (built.map fun p => (p.1.name, p.2)) := by
  rw [OrderedMap.ofList, List.foldl_map]
  rfl

/-- The keys of a document are the names of its environments, each at its first place. -/
theorem keys_writeSchemas {s : EnvironmentSet} {schemas : List EnvironmentSchema}
    (h : s.length = schemas.length) :
    (writeSchemas .empty (s.zip schemas)).keys = (s.map (·.name)).eraseDups := by
  have hfst : (s.zip schemas).map Prod.fst = s := List.map_fst_zip (Nat.le_of_eq h)
  rw [writeSchemas_empty, OrderedMap.keys_ofList, List.map_map]
  calc ((s.zip schemas).map (Prod.fst ∘ fun p => (p.1.name, p.2))).eraseDups
      = (((s.zip schemas).map Prod.fst).map (·.name)).eraseDups := by rw [List.map_map]; rfl
    _ = (s.map (·.name)).eraseDups := by rw [hfst]

theorem allBuilt_noted {w : World} {root : Path} {overrides : Overrides} {s : EnvironmentSet}
    {schemas : List EnvironmentSchema} (hspares : ∀ e ∈ s, w.SparesPages (e.sourceDir root) e)
    (es : List Log.Entry) :
    AllBuilt (w.noted es).files root overrides s schemas ↔
      AllBuilt w.files root overrides s schemas := by
  constructor
  · exact fun h => forall₂_imp_of_mem h fun e he _ => (builtFrom_noted (hspares e he) es).1
  · exact fun h => forall₂_imp_of_mem h fun e he _ => (builtFrom_noted (hspares e he) es).2

theorem ensureSources_ok_iff {t : FileTree} {root : Path} {s : EnvironmentSet}
    {sources : List (Environment × Path)} :
    ensureSources root t s = .ok sources ↔
      (∀ e ∈ s, t.isDirectory (e.sourceDir root) = true) ∧
        sources = s.map fun e => (e, e.sourceDir root) := by
  rw [← sourceFaults_eq_nil_iff, ← (ensureSources_reports t root s).ok_iff]
  constructor
  · exact fun h => ⟨⟨_, h⟩, ensureSources_ok h⟩
  · rintro ⟨⟨sources', h⟩, rfl⟩
    rw [h, ensureSources_ok h]

/-- Building environments one after the other builds each from the files the run began with. -/
theorem buildAll_ok_iff {outer : List Log.Scope} {overrides : Overrides} {root : Path}
    {s : EnvironmentSet} {d d' : Document} {w : World}
    (hspares : ∀ e ∈ s, w.SparesPages (e.sourceDir root) e) :
    (buildAll outer overrides (s.map fun e => (e, e.sourceDir root)) d w).1 = .ok d' ↔
      ∃ schemas, AllBuilt w.files root overrides s schemas ∧
        d' = writeSchemas d (s.zip schemas) := by
  induction s generalizing d w with
  | nil =>
    rw [List.map_nil, buildAll, Run.pure_apply]
    constructor
    · intro h
      exact ⟨[], .nil, (Except.ok.inj h).symm⟩
    · rintro ⟨_, -, rfl⟩
      rfl
  | cons e s ih =>
    obtain ⟨hspare, hspares⟩ := List.forall_mem_cons.1 hspares
    obtain ⟨es, hes⟩ := buildEnvironment_onlyNotes outer e (e.sourceDir root) overrides w
    rw [List.map_cons, buildAll, Run.bind_eq_ok, hes]
    have hrest (schema : EnvironmentSchema) := ih (d := d.insert e.name schema) (w := w.noted es)
      (fun e' he' => World.sparesPages_noted (hspares e' he') es)
    constructor
    · rintro ⟨schema, hschema, h⟩
      obtain ⟨schemas, hschemas, rfl⟩ := (hrest schema).1 h
      -- the rest was built in a later world, but from the files the run began with
      rw [allBuilt_noted hspares] at hschemas
      exact ⟨schema :: schemas,
        .cons ((buildEnvironment_ok_iff hspare).1 hschema) hschemas, rfl⟩
    · rintro ⟨_, hall, rfl⟩
      cases hall with
      | cons hbuilt hschemas =>
        refine ⟨_, (buildEnvironment_ok_iff hspare).2 hbuilt, ?_⟩
        exact (hrest _).2 ⟨_, (allBuilt_noted hspares es).2 hschemas, rfl⟩

/-- **What a run returns is the document of its environments**, if the log spares the pages. -/
theorem buildDocument_ok_iff {outer : List Log.Scope} {s : EnvironmentSet} {o : BuildOptions}
    {w : World} {d : Document} (hspares : ∀ e ∈ s, w.SparesPages (e.sourceDir o.docsRoot) e) :
    (buildDocument outer s o w).1 = .ok d ↔ Documented w.files s o d := by
  rw [buildDocument, Run.bind_eq_ok]
  simp only [Run.look_apply, ensureSources_ok_iff, Run.bind_eq_ok]
  constructor
  · rintro ⟨_, ⟨hsources, rfl⟩, overrides, hload, hall⟩
    obtain ⟨schemas, hschemas, rfl⟩ := (buildAll_ok_iff hspares).1 hall
    exact ⟨hsources, overrides, schemas, hload, hschemas, rfl⟩
  · rintro ⟨hsources, overrides, schemas, hload, hschemas, rfl⟩
    exact ⟨_, ⟨hsources, rfl⟩, overrides, hload,
      (buildAll_ok_iff hspares).2 ⟨schemas, hschemas, rfl⟩⟩

end TableCatalog
