import TableCatalog.Proofs.Build.Rebuild
import TableCatalog.Proofs.Page.Heading

/-!
# The tables of a document have names

A document should have no table with an empty name. Tables come from two sides. A page names its
table by a word, and a word has a letter (`Page.name_read_ne_empty`), so from this side nothing can
go wrong. The override file names its tables by the members of an object, and any text may be one.
Nothing looks at it on the way into the document.

So a document names its tables exactly if the entries that it was built from do
(`buildDocument_namesTables_iff`). The log plays no part here: whatever a page reads as while it is
written into, its name is a word.
-/

set_option autoImplicit false

namespace TableCatalog

/-- No table of the document has an empty name. -/
def Document.NamesTables (d : Document) : Prop :=
  ∀ name schema, d.get? name = some schema → ∀ table ∈ schema.tables.keys, table ≠ ""

/-! ## One environment -/

/-- An environment has a table without a name if its entry has one. -/
def EmptyNameFrom (overrides : Overrides) (e : Environment) (schema : EnvironmentSchema) : Prop :=
  ∃ entry, overrides.environments.get? e.name = some entry ∧
    ("" ∈ schema.tables.keys ↔ "" ∈ entry.keys)

theorem buildEnvironment_emptyName {outer : List Log.Scope} {e : Environment} {directory : Path}
    {overrides : Overrides} {w : World} {schema : EnvironmentSchema}
    (h : (buildEnvironment outer e directory overrides w).1 = .ok schema) :
    EmptyNameFrom overrides e schema := by
  obtain ⟨g, names, pages, entry, -, -, hpages, hentry, hfrom⟩ := buildEnvironment_provenance h
  refine ⟨entry, hentry, ?_⟩
  rw [hfrom.mem_keys_iff]
  constructor
  · rintro (⟨page, hpage, hname⟩ | hmem)
    · -- a page of that name would have been read from a text
      obtain ⟨name, text, -, rfl⟩ := exists_of_forall₂ hpages.flip hpage
      exact absurd rfl (Page.name_read_ne_empty hname)
    · exact hmem
  · exact Or.inr

/-! ## The document -/

/-- Environments that are built one after the other are each built in some world. -/
theorem exists_of_buildAll {outer : List Log.Scope} {overrides : Overrides}
    {P : Environment → EnvironmentSchema → Prop}
    (hP : ∀ e directory w schema,
      (buildEnvironment outer e directory overrides w).1 = .ok schema → P e schema)
    {root : Path} {s : EnvironmentSet} {d d' : Document} {w : World}
    (h : (buildAll outer overrides (s.map fun e => (e, e.sourceDir root)) d w).1 = .ok d') :
    ∃ schemas, List.Forall₂ P s schemas ∧ d' = writeSchemas d (s.zip schemas) := by
  induction s generalizing d w with
  | nil => exact ⟨[], .nil, (Except.ok.inj h).symm⟩
  | cons e s ih =>
    obtain ⟨schema, hschema, hrest⟩ := Run.bind_eq_ok.1 h
    obtain ⟨schemas, hschemas, rfl⟩ := ih hrest
    exact ⟨schema :: schemas, .cons (hP e _ w schema hschema) hschemas, rfl⟩

theorem exists_of_get?_writeSchemas {P : Environment → EnvironmentSchema → Prop}
    {s : EnvironmentSet} {schemas : List EnvironmentSchema} (hall : List.Forall₂ P s schemas)
    {name : String} {schema : EnvironmentSchema}
    (h : (writeSchemas .empty (s.zip schemas)).get? name = some schema) :
    ∃ e ∈ s, e.name = name ∧ P e schema := by
  rw [writeSchemas_empty, OrderedMap.get?_ofList, List.lookup_eq_some_iff] at h
  obtain ⟨before, after, hsplit, -⟩ := h
  have hmem : (name, schema) ∈ (s.zip schemas).map fun p => (p.1.name, p.2) := by
    rw [← List.mem_reverse, hsplit]
    exact List.mem_append_right before List.mem_cons_self
  obtain ⟨⟨e, built⟩, hzip, hpair⟩ := List.mem_map.1 hmem
  obtain ⟨rfl, rfl⟩ := Prod.mk.inj hpair
  exact ⟨e, (List.of_mem_zip hzip).1, rfl, List.forall₂_zip hall hzip⟩

/-- **When a document names its tables**: the override file has no table with an empty name for any
of the environments. -/
theorem buildDocument_namesTables_iff {outer : List Log.Scope} {s : EnvironmentSet}
    {o : BuildOptions} {w : World} {d : Document} (h : (buildDocument outer s o w).1 = .ok d) :
    d.NamesTables ↔
      ∀ e ∈ s, ∀ entry, overridesFor? w.files o.overridesPath e.name = some entry →
        ∀ table ∈ entry.keys, table ≠ "" := by
  obtain ⟨sources, hsources, h⟩ := Run.bind_eq_ok.1 h
  obtain ⟨overrides, hload, hall⟩ := Run.bind_eq_ok.1 h
  obtain ⟨-, rfl⟩ := ensureSources_ok_iff.1 hsources
  have hentries (e : Environment) :
      overridesFor? w.files o.overridesPath e.name = overrides.environments.get? e.name :=
    overridesFor?_of_load hload e.name
  obtain ⟨schemas, hschemas, rfl⟩ :=
    exists_of_buildAll (fun _ _ _ _ hbuilt => buildEnvironment_emptyName hbuilt) hall
  constructor
  · intro hnames e he entry hentry table htable hempty
    subst hempty
    -- the document has an environment of this name, and it was built with the same entry
    have hname : e.name ∈ (writeSchemas .empty (s.zip schemas)).keys := by
      rw [keys_writeSchemas hschemas.length_eq, List.mem_eraseDups]
      exact List.mem_map_of_mem he
    obtain ⟨schema, hschema⟩ := OrderedMap.mem_keys_iff.1 hname
    obtain ⟨e', -, hsame, entry', hentry', hiff⟩ := exists_of_get?_writeSchemas hschemas hschema
    rw [hentries, ← hsame, hentry', Option.some.injEq] at hentry
    subst hentry
    exact hnames e.name schema hschema "" (hiff.2 htable) rfl
  · intro hnames name schema hschema table htable hempty
    subst hempty
    obtain ⟨e, he, -, entry, hentry, hiff⟩ := exists_of_get?_writeSchemas hschemas hschema
    exact hnames e he entry ((hentries e).trans hentry) "" (hiff.1 htable) rfl

/-! ## Cases

The entry of the first document names a table that no page has; that of the second has a table
without a name, with no columns. -/

theorem buildDocument_namesTables_twoPages :
    let overrides : OrderedMap String Tables := .ofList [("env", .ofList [("U", .empty)])]
    let w := World.quiet (twoPages "# T\n" "no heading" (Overrides.render overrides))
    let d : Document := .ofList [("env", ⟨.ofList [("T", .empty), ("U", .empty)], []⟩)]
    let o : BuildOptions := ⟨"", "o"⟩
    (buildDocument [.extract] [anyPages] o w).1 = .ok d ∧
      (d.NamesTables ↔
        ∀ e ∈ [anyPages], ∀ entry, overridesFor? w.files o.overridesPath e.name = some entry →
          ∀ table ∈ entry.keys, table ≠ "") := by
  intro overrides w d o
  have hentry : overrides.get? anyPages.name = some (.ofList [("U", .empty)]) := by decide
  have hwritten : d = .ofList [(anyPages.name, ⟨Tables.mergeList .empty
      ((["# T\n", "no heading"].map Page.read).flatMap Page.Reading.writes ++
        (OrderedMap.ofList [("U", (OrderedMap.empty : Columns))]).toList), []⟩)] := by
    decide
  have hbuilt : (buildDocument [.extract] [anyPages] o w).1 = .ok d := by
    rw [buildDocument_ok_iff fun e _ => World.sparesPages_quiet _ _ e, hwritten]
    exact documented_twoPages_of_entry "# T\n" "no heading" hentry
  exact ⟨hbuilt, buildDocument_namesTables_iff hbuilt⟩

theorem buildDocument_emptyName_twoPages :
    let overrides : OrderedMap String Tables := .ofList [("env", .ofList [("", .empty)])]
    let w := World.quiet (twoPages "# T\n" "no heading" (Overrides.render overrides))
    let d : Document := .ofList [("env", ⟨.ofList [("T", .empty), ("", .empty)], []⟩)]
    let o : BuildOptions := ⟨"", "o"⟩
    (buildDocument [.extract] [anyPages] o w).1 = .ok d ∧ ¬ d.NamesTables := by
  intro overrides w d o
  have hentry : overrides.get? anyPages.name = some (.ofList [("", .empty)]) := by decide
  have hwritten : d = .ofList [(anyPages.name, ⟨Tables.mergeList .empty
      ((["# T\n", "no heading"].map Page.read).flatMap Page.Reading.writes ++
        (OrderedMap.ofList [("", (OrderedMap.empty : Columns))]).toList), []⟩)] := by
    decide
  constructor
  · rw [buildDocument_ok_iff fun e _ => World.sparesPages_quiet _ _ e, hwritten]
    exact documented_twoPages_of_entry "# T\n" "no heading" hentry
  · intro hnames
    let tables : Tables := .ofList [("T", .empty), ("", .empty)]
    have hschema : d.get? "env" = some ⟨tables, []⟩ := by decide
    have hempty : "" ∈ tables.keys := by decide
    exact hnames "env" ⟨tables, []⟩ hschema "" hempty rfl

end TableCatalog
