import TableCatalog.Proofs.Build.Inputs
import TableCatalog.Proofs.FileTree.Place
import TableCatalog.Proofs.Overrides

/-!
# The same pages with another override file

An operator who corrects an override file builds again over the same pages. What the second build
gives is decided environment by environment: each environment has tables from its pages, in both
builds the same, and its entry is laid over them. So a second document is the first one with every
schema changed as its entry is (`Documented.rebuild`).

Where a name is declared twice, the document holds the schema of the last environment of that name.
The others are built as well, and written over, and nothing need be known of what becomes of them
but that they have an entry.

A document that is put into the place of the override file is built again
(`buildDocument_frozen`). The entry then already has every table and every column of the pages, so
laying it over them adds nothing, moves nothing and sets every type to what it was.
-/

set_option autoImplicit false

namespace TableCatalog

variable {s : EnvironmentSet} {t t' : FileTree} {o o' : BuildOptions} {root root' : Path}

/-! ## One environment -/

/-- An environment is built from what its pages give and an entry over it; over the same pages, with
another entry it is built into that entry over the same. -/
theorem SamePages.builtFrom_entry (h : SamePages s t root t' root') {e : Environment} (he : e ∈ s)
    {entry : Tables} {schema : EnvironmentSchema}
    (hbuilt : BuiltFrom t (e.sourceDir root) (some entry) e schema) :
    ∃ scraped : Tables, schema = ⟨scraped.mergeAll entry, e.magicFunctions⟩ ∧
      ∀ entry', BuiltFrom t' (e.sourceDir root') (some entry') e
        ⟨scraped.mergeAll entry', e.magicFunctions⟩ := by
  obtain ⟨g, names, texts, _, hparse, hnames, htexts, hentry, rfl⟩ := hbuilt
  obtain rfl := Option.some.inj hentry
  obtain ⟨hnames', htexts'⟩ := h.pageTexts he hparse hnames htexts
  refine ⟨Tables.mergeList .empty ((texts.map Page.read).flatMap Page.Reading.writes), ?_, ?_⟩
  · rw [Tables.mergeList_append, Tables.mergeAll_eq_mergeList]
  · intro entry'
    refine ⟨g, names, texts, entry', hparse, hnames', htexts', rfl, ?_⟩
    rw [Tables.mergeList_append, Tables.mergeAll_eq_mergeList]

/-! ## The document -/

theorem Documented.keys_eq {d : Document} (h : Documented t s o d) :
    d.keys = (s.map (·.name)).eraseDups := by
  obtain ⟨-, overrides, schemas, -, hschemas, rfl⟩ := h
  exact keys_writeSchemas hschemas.length_eq

theorem Documented.exists_entry {d : Document} {overrides : Overrides} (h : Documented t s o d)
    (hload : Overrides.load t o.overridesPath = .ok overrides) {name : String}
    (hname : name ∈ d.keys) : ∃ entry, overrides.environments.get? name = some entry := by
  rw [h.keys_eq, List.mem_eraseDups] at hname
  obtain ⟨e, he, rfl⟩ := List.mem_map.1 hname
  obtain ⟨-, read, schemas, hread, hschemas, -⟩ := h
  obtain rfl : overrides = read := Except.ok.inj (hload.symm.trans hread)
  obtain ⟨schema, _, _, _, entry, _, _, _, hentry, _⟩ := exists_of_forall₂ hschemas he
  exact ⟨entry, hentry⟩

/-- **A document of the same pages**: if every environment has an entry, and the schemas that the
document holds are changed like their entries, then the changed document is the new one. -/
theorem Documented.rebuild {d : Document} {overrides overrides' : Overrides}
    {change : String → EnvironmentSchema → EnvironmentSchema} (h : Documented t s o d)
    (hpages : SamePages s t o.docsRoot t' o'.docsRoot)
    (hload : Overrides.load t o.overridesPath = .ok overrides)
    (hload' : Overrides.load t' o'.overridesPath = .ok overrides')
    (hentries : ∀ name ∈ d.keys, ∃ entry', overrides'.environments.get? name = some entry')
    (hchange : ∀ name magic, ∀ scraped entry entry' : Tables,
      overrides.environments.get? name = some entry →
      overrides'.environments.get? name = some entry' →
      d.get? name = some ⟨scraped.mergeAll entry, magic⟩ →
      ⟨scraped.mergeAll entry', magic⟩ = change name ⟨scraped.mergeAll entry, magic⟩) :
    Documented t' s o' (d.mapEntries change) := by
  have hkeys := h.keys_eq
  obtain ⟨hsource, read, schemas, hread, hschemas, hd⟩ := h
  obtain rfl : overrides = read := Except.ok.inj (hload.symm.trans hread)
  obtain ⟨schemas', hschemas', hzip⟩ := exists_forall₂_zip
    (T := fun e schema' => BuiltFrom t' (e.sourceDir o'.docsRoot)
      (overrides'.environments.get? e.name) e schema')
    (Q := fun e schema schema' => d.get? e.name = some schema → schema' = change e.name schema)
    hschemas (by
      intro e he schema hbuilt
      have hname : e.name ∈ d.keys := by
        rw [hkeys, List.mem_eraseDups]
        exact List.mem_map_of_mem he
      obtain ⟨entry', hentry'⟩ := hentries e.name hname
      obtain ⟨_, _, _, entry, _, _, _, hentry, _⟩ := id hbuilt
      rw [hentry] at hbuilt
      obtain ⟨scraped, rfl, hrebuilt⟩ := hpages.builtFrom_entry he hbuilt
      exact ⟨_, hentry' ▸ hrebuilt entry', hchange _ _ scraped entry entry' hentry hentry'⟩)
  refine ⟨fun e he => (hpages.source e he).symm.trans (hsource e he), overrides', schemas', hload',
    hschemas', ?_⟩
  rw [writeSchemas_empty] at hd ⊢
  subst hd
  refine (OrderedMap.ofList_eq_mapEntries ?_).symm
  rw [List.forall₂_map_left_iff, List.forall₂_map_right_iff]
  refine hzip.imp fun p p' hp => ?_
  rw [hp.1]
  exact ⟨rfl, hp.2⟩

/-! ## Replacing a file -/

section Replace

variable {at_ : Location} {held content : ByteArray} {directory : Path} {g : Glob} {name : String}

/-- A file with another content is still listed, and still a page. -/
theorem hasPage_of_replaced (h : t.AlikeBut at_ t')
    (hfile' : t'.nodes.get? at_ = some (.file content)) (hpage : HasPage t directory g name) :
    HasPage t' directory g name := by
  obtain ⟨⟨listed, hlisted, hname⟩, hpage⟩ := hpage
  obtain ⟨place, hplace, rfl⟩ := FileTree.list_eq_ok_iff.1 hlisted
  obtain ⟨node, hnode⟩ := mem_namesAt_iff.1 hname
  refine ⟨⟨_, FileTree.list_eq_ok_iff.2 ⟨place, FileTree.resolve_directory_alikeBut h hplace, rfl⟩,
    ?_⟩, ?_⟩
  · rw [mem_namesAt_iff]
    by_cases hat : place ++ [name] = at_
    · exact ⟨_, hat ▸ hfile'⟩
    · exact ⟨node, (h.elsewhere _ hat).symm.trans hnode⟩
  · simp only [isPage, Bool.and_eq_true] at hpage ⊢
    exact ⟨⟨FileTree.isFile_alikeBut h ⟨content, hfile'⟩ hpage.1.1, hpage.1.2⟩, hpage.2⟩

/-- **Replacing a file that is no page leaves the pages as they are.** -/
theorem SamePages.of_replaced (h : t.AlikeBut at_ t')
    (hfile : t.nodes.get? at_ = some (.file held))
    (hfile' : t'.nodes.get? at_ = some (.file content))
    (hno : ∀ e ∈ s, ∀ g name, Glob.parse e.pattern = .ok g →
      HasPage t (e.sourceDir root) g name →
        t.location? (Path.join (e.sourceDir root) name) ≠ some at_) :
    SamePages s t root t' root where
  source e _ := Bool.eq_iff_iff.2 (FileTree.isDirectory_alikeBut h _)
  listed e _ := FileTree.exists_list_alikeBut h _
  pages e he g hparse name read := by
    have hread (hpage : HasPage t (e.sourceDir root) g name) :
        t'.readBytes (Path.join (e.sourceDir root) name) =
          t.readBytes (Path.join (e.sourceDir root) name) :=
      FileTree.readBytes_alikeBut h hpage.isFile (hno e he g name hparse hpage)
    constructor
    · rintro ⟨hpage, rfl⟩
      exact ⟨hasPage_of_replaced h hfile' hpage, congrArg _ (hread hpage)⟩
    · rintro ⟨hpage', rfl⟩
      have hpage := hasPage_of_replaced h.symm hfile hpage'
      exact ⟨hpage, congrArg _ (hread hpage).symm⟩

end Replace

/-! ## Freezing a document -/

/-- The tables of a document as the content of an override file. -/
def Document.frozen (d : Document) : OrderedMap String Tables :=
  d.mapValues EnvironmentSchema.tables

/-- **A document that is put into the place of the override file is built again**, over the same
pages and from any JSON text of it: the same document, written the same. -/
theorem buildDocument_frozen {outer outer' : List Log.Scope} {w w' : World} {d : Document}
    {text : String} (hspares : ∀ e ∈ s, w.SparesPages (e.sourceDir o.docsRoot) e)
    (hspares' : ∀ e ∈ s, w'.SparesPages (e.sourceDir o'.docsRoot) e)
    (hbuilt : (buildDocument outer s o w).1 = .ok d)
    (hpages : SamePages s w.files o.docsRoot w'.files o'.docsRoot)
    (hread : w'.files.readText o'.overridesPath = .ok text)
    (hmeans : Json.Means text.toList (Overrides.environmentsJson d.frozen)) :
    (buildDocument outer' s o' w').1 = .ok d ∧
      ∀ d', (buildDocument outer' s o' w').1 = .ok d' → d'.render = d.render := by
  have hd := (buildDocument_ok_iff hspares).1 hbuilt
  obtain ⟨-, overrides, -, hload, -⟩ := id hd
  have hload' : Overrides.load w'.files o'.overridesPath = .ok ⟨d.frozen, o'.overridesPath⟩ := by
    rw [Overrides.load, hread]
    exact Overrides.ofJson_of_means hmeans (Overrides.environmentsOf?_environmentsJson _) _
  have hentry (name : String) : d.frozen.get? name = (d.get? name).map EnvironmentSchema.tables :=
    OrderedMap.get?_mapValues EnvironmentSchema.tables d name
  have hrebuilt : Documented w'.files s o' d := by
    rw [← OrderedMap.mapEntries_self d]
    refine hd.rebuild hpages hload hload' (fun name hname => ?_) ?_
    · obtain ⟨schema, hschema⟩ := OrderedMap.mem_keys_iff.1 hname
      exact ⟨_, (hentry name).trans (congrArg _ hschema)⟩
    · intro name magic scraped entry entry' _ hentry' hschema
      rw [hentry, hschema, Option.map_some] at hentry'
      obtain rfl := Option.some.inj hentry'
      rw [Tables.mergeAll_mergeAll]
  have hagain : (buildDocument outer' s o' w').1 = .ok d :=
    (buildDocument_ok_iff hspares').2 hrebuilt
  refine ⟨hagain, fun d' hd' => ?_⟩
  rw [Except.ok.inj (hd'.symm.trans hagain)]

/-! ## A case

The override file of `twoPages` replaces a type that a page gives, adds a column to the table of the
pages and adds a table without columns. Then the document is written into its place. -/

section TwoPages

variable (a b overrides overrides' : String)

theorem target_twoPages : (twoPages a b overrides).target "o" = .ok ["o"] := by cbv

theorem place_twoPages : (twoPages a b overrides).place ["o"] (.file overrides'.toUTF8) =
    twoPages a b overrides' := rfl

theorem write_twoPages : (twoPages a b overrides).write "o" overrides' =
    .ok (twoPages a b overrides') :=
  FileTree.write_of_target (target_twoPages a b overrides) overrides'

/-- The override file of `twoPages` is none of the pages. -/
theorem samePages_twoPages :
    SamePages [anyPages] (twoPages a b overrides) "" (twoPages a b overrides') "" := by
  have hfile : (twoPages a b overrides).nodes.get? ["o"] = some (.file overrides.toUTF8) := rfl
  have hfile' : (twoPages a b overrides').nodes.get? ["o"] = some (.file overrides'.toUTF8) := rfl
  have halike : (twoPages a b overrides).AlikeBut ["o"] (twoPages a b overrides') := by
    rw [← place_twoPages a b overrides overrides']
    exact FileTree.alikeBut_place
      (fun node hnode => ⟨_, Option.some.inj (hnode.symm.trans hfile)⟩) _
  refine .of_replaced halike hfile hfile' (List.forall_mem_singleton.2 ?_)
  intro g name hparse hpage
  obtain rfl := Except.ok.inj (parse_anyPages.symm.trans hparse)
  have hname : name ∈ ["a", "b"] := ((pageNames_twoPages a b overrides).mem_iff name).2 hpage
  rcases List.mem_pair.1 hname with rfl | rfl
  · have hplace : (twoPages a b overrides).location? "d/a" = some ["d", "a"] := by cbv
    exact fun hat => absurd (hplace.symm.trans hat) (by decide)
  · have hplace : (twoPages a b overrides).location? "d/b" = some ["d", "b"] := by cbv
    exact fun hat => absurd (hplace.symm.trans hat) (by decide)

/-- The document of `twoPages`, if its override file gives `entry` and the pages read as they do. -/
theorem documented_twoPages_of_entry {environments : OrderedMap String Tables} {entry : Tables}
    (hentry : environments.get? anyPages.name = some entry) :
    Documented (twoPages a b (Overrides.render environments)) [anyPages] ⟨"", "o"⟩
      (.ofList [(anyPages.name, ⟨Tables.mergeList .empty
        (([a, b].map Page.read).flatMap Page.Reading.writes ++ entry.toList), []⟩)]) := by
  refine ⟨List.forall_mem_singleton.2 (FileTree.isDirectory_of_list (list_twoPages ..)), _, _,
    Overrides.load_of_readText (readText_overrides_twoPages ..), .cons ?_ .nil, rfl⟩
  exact ⟨_, _, _, entry, parse_anyPages, pageNames_twoPages .., pageTexts_twoPages .., hentry, rfl⟩

end TwoPages

theorem buildDocument_frozen_twoPages :
    let pageA := "# T\n## Columns\n|A|int|\n|B|bigint|\n"
    let pageB := "# T\n## Columns\n|B|real|\n|C|date|\n"
    let overrides : OrderedMap String Tables :=
      .ofList [("env", .ofList [("U", .empty), ("T", .ofList [("D", "X"), ("A", "Y")])])]
    let d : Document := .ofList [("env",
      ⟨.ofList [("T", .ofList [("A", "Y"), ("B", "real"), ("C", "date"), ("D", "X")]),
        ("U", .empty)], []⟩)]
    let o : BuildOptions := ⟨"", "o"⟩
    let w := World.quiet (twoPages pageA pageB (Overrides.render overrides))
    let w' := World.quiet (twoPages pageA pageB (Overrides.render d.frozen))
    w.files.write "o" (Overrides.render d.frozen) = .ok w'.files ∧
      (∀ e ∈ [anyPages], w.SparesPages (e.sourceDir o.docsRoot) e) ∧
      (∀ e ∈ [anyPages], w'.SparesPages (e.sourceDir o.docsRoot) e) ∧
      (buildDocument [.extract] [anyPages] o w).1 = .ok d ∧
      SamePages [anyPages] w.files o.docsRoot w'.files o.docsRoot ∧
      w'.files.readText o.overridesPath = .ok (Overrides.render d.frozen) ∧
      Json.Means (Overrides.render d.frozen).toList (Overrides.environmentsJson d.frozen) ∧
      (buildDocument [.check] [anyPages] o w').1 = .ok d ∧
      ∀ d', (buildDocument [.check] [anyPages] o w').1 = .ok d' → d'.render = d.render := by
  intro pageA pageB overrides d o w w'
  have hspares (files : FileTree) :
      ∀ e ∈ [anyPages], (World.quiet files).SparesPages (e.sourceDir o.docsRoot) e :=
    fun e _ => World.sparesPages_quiet files _ e
  have hentry : overrides.get? anyPages.name =
      some (.ofList [("U", .empty), ("T", .ofList [("D", "X"), ("A", "Y")])]) := by decide
  have hd : Documented w.files [anyPages] o d := by
    have hwritten : d = .ofList [(anyPages.name, ⟨Tables.mergeList .empty
        (([pageA, pageB].map Page.read).flatMap Page.Reading.writes ++
          (OrderedMap.ofList [("U", .empty),
            ("T", OrderedMap.ofList [("D", "X"), ("A", "Y")])]).toList), []⟩)] := by
      decide
    rw [hwritten]
    exact documented_twoPages_of_entry pageA pageB hentry
  have hbuilt : (buildDocument [.extract] [anyPages] o w).1 = .ok d :=
    (buildDocument_ok_iff (hspares _)).2 hd
  have hpages : SamePages [anyPages] w.files o.docsRoot w'.files o.docsRoot :=
    samePages_twoPages ..
  have hread : w'.files.readText o.overridesPath = .ok (Overrides.render d.frozen) :=
    readText_overrides_twoPages ..
  have hmeans := Overrides.means_render d.frozen
  exact ⟨write_twoPages .., hspares _, hspares _, hbuilt, hpages, hread, hmeans,
    buildDocument_frozen (hspares _) (hspares _) hbuilt hpages hread hmeans⟩

end TableCatalog
