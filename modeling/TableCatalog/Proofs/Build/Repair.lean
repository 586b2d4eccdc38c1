import TableCatalog.Proofs.Build.Rebuild
import TableCatalog.Proofs.Check

/-!
# Repairing what a check reports

A check names the columns whose type is no scalar type. The operator sets each of them in the
override file, in any order and to scalar types of his choice, and builds again over the same pages.
`buildDocument_repaired` says that this works and does nothing else: the new document is the old one
with the reported types replaced (`Document.retyped`), and a check of it reports nothing.

The changed entry of an environment is the old one with further writes behind it, and these may as
well be made to the result (`Tables.mergeAll_mergeList`). There every reported column is already in
its place, since the report has been read off the document; so no write adds or moves anything
(`Tables.mergeList_eq_mapTypes`).
-/

set_option autoImplicit false

namespace TableCatalog

/-! ## The repair -/

/-- Set the type of one column: in place if the column is there, else at the end of its table, which
is added if it is not there. -/
def Tables.setType (tables : Tables) (table column : String) (type : ColumnType) : Tables :=
  tables.insert table ((columnsOf tables table).insert column type)

/-- The content of an override file, with the type of every reported column set. -/
def Overrides.repair (choose : UnknownType → ColumnType) (unknown : List UnknownType)
    (environments : OrderedMap String Tables) : OrderedMap String Tables :=
  unknown.foldl (fun acc u => acc.insert u.environment
    (Tables.setType ((acc.get? u.environment).getD .empty) u.table u.column (choose u))) environments

/-- A document with the types of the reported columns replaced. -/
def Document.retyped (choose : UnknownType → ColumnType) (unknown : List UnknownType)
    (d : Document) : Document :=
  d.mapEntries fun environment schema =>
    { schema with
      tables := schema.tables.mapTypes fun table column type =>
        if ⟨environment, table, column, type⟩ ∈ unknown then
          choose ⟨environment, table, column, type⟩
        else type }

/-! ## The entry of an environment -/

/-- Setting a type is a write of one column. -/
theorem Tables.setType_eq_merge (tables : Tables) (table column : String) (type : ColumnType) :
    Tables.setType tables table column type =
      Tables.merge tables table (.ofList [(column, type)]) := rfl

/-- The writes that repair the entry of one environment. -/
def repairWrites (choose : UnknownType → ColumnType) (unknown : List UnknownType)
    (environment : String) : List (String × Columns) :=
  (unknown.filter fun u => u.environment = environment).map fun u =>
    (u.table, .ofList [(u.column, choose u)])

theorem mem_repairWrites {choose : UnknownType → ColumnType} {unknown : List UnknownType}
    {environment : String} {w : String × Columns} :
    w ∈ repairWrites choose unknown environment ↔
      ∃ u ∈ unknown, u.environment = environment ∧ w = (u.table, .ofList [(u.column, choose u)]) := by
  simp only [repairWrites, List.mem_map, List.mem_filter, decide_eq_true_eq]
  constructor
  · rintro ⟨u, ⟨hu, henv⟩, rfl⟩
    exact ⟨u, hu, henv, rfl⟩
  · rintro ⟨u, hu, henv, rfl⟩
    exact ⟨u, ⟨hu, henv⟩, rfl⟩

theorem get?_repair {choose : UnknownType → ColumnType} {unknown : List UnknownType}
    {environments : OrderedMap String Tables} {environment : String} {entry : Tables}
    (h : environments.get? environment = some entry) :
    (Overrides.repair choose unknown environments).get? environment =
      some (Tables.mergeList entry (repairWrites choose unknown environment)) := by
  induction unknown generalizing environments entry with
  | nil => exact h
  | cons u unknown ih =>
    rw [Overrides.repair, List.foldl_cons]
    by_cases hu : u.environment = environment
    · rw [repairWrites, List.filter_cons_of_pos (by simpa using hu), List.map_cons]
      refine ih ?_
      rw [OrderedMap.get?_insert, if_pos hu, hu, h, Option.getD_some, Tables.setType_eq_merge]
    · rw [repairWrites, List.filter_cons_of_neg (by simpa using hu)]
      refine ih ?_
      rw [OrderedMap.get?_insert, if_neg hu, h]

/-! ## The tables of an environment -/

/-- **Writes to columns that are there change types and nothing else.** -/
theorem Tables.mergeList_eq_mapTypes {tables : Tables} {ws : List (String × Columns)}
    {f : String → String → ColumnType → ColumnType}
    (hthere : ∀ w ∈ ws, w.1 ∈ tables.keys ∧ ∀ column ∈ w.2.keys,
      column ∈ (columnsOf tables w.1).keys)
    (htype : ∀ table column type, type? tables table column = some type →
      (lastType? ws table column).getD type = f table column type) :
    mergeList tables ws = mapTypes f tables := by
  refine eq_of_type? ?_ (fun table => ?_) fun table column => ?_
  · have hnames : ∀ name ∈ ws.map Prod.fst, name ∈ tables.keys :=
      List.forall_mem_map.2 fun w hw => (hthere w hw).1
    rw [keys_mergeList, keys_mapTypes, eraseDups_append_of_subset hnames,
      eraseDups_of_nodup tables.nodup_keys]
  · have hcolumns : ∀ column ∈ (writesTo ws table).flatMap OrderedMap.keys,
        column ∈ (columnsOf tables table).keys := by
      intro column hcolumn
      obtain ⟨columns, hcolumns, hmem⟩ := List.mem_flatMap.1 hcolumn
      obtain ⟨w, hw, rfl⟩ := List.mem_map.1 hcolumns
      obtain ⟨hw, htable⟩ := List.mem_filter.1 hw
      exact of_decide_eq_true htable ▸ (hthere w hw).2 column hmem
    rw [keys_columnsOf_mergeList, columnsOf_mapTypes, OrderedMap.keys_mapEntries,
      eraseDups_append_of_subset hcolumns, eraseDups_of_nodup (columnsOf tables table).nodup_keys]
  · rw [type?_mergeList, type?_mapTypes]
    cases hold : type? tables table column with
    | some type =>
      rw [Option.map_some, ← htype table column type hold]
      cases lastType? ws table column <;> rfl
    | none =>
      -- a column that is not there is not written either
      have hnone : lastType? ws table column = none := by
        refine lastType?_eq_none_iff.2 fun w hw htable => ?_
        by_contra hwritten
        obtain ⟨type, hwritten⟩ := Option.ne_none_iff_exists'.1 hwritten
        have hmem := (hthere w hw).2 column (OrderedMap.mem_keys_iff.2 ⟨type, hwritten⟩)
        obtain ⟨type', htype'⟩ := OrderedMap.mem_keys_iff.1 hmem
        rw [get?_columnsOf, htable, hold] at htype'
        exact absurd htype' (by simp)
      rw [hnone]
      rfl

variable {d : Document} {choose : UnknownType → ColumnType} {unknown : List UnknownType}
  {environment : String} {schema : EnvironmentSchema}

/-- A reported column has the type that the report tells. -/
theorem type?_of_reported (hschema : d.get? environment = some schema)
    (hunknown : ∀ u ∈ unknown, u ∈ d.unknownTypes) {u : UnknownType} (hu : u ∈ unknown)
    (henv : u.environment = environment) :
    Tables.type? schema.tables u.table u.column = some u.type := by
  have htype := (Document.mem_unknownTypes_iff.1 (hunknown u hu)).1
  rwa [henv, Document.type?_of_get? hschema] at htype

/-- What the repair makes of a type: the chosen one if the type has been reported. -/
theorem lastType?_repairWrites (hschema : d.get? environment = some schema)
    (hunknown : ∀ u ∈ unknown, u ∈ d.unknownTypes) {table column : String} {type : ColumnType}
    (htype : Tables.type? schema.tables table column = some type) :
    (Tables.lastType? (repairWrites choose unknown environment) table column).getD type =
      if ⟨environment, table, column, type⟩ ∈ unknown then
        choose ⟨environment, table, column, type⟩
      else type := by
  cases hlast : Tables.lastType? (repairWrites choose unknown environment) table column with
  | some chosen =>
    obtain ⟨w, hw, rfl, hget⟩ := Tables.exists_of_lastType? hlast
    obtain ⟨u, hu, henv, rfl⟩ := mem_repairWrites.1 hw
    rw [OrderedMap.get?_singleton] at hget
    obtain ⟨rfl, rfl⟩ : u.column = column ∧ choose u = chosen := by simpa using hget
    -- the report tells the type that the column has, so there is one line for it
    have hold := type?_of_reported hschema hunknown hu henv
    obtain rfl : u.type = type := Option.some.inj (hold.symm.trans htype)
    subst henv
    rw [if_pos hu, Option.getD_some]
  | none =>
    rw [if_neg, Option.getD_none]
    intro hu
    have hunwritten := Tables.lastType?_eq_none_iff.1 hlast _
      (mem_repairWrites.2 ⟨_, hu, rfl, rfl⟩) rfl
    rw [OrderedMap.get?_singleton, if_pos rfl] at hunwritten
    exact absurd hunwritten (by simp)

/-- The repair of an environment, made to its tables, replaces the reported types. -/
theorem mergeList_repairWrites (hschema : d.get? environment = some schema)
    (hunknown : ∀ u ∈ unknown, u ∈ d.unknownTypes) :
    Tables.mergeList schema.tables (repairWrites choose unknown environment) =
      schema.tables.mapTypes fun table column type =>
        if ⟨environment, table, column, type⟩ ∈ unknown then
          choose ⟨environment, table, column, type⟩
        else type := by
  refine Tables.mergeList_eq_mapTypes ?_ fun _ _ _ htype =>
    lastType?_repairWrites hschema hunknown htype
  intro w hw
  obtain ⟨u, hu, henv, rfl⟩ := mem_repairWrites.1 hw
  obtain ⟨htable, hcolumn⟩ :=
    Tables.mem_keys_of_type? (type?_of_reported hschema hunknown hu henv)
  refine ⟨htable, fun column hmem => ?_⟩
  rw [OrderedMap.keys_ofList] at hmem
  obtain rfl := List.mem_singleton.1 (List.mem_eraseDups.1 hmem)
  exact hcolumn

/-! ## The document -/

/-- Nothing is left to be reported of a document in which every reported type has been replaced by a
scalar type. -/
theorem Document.unknownTypes_retyped (hall : ∀ u ∈ d.unknownTypes, u ∈ unknown)
    (hchoose : ∀ u ∈ unknown, (choose u).isScalar = true) :
    (d.retyped choose unknown).unknownTypes = [] := by
  refine List.eq_nil_iff_forall_not_mem.2 fun u hu => ?_
  obtain ⟨htype, hunknown⟩ := Document.mem_unknownTypes_iff.1 hu
  rw [Document.type?, Document.retyped, OrderedMap.get?_mapEntries] at htype
  cases hschema : d.get? u.environment with
  | none => rw [hschema] at htype; simp at htype
  | some schema =>
    rw [hschema, Option.map_some, Option.bind_some, Tables.type?_mapTypes] at htype
    obtain ⟨type, hold, hnew⟩ := Option.map_eq_some_iff.1 htype
    rw [← Document.type?_of_get? hschema] at hold
    split at hnew
    · next hreported =>
      exact hunknown (hnew ▸ ColumnType.isScalar_iff.1 (hchoose _ hreported))
    · next hkept =>
      rw [← hnew] at hunknown
      exact hkept (hall _ (Document.mem_unknownTypes_iff.2 ⟨hold, hunknown⟩))

variable {s : EnvironmentSet} {o o' : BuildOptions}

/-- **Setting what a check reports to scalar types repairs the document**, over the same pages and
in whatever order the columns are set: the build succeeds, exactly the reported types have changed,
to the chosen ones, and nothing is left to be reported. -/
theorem buildDocument_repaired {outer outer' : List Log.Scope} {w w' : World}
    {overrides overrides' : Overrides} (hspares : ∀ e ∈ s, w.SparesPages (e.sourceDir o.docsRoot) e)
    (hspares' : ∀ e ∈ s, w'.SparesPages (e.sourceDir o'.docsRoot) e)
    (hbuilt : (buildDocument outer s o w).1 = .ok d)
    (hload : Overrides.load w.files o.overridesPath = .ok overrides)
    (hunknown : ∀ u, u ∈ unknown ↔ u ∈ d.unknownTypes)
    (hchoose : ∀ u ∈ unknown, (choose u).isScalar = true)
    (hpages : SamePages s w.files o.docsRoot w'.files o'.docsRoot)
    (hload' : Overrides.load w'.files o'.overridesPath = .ok overrides')
    (hrepair : overrides'.environments =
      Overrides.repair choose unknown overrides.environments) :
    (buildDocument outer' s o' w').1 = .ok (d.retyped choose unknown) ∧
      (d.retyped choose unknown).unknownTypes = [] := by
  have hd := (buildDocument_ok_iff hspares).1 hbuilt
  refine ⟨(buildDocument_ok_iff hspares').2 ?_,
    Document.unknownTypes_retyped (fun u => (hunknown u).2) hchoose⟩
  refine hd.rebuild hpages hload hload' (fun name hname => ?_) ?_
  · obtain ⟨entry, hentry⟩ := hd.exists_entry hload hname
    exact ⟨_, hrepair ▸ get?_repair hentry⟩
  · intro name magic scraped entry entry' hentry hentry' hschema
    rw [hrepair, get?_repair hentry] at hentry'
    obtain rfl := Option.some.inj hentry'
    rw [Tables.mergeAll_mergeList, mergeList_repairWrites hschema fun u => (hunknown u).1]

/-! ## A case

Three columns of `twoPages` have an unknown type: one from a page, one that the override file takes
from a page and one that only the override file has. They are set from the last to the first. -/

theorem buildDocument_repaired_twoPages :
    let pageA := "# T\n## Columns\n|A|int|\n|B|integer|\n"
    let pageB := "# T\n## Columns\n|B|float|\n|C|date|\n"
    let overrides : OrderedMap String Tables :=
      .ofList [("env", .ofList [("U", .ofList [("A", "X")]),
        ("T", .ofList [("D", "long"), ("A", "Y")])])]
    let d : Document := .ofList [("env",
      ⟨.ofList [("T", .ofList [("A", "Y"), ("B", "float"), ("C", "date"), ("D", "long")]),
        ("U", .ofList [("A", "X")])], []⟩)]
    let choose (u : UnknownType) : ColumnType := if u.column = "A" then "int" else "real"
    let unknown := d.unknownTypes.reverse
    let overrides' := Overrides.repair choose unknown overrides
    let d' : Document := .ofList [("env",
      ⟨.ofList [("T", .ofList [("A", "int"), ("B", "real"), ("C", "date"), ("D", "long")]),
        ("U", .ofList [("A", "int")])], []⟩)]
    let o : BuildOptions := ⟨"", "o"⟩
    let w := World.quiet (twoPages pageA pageB (Overrides.render overrides))
    let w' := World.quiet (twoPages pageA pageB (Overrides.render overrides'))
    overrides' = .ofList [("env", .ofList [("U", .ofList [("A", "int")]),
        ("T", .ofList [("D", "long"), ("A", "int"), ("B", "real")])])] ∧
      (∀ e ∈ [anyPages], w.SparesPages (e.sourceDir o.docsRoot) e) ∧
      (∀ e ∈ [anyPages], w'.SparesPages (e.sourceDir o.docsRoot) e) ∧
      (buildDocument [.extract] [anyPages] o w).1 = .ok d ∧
      Overrides.load w.files o.overridesPath = .ok ⟨overrides, o.overridesPath⟩ ∧
      (∀ u, u ∈ unknown ↔ u ∈ d.unknownTypes) ∧
      (∀ u ∈ unknown, (choose u).isScalar = true) ∧
      SamePages [anyPages] w.files o.docsRoot w'.files o.docsRoot ∧
      Overrides.load w'.files o.overridesPath = .ok ⟨overrides', o.overridesPath⟩ ∧
      d.retyped choose unknown = d' ∧
      (buildDocument [.check] [anyPages] o w').1 = .ok (d.retyped choose unknown) ∧
      (d.retyped choose unknown).unknownTypes = [] := by
  intro pageA pageB overrides d choose unknown overrides' d' o w w'
  have hspares (files : FileTree) :
      ∀ e ∈ [anyPages], (World.quiet files).SparesPages (e.sourceDir o.docsRoot) e :=
    fun e _ => World.sparesPages_quiet files _ e
  have hentry : overrides.get? anyPages.name = some (.ofList [("U", .ofList [("A", "X")]),
      ("T", .ofList [("D", "long"), ("A", "Y")])]) := by decide
  have hbuilt : (buildDocument [.extract] [anyPages] o w).1 = .ok d := by
    have hwritten : d = .ofList [(anyPages.name, ⟨Tables.mergeList .empty
        (([pageA, pageB].map Page.read).flatMap Page.Reading.writes ++
          (OrderedMap.ofList [("U", OrderedMap.ofList [("A", "X")]),
            ("T", OrderedMap.ofList [("D", "long"), ("A", "Y")])]).toList), []⟩)] := by
      decide
    rw [buildDocument_ok_iff (hspares _), hwritten]
    exact documented_twoPages_of_entry pageA pageB hentry
  have hload : Overrides.load w.files o.overridesPath = .ok ⟨overrides, o.overridesPath⟩ :=
    Overrides.load_of_readText (readText_overrides_twoPages ..)
  have hload' : Overrides.load w'.files o.overridesPath = .ok ⟨overrides', o.overridesPath⟩ :=
    Overrides.load_of_readText (readText_overrides_twoPages ..)
  have hunknown (u : UnknownType) : u ∈ unknown ↔ u ∈ d.unknownTypes := List.mem_reverse
  have hchoose : ∀ u ∈ unknown, (choose u).isScalar = true := by decide
  have hpages : SamePages [anyPages] w.files o.docsRoot w'.files o.docsRoot :=
    samePages_twoPages ..
  exact ⟨by decide, hspares _, hspares _, hbuilt, hload, hunknown, hchoose, hpages, hload',
    by decide,
    buildDocument_repaired (hspares _) (hspares _) hbuilt hload hunknown hchoose hpages hload' rfl⟩

end TableCatalog
