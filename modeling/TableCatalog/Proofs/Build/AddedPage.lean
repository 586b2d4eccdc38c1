import TableCatalog.Proofs.Build.NewFile

/-!
# A page that is added

A new page stands anywhere among the pages of its directory, and behind all of them comes the
entry of the override file. `buildEnvironment_pageAdded` says what the page may change: the table of
its heading, and there only the columns that it describes and the entry does not.

The scan is a sequence of writes, and the page is one more write in the midst of it. So the argument
is about two runs of writes side by side (`Tables.Widened`): the additional write makes them differ
in this way, and every write that both make after it leaves it at that (`Tables.Widened.merge`).
The entry is such a write for every table it has.

A file can be a page under several names. A link in the directory that led to a name where nothing
stood becomes a page together with the new file, and reads as it does. Therefore the new pages are
counted as copies of one text (`WithCopies`).
-/

set_option autoImplicit false

namespace TableCatalog

/-! ## Copies among other things -/

/-- `as'` is `as` with `n` copies of `a` put in, wherever they stand. -/
inductive WithCopies {α : Type} (a : α) : Nat → List α → List α → Prop
  | nil : WithCopies a 0 [] []
  | keep {n : Nat} {as as' : List α} (b : α) (h : WithCopies a n as as') :
    WithCopies a n (b :: as) (b :: as')
  | add {n : Nat} {as as' : List α} (h : WithCopies a n as as') :
    WithCopies a (n + 1) as (a :: as')

namespace WithCopies

variable {α β : Type} {a : α} {n : Nat} {as as' : List α}

theorem refl (a : α) (as : List α) : WithCopies a 0 as as := by
  induction as with
  | nil => exact .nil
  | cons b _ ih => exact .keep b ih

theorem map (h : WithCopies a n as as') (f : α → β) :
    WithCopies (f a) n (as.map f) (as'.map f) := by
  induction h with
  | nil => exact .nil
  | keep b _ ih => exact .keep (f b) ih
  | add _ ih => exact .add ih

theorem append_left (h : WithCopies a n as as') (bs : List α) :
    WithCopies a n (bs ++ as) (bs ++ as') := by
  induction bs with
  | nil => exact h
  | cons b _ ih => exact .keep b ih

/-- Copies that give nothing are not there. -/
theorem flatMap_eq (h : WithCopies a n as as') {f : α → List β} (hnone : f a = []) :
    as'.flatMap f = as.flatMap f := by
  induction h with
  | nil => rfl
  | keep b _ ih => rw [List.flatMap_cons, List.flatMap_cons, ih]
  | add _ ih => rw [List.flatMap_cons, hnone, List.nil_append, ih]

theorem flatMap (h : WithCopies a n as as') {f : α → List β} {b : β} (hone : f a = [b]) :
    WithCopies b n (as.flatMap f) (as'.flatMap f) := by
  induction h with
  | nil => exact .nil
  | keep c _ ih => exact ih.append_left (f c)
  | add _ ih =>
    rw [List.flatMap_cons, hone]
    exact .add ih

end WithCopies

/-! ## Tables with one more write -/

namespace Tables

/-- What one more write to a table may change, wherever it is made: that table, and of its columns
the types of those that are written. -/
structure Widened (name : String) (columns : Columns) (tables tables' : Tables) : Prop where
  /-- Every other table is the same, with its columns, their types and their order. -/
  others (table : String) : table ≠ name → tables'.get? table = tables.get? table
  /-- The other tables stand in the same order. -/
  order : tables'.keys.filter (· ≠ name) = tables.keys.filter (· ≠ name)
  there : name ∈ tables'.keys
  /-- The table has the columns it had and those that are written. -/
  mem_columns_iff (column : String) : column ∈ (columnsOf tables' name).keys ↔
    column ∈ (columnsOf tables name).keys ∨ column ∈ columns.keys
  /-- A type is what it was or what is written. -/
  types (column : String) : type? tables' name column = type? tables name column ∨
    ∃ type, columns.get? column = some type ∧ type? tables' name column = some type

section Writes

variable {name : String} {columns : Columns} {tables tables' tables'' : Tables}

/-- The additional write itself. -/
theorem widened_merge (name : String) (columns : Columns) (tables : Tables) :
    Widened name columns tables (Tables.merge tables name columns) where
  others table hne := by rw [get?_merge, if_neg hne.symm]
  order := by
    rw [keys_merge, filter_eraseDups, List.filter_append, List.filter_cons_of_neg (by simp),
      List.filter_nil, List.append_nil, ← filter_eraseDups, eraseDups_of_nodup tables.nodup_keys]
  there := mem_keys_merge
  mem_columns_iff _ := mem_columnsOf_merge
  types column := by
    rw [type?_merge, if_pos rfl]
    cases h : columns.get? column with
    | none => exact .inl rfl
    | some type => exact .inr ⟨type, rfl, rfl⟩

theorem Widened.trans (h : Widened name columns tables tables')
    (h' : Widened name columns tables' tables'') : Widened name columns tables tables'' where
  others table hne := (h'.others table hne).trans (h.others table hne)
  order := h'.order.trans h.order
  there := h'.there
  mem_columns_iff column := by
    rw [h'.mem_columns_iff, h.mem_columns_iff, or_assoc, or_self]
  types column := by
    rcases h'.types column with hsame | hwritten
    · rw [hsame]
      exact h.types column
    · exact .inr hwritten

/-- **A write that is made on both sides** leaves their difference as it is. -/
theorem Widened.merge (h : Widened name columns tables tables') (table : String)
    (written : Columns) : Widened name columns (Tables.merge tables table written)
      (Tables.merge tables' table written) where
  others other hne := by
    rw [get?_merge, get?_merge]
    split
    · next hother => rw [columnsOf, columnsOf, hother, h.others other hne]
    · exact h.others other hne
  order := by
    rw [keys_merge, keys_merge, filter_eraseDups, filter_eraseDups, List.filter_append,
      List.filter_append, h.order]
  there := by
    rw [keys_merge, List.mem_eraseDups, List.mem_append]
    exact .inl h.there
  mem_columns_iff column := by
    by_cases htable : table = name
    · subst htable
      rw [mem_columnsOf_merge, mem_columnsOf_merge, h.mem_columns_iff, or_right_comm]
    · rw [columnsOf_merge, columnsOf_merge, if_neg htable, if_neg htable, h.mem_columns_iff]
  types column := by
    rw [type?_merge, type?_merge]
    by_cases htable : table = name
    · rw [if_pos htable, if_pos htable]
      -- a type that both sides write decides on both
      cases written.get? column with
      | some type => exact .inl rfl
      | none => exact h.types column
    · rw [if_neg htable, if_neg htable]
      exact h.types column

theorem Widened.mergeList (h : Widened name columns tables tables') {n : Nat}
    {ws ws' : List (String × Columns)} (hws : WithCopies (name, columns) n ws ws') :
    Widened name columns (mergeList tables ws) (mergeList tables' ws') := by
  induction hws generalizing tables tables' with
  | nil => exact h
  | keep w _ ih => exact ih (h.merge w.1 w.2)
  | add _ ih => exact ih (h.trans (widened_merge name columns tables'))

/-- **One more write, or more of it, anywhere among others.** -/
theorem widened_mergeList {n : Nat} {ws ws' : List (String × Columns)}
    (hws : WithCopies (name, columns) n ws ws') (hn : n ≠ 0) (tables : Tables) :
    Widened name columns (mergeList tables ws) (mergeList tables ws') := by
  induction hws generalizing tables with
  | nil => exact absurd rfl hn
  | keep w _ ih => exact ih hn (Tables.merge tables w.1 w.2)
  | add hws _ => exact (widened_merge name columns tables).mergeList hws

theorem Widened.mergeAll (h : Widened name columns tables tables') (others : Tables) :
    Widened name columns (Tables.mergeAll tables others) (Tables.mergeAll tables' others) :=
  h.mergeList (.refl (name, columns) others.toList)

end Writes

end Tables

/-! ## The pages -/

section Pages

variable {t t' : FileTree} {at_ : Location} {directory : Path} {g : Glob} {text : String}

/-- The texts of files that are read as before, with those of the others between them. -/
theorem exists_texts_of_filter {keep : String → Bool} {names texts : List String}
    (hkept : PageTexts t directory (names.filter keep) texts)
    (hothers : ∀ name ∈ names, keep name = false →
      t.readText (Path.join directory name) = .ok text) :
    ∃ texts', PageTexts t directory names texts' ∧
      WithCopies text (names.countP fun name => !keep name) texts texts' := by
  induction names generalizing texts with
  | nil =>
    cases hkept
    exact ⟨[], .nil, .nil⟩
  | cons name names ih =>
    obtain ⟨hname, hnames⟩ := List.forall_mem_cons.1 hothers
    by_cases hk : keep name = true
    · rw [List.filter_cons_of_pos hk] at hkept
      cases hkept with
      | cons hread hkept =>
        obtain ⟨texts', htexts', hcopies⟩ := ih hkept hnames
        rw [List.countP_cons_of_neg (by simpa using hk)]
        exact ⟨_ :: texts', .cons hread htexts', .keep _ hcopies⟩
    · rw [List.filter_cons_of_neg hk] at hkept
      obtain ⟨texts', htexts', hcopies⟩ := ih hkept hnames
      rw [List.countP_cons_of_pos (by simpa using hk)]
      exact ⟨text :: texts', .cons (hname (by simpa using hk)) htexts', .add hcopies⟩

/-- A page that was there leads past the new file. -/
theorem NewFile.location?_of_hasPage (h : NewFile at_ t t') {name : String}
    (hpage : HasPage t directory g name) : t'.location? (Path.join directory name) ≠ some at_ := by
  have hfile := hpage.isFile
  obtain ⟨found, content, access, hfound⟩ := FileTree.isFile_eq_true_iff.1 hfile
  have hne := FileTree.location?_ne_of_vacant h.free hfile
  rw [FileTree.location?_of_resolve hfound, Ne, Option.some.injEq] at hne
  rw [FileTree.location?_of_resolve (FileTree.resolve_alikeBut h.alike hfound hne)]
  simpa using hne

/-- **The pages with a new one among them**: those that were there, read as before, and more that
read as the new one. -/
theorem NewFile.exists_pageTexts (h : NewFile at_ t t') {names texts : List String}
    (hnames : PageNames t directory g names) (htexts : PageTexts t directory names texts)
    {name : String} (hpage : HasPage t' directory g name)
    (hat : t'.location? (Path.join directory name) = some at_)
    (hread : t'.readText (Path.join directory name) = .ok text) :
    ∃ names' texts' n, PageNames t' directory g names' ∧ PageTexts t' directory names' texts' ∧
      WithCopies text n texts texts' ∧ n ≠ 0 := by
  obtain ⟨listed, hlisted, -⟩ := hpage.1
  obtain ⟨names', hnames'⟩ := exists_pageNames hlisted g
  have hold : names'.filter (fun name => decide (name ∈ names)) = names := by
    refine eq_of_ascending (hnames'.ascending.filter _) hnames.ascending fun name => ?_
    rw [List.mem_filter, decide_eq_true_eq, and_iff_right_iff_imp]
    exact fun hname => (hnames'.mem_iff name).2 (h.hasPage ((hnames.mem_iff name).1 hname))
  have hkept : PageTexts t' directory (names'.filter fun name => decide (name ∈ names)) texts := by
    rw [hold]
    refine htexts.moved fun name hname text htext => ?_
    rw [FileTree.readText_eq_ok_iff] at htext ⊢
    exact (h.readBytes (h.location?_of_hasPage ((hnames.mem_iff name).1 hname)) _).1 htext
  have hothers : ∀ name' ∈ names', decide (name' ∈ names) = false →
      t'.readText (Path.join directory name') = .ok text := by
    intro name' hname' hnew
    have hpage' := (hnames'.mem_iff name').1 hname'
    -- what is a page only now leads to the new file, under whatever name
    have hat' : t'.location? (Path.join directory name') = some at_ := by
      by_contra hne
      exact of_decide_eq_false hnew ((hnames.mem_iff name').2 (h.hasPage_of hpage' hne))
    rw [FileTree.readText_eq_ok_iff] at hread ⊢
    rw [FileTree.readBytes_eq_of_location? hpage'.isFile hpage.isFile hat' hat, hread]
  obtain ⟨texts', htexts', hcopies⟩ := exists_texts_of_filter hkept hothers
  refine ⟨names', texts', _, hnames', htexts', hcopies, Nat.ne_of_gt (List.countP_pos_iff.2 ?_)⟩
  refine ⟨name, (hnames'.mem_iff name).2 hpage, ?_⟩
  have hnew : name ∉ names := fun hname =>
    h.location?_of_hasPage ((hnames.mem_iff name).1 hname) hat
  simpa using hnew

end Pages

/-! ## The environment -/

/-- **A page that is added disturbs only its own table.** One without a heading changes nothing; one
with a heading changes the table of its heading as `Tables.Widened` says, and of that table no column
whose type the override file gives. -/
theorem buildEnvironment_pageAdded {outer outer' : List Log.Scope} {e : Environment}
    {directory : Path} {overrides : Overrides} {w w' : World} {schema : EnvironmentSchema}
    {at_ : Location} {g : Glob} {name text : String} (hspares : w.SparesPages directory e)
    (hspares' : w'.SparesPages directory e)
    (hbuilt : (buildEnvironment outer e directory overrides w).1 = .ok schema)
    (hparse : Glob.parse e.pattern = .ok g) (hnew : NewFile at_ w.files w'.files)
    (hpage : HasPage w'.files directory g name)
    (hat : w'.files.location? (Path.join directory name) = some at_)
    (hread : w'.files.readText (Path.join directory name) = .ok text) :
    ∃ schema', (buildEnvironment outer' e directory overrides w').1 = .ok schema' ∧
      schema'.magicFunctions = schema.magicFunctions ∧
      ((Page.read text).name = none → schema' = schema) ∧
      ∀ table, (Page.read text).name = some table →
        Tables.Widened table (Page.read text).columns schema.tables schema'.tables ∧
        ∀ entry column type, overrides.environments.get? e.name = some entry →
          Tables.type? entry table column = some type →
          Tables.type? schema.tables table column = some type ∧
            Tables.type? schema'.tables table column = some type := by
  obtain ⟨g', names, texts, entry, hparse', hnames, htexts, hentry, rfl⟩ :=
    (buildEnvironment_ok_iff hspares).1 hbuilt
  obtain rfl : g = g' := Except.ok.inj (hparse.symm.trans hparse')
  obtain ⟨names', texts', n, hnames', htexts', hcopies, hn⟩ :=
    hnew.exists_pageTexts hnames htexts hpage hat hread
  have hpages := hcopies.map Page.read
  refine ⟨_, (buildEnvironment_ok_iff hspares').2
    ⟨g, names', texts', entry, hparse, hnames', htexts', hentry, rfl⟩, rfl, ?_, ?_⟩
  · intro hname
    have hwrites : (Page.read text).writes = [] := by rw [Page.Reading.writes, hname]
    rw [hpages.flatMap_eq hwrites]
  · intro table hname
    have hwrites : (Page.read text).writes = [(table, (Page.read text).columns)] := by
      rw [Page.Reading.writes, hname]
    simp only [Tables.mergeList_append, ← Tables.mergeAll_eq_mergeList]
    refine ⟨(Tables.widened_mergeList (hpages.flatMap hwrites) hn .empty).mergeAll entry, ?_⟩
    intro entry' column type hentry' htype
    obtain rfl := Option.some.inj (hentry.symm.trans hentry')
    rw [Tables.type?_mergeAll, Tables.type?_mergeAll, htype]
    exact ⟨rfl, rfl⟩

/-! ## A case

A third page comes between the pages of `twoPages`. It adds a column and changes a type; of a second
type the page behind it has the last word, and of a third one the override entry. -/

section TwoPages

variable (a b overrides added : String)

theorem newFile_twoPages : NewFile ["d", "aa"] (twoPages a b overrides)
    ((twoPages a b overrides).place ["d", "aa"] (.file added.toUTF8)) := by
  have htarget : (twoPages a b overrides).target "d/aa" = .ok ["d", "aa"] := by cbv
  exact .of_target htarget rfl _

theorem readText_added_twoPages :
    ((twoPages a b overrides).place ["d", "aa"] (.file added.toUTF8)).readText "d/aa" =
      .ok added := by
  rw [FileTree.readText_eq_ok_iff]
  cbv

theorem hasPage_added_twoPages :
    HasPage ((twoPages a b overrides).place ["d", "aa"] (.file added.toUTF8)) "d" ⟨[.star]⟩
      "aa" := by
  have hlisted : ((twoPages a b overrides).place ["d", "aa"] (.file added.toUTF8)).list "d" =
      .ok ["b", "a", "aa"] := by cbv
  have hfile : ((twoPages a b overrides).place ["d", "aa"] (.file added.toUTF8)).isFile
      (Path.join "d" "aa") = true :=
    FileTree.isFile_of_readBytes (FileTree.readText_eq_ok_iff.1
      (readText_added_twoPages a b overrides added))
  refine ⟨⟨_, hlisted, by simp⟩, ?_⟩
  rw [isPage, hfile]
  decide

end TwoPages

theorem buildEnvironment_pageAdded_twoPages :
    let added := "# T\n## Columns\n|D|string|\n|B|date|\n|E|long|\n|A|guid|\n"
    let files := twoPages "# T\n## Columns\n|A|int|\n|B|bigint|\n|E|int|\n"
      "# T\n## Columns\n|B|real|\n|C|date|\n" ""
    let w := World.quiet files
    let w' := World.quiet (files.place ["d", "aa"] (.file added.toUTF8))
    let entry : Tables := .ofList [("T", .ofList [("A", "X")]), ("U", .empty)]
    let overrides : Overrides := ⟨.ofList [("env", entry)], "o"⟩
    let schema : EnvironmentSchema :=
      ⟨.ofList [("T", .ofList [("A", "X"), ("B", "real"), ("E", "int"), ("C", "date")]),
        ("U", .empty)], []⟩
    w.SparesPages "d" anyPages ∧ w'.SparesPages "d" anyPages ∧
      (buildEnvironment [] anyPages "d" overrides w).1 = .ok schema ∧
      Glob.parse anyPages.pattern = .ok ⟨[.star]⟩ ∧ NewFile ["d", "aa"] w.files w'.files ∧
      HasPage w'.files "d" ⟨[.star]⟩ "aa" ∧
      w'.files.location? (Path.join "d" "aa") = some ["d", "aa"] ∧
      w'.files.readText (Path.join "d" "aa") = .ok added ∧
      (Page.read added).name = some "T" ∧
      ∃ schema', (buildEnvironment [] anyPages "d" overrides w').1 = .ok schema' ∧
        schema'.magicFunctions = schema.magicFunctions ∧
        ((Page.read added).name = none → schema' = schema) ∧
        ∀ table, (Page.read added).name = some table →
          Tables.Widened table (Page.read added).columns schema.tables schema'.tables ∧
          ∀ entry column type, overrides.environments.get? anyPages.name = some entry →
            Tables.type? entry table column = some type →
            Tables.type? schema.tables table column = some type ∧
              Tables.type? schema'.tables table column = some type := by
  intro added files w w' entry overrides schema
  have hspares (files : FileTree) : (World.quiet files).SparesPages "d" anyPages :=
    World.sparesPages_quiet files "d" anyPages
  have hbuilt : (buildEnvironment [] anyPages "d" overrides w).1 = .ok schema := by
    have hentry : overrides.environments.get? anyPages.name = some entry := by decide
    refine (buildEnvironment_ok_iff (hspares _)).2 ?_
    exact ⟨_, _, _, _, parse_anyPages, pageNames_twoPages _ _ _, pageTexts_twoPages _ _ _, hentry,
      by decide⟩
  have hnew : NewFile ["d", "aa"] w.files w'.files := newFile_twoPages ..
  have hpage : HasPage w'.files "d" ⟨[.star]⟩ "aa" := hasPage_added_twoPages ..
  have hat : w'.files.location? (Path.join "d" "aa") = some ["d", "aa"] := by cbv
  have hread : w'.files.readText (Path.join "d" "aa") = .ok added := readText_added_twoPages ..
  exact ⟨hspares _, hspares _, hbuilt, parse_anyPages, hnew, hpage, hat, hread, by decide,
    buildEnvironment_pageAdded (hspares _) (hspares _) hbuilt parse_anyPages hnew hpage hat hread⟩

end TableCatalog
