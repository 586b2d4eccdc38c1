import TableCatalog.Proofs.Build.Provenance
import TableCatalog.Proofs.Json.Rearranged
import TableCatalog.Proofs.Overrides

/-!
# Writes in another order

Writes that give no column two types may be made in any order. Each of the three answers that tables
give is then decided by what is written and not by when: a table is there if it is written, a column
if it is written, and a type is the only one that is written. What differs is where the new tables and
columns stand; those that were there do not move (`Tables.KeepsPlaces`).

The pages of a scan are such writes, if they do not contradict each other. The entry of an environment
is one without any condition, since a map gives a column one type. What an object of an override file
says is not a map yet: members may have the same name, and the last one of them counts. So the members
of one name have to stay in their order, and `applied_reordered_repeatedName` shows a table that is
lost when they do not.
-/

set_option autoImplicit false

namespace TableCatalog

namespace Tables

/-- No two of the writes give a column of a table different types. -/
def Agreeing (ws : List (String × Columns)) : Prop :=
  ∀ w ∈ ws, ∀ w' ∈ ws, w.1 = w'.1 →
    ∀ c ∈ w.2.toList, ∀ c' ∈ w'.2.toList, c.1 = c'.1 → c.2 = c'.2

instance (ws : List (String × Columns)) : Decidable (Agreeing ws) :=
  inferInstanceAs (Decidable (∀ w ∈ ws, ∀ w' ∈ ws, w.1 = w'.1 →
    ∀ c ∈ w.2.toList, ∀ c' ∈ w'.2.toList, c.1 = c'.1 → c.2 = c'.2))

/-- The same tables with the same columns of the same types, in whatever order. -/
structure SameContent (tables tables' : Tables) : Prop where
  mem_keys_iff (table : String) : table ∈ tables.keys ↔ table ∈ tables'.keys
  mem_columns_iff (table column : String) :
    column ∈ (columnsOf tables table).keys ↔ column ∈ (columnsOf tables' table).keys
  type?_eq (table column : String) : type? tables table column = type? tables' table column

/-- Every table and every column of `tables` stands at its place in `result`. -/
structure KeepsPlaces (tables result : Tables) : Prop where
  keys_prefix : tables.keys <+: result.keys
  columns_prefix (table : String) : (columnsOf tables table).keys <+: (columnsOf result table).keys

variable {tables tables' : Tables} {ws ws' : List (String × Columns)}

/-! ## Content and places -/

/-- A column is there if it has a type, so the types tell the columns. -/
theorem SameContent.of_types (htables : ∀ table, table ∈ tables.keys ↔ table ∈ tables'.keys)
    (htypes : ∀ table column, type? tables table column = type? tables' table column) :
    SameContent tables tables' where
  mem_keys_iff := htables
  mem_columns_iff table column := by
    simp only [OrderedMap.mem_keys_iff, get?_columnsOf, htypes]
  type?_eq := htypes

theorem keepsPlaces_mergeList (tables : Tables) (ws : List (String × Columns)) :
    KeepsPlaces tables (mergeList tables ws) where
  keys_prefix := by
    rw [keys_mergeList]
    exact prefix_eraseDups_append tables.nodup_keys _
  columns_prefix table := by
    rw [keys_columnsOf_mergeList]
    exact prefix_eraseDups_append (columnsOf tables table).nodup_keys _

/-! ## Writes that agree -/

/-- Of writes that agree, any one that gives a column a type gives it the type of the last. -/
theorem lastType?_eq_some_iff (h : Agreeing ws) {table column : String} {type : ColumnType} :
    lastType? ws table column = some type ↔
      ∃ w ∈ ws, w.1 = table ∧ w.2.get? column = some type := by
  constructor
  · exact exists_of_lastType?
  · rintro ⟨w, hw, htable, htype⟩
    cases hlast : lastType? ws table column with
    | none => rw [lastType?_eq_none_iff.1 hlast w hw htable] at htype; simp at htype
    | some last =>
      obtain ⟨w', hw', htable', htype'⟩ := exists_of_lastType? hlast
      have hsame : last = type := h w' hw' w hw (htable'.trans htable.symm)
        (column, last) (OrderedMap.get?_eq_some_iff.1 htype')
        (column, type) (OrderedMap.get?_eq_some_iff.1 htype) rfl
      rw [hsame]

theorem Agreeing.perm (h : Agreeing ws) (hperm : ws.Perm ws') : Agreeing ws' :=
  fun w hw w' hw' => h w (hperm.mem_iff.2 hw) w' (hperm.mem_iff.2 hw')

theorem lastType?_perm (h : Agreeing ws) (hperm : ws.Perm ws') (table column : String) :
    lastType? ws table column = lastType? ws' table column := by
  refine Option.ext fun type => ?_
  rw [lastType?_eq_some_iff h, lastType?_eq_some_iff (h.perm hperm)]
  simp only [hperm.mem_iff]

/-- **Writes that agree may be made in any order.** -/
theorem sameContent_mergeList (tables : Tables) (h : Agreeing ws) (hperm : ws.Perm ws') :
    SameContent (mergeList tables ws) (mergeList tables ws') := by
  refine .of_types (fun table => ?_) fun table column => ?_
  · rw [keys_mergeList, keys_mergeList, List.mem_eraseDups, List.mem_eraseDups, List.mem_append,
      List.mem_append, (hperm.map Prod.fst).mem_iff]
  · rw [type?_mergeList, type?_mergeList, lastType?_perm h hperm]

/-- Entries of the same content do the same to the content of tables. -/
theorem SameContent.mergeAll {entry entry' : Tables} (h : SameContent entry entry')
    (tables : Tables) :
    SameContent (Tables.mergeAll tables entry) (Tables.mergeAll tables entry') := by
  refine .of_types (fun table => ?_) fun table column => ?_
  · rw [keys_mergeAll, keys_mergeAll, List.mem_eraseDups, List.mem_eraseDups, List.mem_append,
      List.mem_append, h.mem_keys_iff]
  · rw [type?_mergeAll, type?_mergeAll, h.type?_eq]

/-- Maps whose tables answer alike have the same content. -/
theorem SameContent.of_rel (h : ∀ table,
    Option.Rel (fun columns columns' : Columns => ∀ column,
      Option.Rel Eq (columns.get? column) (columns'.get? column))
      (tables.get? table) (tables'.get? table)) : SameContent tables tables' := by
  refine .of_types (fun table => ?_) fun table column => ?_
  · rw [OrderedMap.mem_keys_iff, OrderedMap.mem_keys_iff]
    rcases Json.rel_cases (h table) with ⟨hno, hno'⟩ | ⟨columns, columns', hthere, hthere', -⟩
    · simp [hno, hno']
    · simp [hthere, hthere']
  · unfold type?
    rcases Json.rel_cases (h table) with ⟨hno, hno'⟩ | ⟨columns, columns', hthere, hthere', hrel⟩
    · rw [hno, hno']
    · rw [hthere, hthere', Option.bind_some, Option.bind_some]
      rcases Json.rel_cases (hrel column) with ⟨hnone, hnone'⟩ | ⟨type, _, htype, htype', rfl⟩
      · rw [hnone, hnone']
      · rw [htype, htype']

end Tables

/-! ## Override files -/

namespace Overrides

open Json

theorem keeps_environmentsOf? : Keeps environmentsOf? fun environments environments' =>
    ∀ environment, Option.Rel Tables.SameContent (environments.get? environment)
      (environments'.get? environment) := by
  intro x y environments hxy hx
  obtain ⟨environments', hy, hrel⟩ := keeps_text.object.object.object hxy hx
  refine ⟨environments', hy, fun environment => ?_⟩
  rcases rel_cases (hrel environment) with ⟨hno, hno'⟩ | ⟨entry, entry', hentry, hentry', halike⟩
  · rw [hno, hno']
    exact .none
  · rw [hentry, hentry']
    exact .some (.of_rel halike)

/-- Entries of the same content are there together, and do the same to the content of tables. -/
theorem apply_of_rel {environments environments' : OrderedMap String Tables} {path : Path}
    {environment : String} (h : Option.Rel Tables.SameContent (environments.get? environment)
      (environments'.get? environment)) (tables : Tables) :
    (∃ err, (⟨environments, path⟩ : Overrides).apply environment tables = .error err ∧
      (⟨environments', path⟩ : Overrides).apply environment tables = .error err) ∨
      ∃ result result', (⟨environments, path⟩ : Overrides).apply environment tables = .ok result ∧
        (⟨environments', path⟩ : Overrides).apply environment tables = .ok result' ∧
        Tables.SameContent result result' ∧ Tables.KeepsPlaces tables result' := by
  unfold Overrides.apply tablesFor
  dsimp only
  rcases rel_cases h with ⟨hno, hno'⟩ | ⟨entry, entry', hentry, hentry', halike⟩
  · rw [hno, hno']
    exact .inl ⟨_, rfl, rfl⟩
  · rw [hentry, hentry']
    exact .inr ⟨_, _, rfl, rfl, halike.mergeAll tables, Tables.keepsPlaces_mergeList _ _⟩

end Overrides

/-! ## The result -/

/-- The pages of files in another order are the same pages. -/
theorem perm_writes_pagesOf {files files' : List Path} (t : FileTree) (h : files.Perm files') :
    ((pagesOf t files).flatMap Page.Reading.writes).Perm
      ((pagesOf t files').flatMap Page.Reading.writes) :=
  (h.filterMap _).flatMap_right _

/-- **What does not contradict itself may come in any order.** Writes that agree, in every order of
them; override files, in every order of the members of any object that keeps members of one name in
theirs; and the files of a scan, in every order of them if their pages agree. The content is the same,
and the tables and columns that were there keep their places. -/
theorem reordered_sameContent (tables : Tables) :
    (∀ ws ws', Tables.Agreeing ws → ws.Perm ws' →
      Tables.SameContent (Tables.mergeList tables ws) (Tables.mergeList tables ws') ∧
        Tables.KeepsPlaces tables (Tables.mergeList tables ws')) ∧
      (∀ (x y : Json) (text text' : String) (path : Path) (environments : OrderedMap String Tables),
        Json.Rearranged x y → Json.Means text.toList x → Json.Means text'.toList y →
        Overrides.environmentsOf? x = some environments →
        ∃ overrides overrides', Overrides.ofJson text path = .ok overrides ∧
          Overrides.ofJson text' path = .ok overrides' ∧ ∀ environment,
            (∃ err, overrides.apply environment tables = .error err ∧
              overrides'.apply environment tables = .error err) ∨
            ∃ result result', overrides.apply environment tables = .ok result ∧
              overrides'.apply environment tables = .ok result' ∧
              Tables.SameContent result result' ∧ Tables.KeepsPlaces tables result') ∧
      ∀ scopes scopes' files files' w, files.Perm files' →
        (∀ file ∈ files, ¬ World.LogsInto w file) →
        Tables.Agreeing ((pagesOf w.files files).flatMap Page.Reading.writes) →
        ((∃ result, (scanPages scopes files tables w).1 = .ok result) ↔
          ∃ result', (scanPages scopes' files' tables w).1 = .ok result') ∧
        ∀ result result', (scanPages scopes files tables w).1 = .ok result →
          (scanPages scopes' files' tables w).1 = .ok result' →
          Tables.SameContent result result' ∧ Tables.KeepsPlaces tables result' := by
  refine ⟨fun ws ws' hagree hperm => ?_, ?_, ?_⟩
  · exact ⟨Tables.sameContent_mergeList tables hagree hperm, Tables.keepsPlaces_mergeList _ _⟩
  · intro x y text text' path environments hxy hmeans hmeans' hx
    obtain ⟨environments', hy, hrel⟩ := Overrides.keeps_environmentsOf? hxy hx
    exact ⟨_, _, Overrides.ofJson_of_means hmeans hx path, Overrides.ofJson_of_means hmeans' hy path,
      fun environment => Overrides.apply_of_rel (hrel environment) tables⟩
  · intro scopes scopes' files files' w hperm hno hagree
    have hno' : ∀ file ∈ files', ¬ w.LogsInto file := fun file hfile =>
      hno file (hperm.mem_iff.2 hfile)
    constructor
    · simp only [scanPages_ok_iff hno, scanPages_ok_iff hno', hperm.mem_iff, exists_and_left,
        exists_eq, and_true]
    · intro result result' hresult hresult'
      obtain ⟨-, rfl⟩ := (scanPages_ok_iff hno).1 hresult
      obtain ⟨-, rfl⟩ := (scanPages_ok_iff hno').1 hresult'
      exact ⟨Tables.sameContent_mergeList tables hagree (perm_writes_pagesOf w.files hperm),
        Tables.keepsPlaces_mergeList _ _⟩

/-! ## Cases

The first value below repeats a name in one object, and its members move around the two, which stay as
they are; the pages of `twoPages` describe a column alike. In the second value a table comes twice. -/

section Cases

open Json

/-- The text of a value. -/
def written (x : Json) : String := .ofList (x.pretty ++ ['\n'])

def intColumn (name : String) : String × Json := (name, .text "int")

theorem readsBack_columns (names : List String) : ReadsBack (.object (names.map intColumn)) := by
  refine readsBack_object fun m hm => ?_
  obtain ⟨name, -, rfl⟩ := List.mem_map.1 hm
  exact readsBack_text "int"

/-- An override file with two tables for one environment, all columns of one type. -/
def twoTables (table : String) (columns : List String) (table' : String)
    (columns' : List String) : Json :=
  .object [("env", .object [(table, .object (columns.map intColumn)),
    (table', .object (columns'.map intColumn))])]

theorem means_twoTables (table : String) (columns : List String) (table' : String)
    (columns' : List String) :
    Means (written (twoTables table columns table' columns')).toList
      (twoTables table columns table' columns') := by
  refine ReadsBack.means (readsBack_object (List.forall_mem_singleton.2 (readsBack_object ?_)))
  intro m hm
  rcases List.mem_pair.1 hm with rfl | rfl
  · exact readsBack_columns columns
  · exact readsBack_columns columns'

theorem rearranged_twoTables :
    Rearranged (twoTables "T" ["A", "B", "A"] "U" ["C"])
      (twoTables "U" ["C"] "T" ["B", "A", "A"]) := by
  have hcolumns : Rearranged (.object (["A", "B", "A"].map intColumn))
      (.object (["B", "A", "A"].map intColumn)) := by
    refine .object fun name => ?_
    by_cases hA : "A" = name
    · subst hA
      exact .cons (.text "int") (.cons (.text "int") .nil)
    · by_cases hB : "B" = name <;> simp [valuesOf, intColumn, hA, hB, Rearranged.text]
  have hcolumn : Rearranged (.object (["C"].map intColumn)) (.object (["C"].map intColumn)) := by
    refine .object fun name => ?_
    by_cases hC : "C" = name <;> simp [valuesOf, intColumn, hC, Rearranged.text]
  have htables : Rearranged
      (.object [("T", .object (["A", "B", "A"].map intColumn)), ("U", .object (["C"].map intColumn))])
      (.object [("U", .object (["C"].map intColumn)),
        ("T", .object (["B", "A", "A"].map intColumn))]) := by
    refine .object fun name => ?_
    by_cases hT : "T" = name
    · subst hT
      exact .cons hcolumns .nil
    · by_cases hU : "U" = name
      · subst hU
        exact .cons hcolumn .nil
      · simp [valuesOf, hT, hU]
  refine .object fun name => ?_
  by_cases he : "env" = name
  · subst he
    exact .cons htables .nil
  · simp [valuesOf, he]

theorem reordered_sameContent_oneOfEach :
    let tables : Tables := .ofList [("S", .empty), ("T", .ofList [("B", "X")])]
    let ws : List (String × Columns) := [("T", .ofList [("A", "int"), ("B", "long")]),
      ("U", .empty), ("T", .ofList [("B", "long"), ("C", "real")])]
    let x := twoTables "T" ["A", "B", "A"] "U" ["C"]
    let y := twoTables "U" ["C"] "T" ["B", "A", "A"]
    let w := World.quiet (twoPages "# T\n## Columns\n|A|int|\n|B|real|\n"
      "# T\n## Columns\n|B|real|\n|C|date|\n" "")
    Tables.Agreeing ws ∧ ws.Perm ws.reverse ∧
      (Tables.SameContent (tables.mergeList ws) (tables.mergeList ws.reverse) ∧
        Tables.KeepsPlaces tables (tables.mergeList ws.reverse)) ∧
      tables.mergeList ws ≠ tables.mergeList ws.reverse ∧
      Rearranged x y ∧ Means (written x).toList x ∧ Means (written y).toList y ∧
      (∃ environments, Overrides.environmentsOf? x = some environments) ∧
      (∃ overrides overrides', Overrides.ofJson (written x) "o" = .ok overrides ∧
        Overrides.ofJson (written y) "o" = .ok overrides' ∧ ∀ environment,
          (∃ err, overrides.apply environment tables = .error err ∧
            overrides'.apply environment tables = .error err) ∨
          ∃ result result', overrides.apply environment tables = .ok result ∧
            overrides'.apply environment tables = .ok result' ∧
            Tables.SameContent result result' ∧ Tables.KeepsPlaces tables result') ∧
      ["d/a", "d/b"].Perm ["d/b", "d/a"] ∧ (∀ file ∈ ["d/a", "d/b"], ¬ w.LogsInto file) ∧
      Tables.Agreeing ((pagesOf w.files ["d/a", "d/b"]).flatMap Page.Reading.writes) ∧
      ((∃ result, (scanPages [] ["d/a", "d/b"] tables w).1 = .ok result) ↔
        ∃ result', (scanPages [] ["d/b", "d/a"] tables w).1 = .ok result') ∧
      ∀ result result', (scanPages [] ["d/a", "d/b"] tables w).1 = .ok result →
        (scanPages [] ["d/b", "d/a"] tables w).1 = .ok result' →
        Tables.SameContent result result' ∧ Tables.KeepsPlaces tables result' := by
  intro tables ws x y w
  obtain ⟨hwrites, hoverrides, hscans⟩ := reordered_sameContent tables
  have hagree : Tables.Agreeing ws := by decide
  have hperm : ws.Perm ws.reverse := (List.reverse_perm ws).symm
  have hx : Overrides.environmentsOf? x = some (.ofList [("env",
      .ofList [("T", .ofList [("A", "int"), ("B", "int")]), ("U", .ofList [("C", "int")])])]) := by
    decide
  have hmeans := means_twoTables "T" ["A", "B", "A"] "U" ["C"]
  have hmeans' := means_twoTables "U" ["C"] "T" ["B", "A", "A"]
  have hfiles : ["d/a", "d/b"].Perm ["d/b", "d/a"] := .swap "d/b" "d/a" []
  have hno : ∀ file ∈ ["d/a", "d/b"], ¬ w.LogsInto file :=
    fun file _ => World.not_logsInto_quiet _ file
  have hpages : Tables.Agreeing
      ((pagesOf w.files ["d/a", "d/b"]).flatMap Page.Reading.writes) := by
    cases pageTexts_twoPages "# T\n## Columns\n|A|int|\n|B|real|\n"
        "# T\n## Columns\n|B|real|\n|C|date|\n" "" with
    | cons ha hb =>
      cases hb with
      | cons hb =>
        have ha' : w.files.readText "d/a" = _ := ha
        have hb' : w.files.readText "d/b" = _ := hb
        rw [pagesOf, List.filterMap_cons, ha', List.filterMap_cons, hb']
        decide
  exact ⟨hagree, hperm, hwrites ws _ hagree hperm, by decide, rearranged_twoTables, hmeans,
    hmeans', ⟨_, hx⟩, hoverrides x y _ _ "o" _ rearranged_twoTables hmeans hmeans' hx, hfiles, hno,
    hpages, hscans [] [] _ _ w hfiles hno hpages⟩

/-- Members of one name that change places: the columns of the one are lost, and those of the other
are found. -/
theorem applied_reordered_repeatedName :
    let x := twoTables "T" ["A"] "T" ["B"]
    let y := twoTables "T" ["B"] "T" ["A"]
    Means (written x).toList x ∧ Means (written y).toList y ∧
      ∃ overrides overrides' result result', Overrides.ofJson (written x) "o" = .ok overrides ∧
        Overrides.ofJson (written y) "o" = .ok overrides' ∧
        overrides.apply "env" .empty = .ok result ∧ overrides'.apply "env" .empty = .ok result' ∧
        (Tables.columnsOf result "T").keys = ["B"] ∧ (Tables.columnsOf result' "T").keys = ["A"] ∧
        ¬ Tables.SameContent result result' := by
  intro x y
  have hx : Overrides.environmentsOf? x =
      some (.ofList [("env", .ofList [("T", .ofList [("B", "int")])])]) := by decide
  have hy : Overrides.environmentsOf? y =
      some (.ofList [("env", .ofList [("T", .ofList [("A", "int")])])]) := by decide
  have hmeans := means_twoTables "T" ["A"] "T" ["B"]
  have hmeans' := means_twoTables "T" ["B"] "T" ["A"]
  refine ⟨hmeans, hmeans', _, _, .ofList [("T", .ofList [("B", "int")])],
    .ofList [("T", .ofList [("A", "int")])], Overrides.ofJson_of_means hmeans hx "o",
    Overrides.ofJson_of_means hmeans' hy "o", rfl, rfl, by decide, by decide, ?_⟩
  intro hsame
  have hcolumn := hsame.mem_columns_iff "T" "A"
  revert hcolumn
  decide

end Cases

end TableCatalog
