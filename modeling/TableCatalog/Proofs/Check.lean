import Mathlib.Data.List.Nodup
import TableCatalog.Check
import TableCatalog.Proofs.ColumnType
import TableCatalog.Proofs.Tables

/-!
# What a check of a document finds

The columns of a document stand in one order, environment by environment and table by table
(`Document.columns`), and each of them stands there once. The report of unknown types is that list
without the columns of a scalar type, and the numbers that a check tells are counts of it. So the
report misses no column and names none twice, and a document without unknown types is one in which
every type is a scalar type.
-/

set_option autoImplicit false

namespace TableCatalog

namespace Document

/-- A column, with the place where it stands in a document. -/
structure Column where
  environment : String
  table : String
  name : String
  type : ColumnType
deriving DecidableEq

/-- Every column, in document order. -/
def columns (d : Document) : List Column :=
  d.toList.flatMap fun e => e.2.tables.toList.flatMap fun t =>
    t.2.toList.map fun c => ⟨e.1, t.1, c.1, c.2⟩

/-- Every table, with its environment, in document order. -/
def tables (d : Document) : List (String × String) :=
  d.toList.flatMap fun e => e.2.tables.keys.map fun table => (e.1, table)

/-- The type of a column, by the place where it stands. -/
def type? (d : Document) (environment table column : String) : Option ColumnType :=
  (d.get? environment).bind fun schema => Tables.type? schema.tables table column

theorem type?_of_get? {d : Document} {environment : String} {schema : EnvironmentSchema}
    (h : d.get? environment = some schema) (table column : String) :
    d.type? environment table column = Tables.type? schema.tables table column := by
  rw [type?, h, Option.bind_some]

theorem mem_columns_iff {d : Document} {c : Column} :
    c ∈ d.columns ↔ d.type? c.environment c.table c.name = some c.type := by
  obtain ⟨environment, table, name, type⟩ := c
  simp only [columns, List.mem_flatMap, List.mem_map, Column.mk.injEq, Document.type?,
    Tables.type?, Option.bind_eq_some_iff, OrderedMap.get?_eq_some_iff]
  constructor
  · rintro ⟨e, he, t, ht, c, hc, rfl, rfl, rfl, rfl⟩
    exact ⟨e.2, he, t.2, ht, hc⟩
  · rintro ⟨schema, he, columns, ht, hc⟩
    exact ⟨_, he, _, ht, _, hc, rfl, rfl, rfl, rfl⟩

/-! ## Every column once -/

/-- What is made from the entries of a map is different if each entry gives different things and
they tell its key. -/
theorem nodup_flatMap_toList {κ α β : Type} {m : OrderedMap κ α} {f : κ × α → List β} (key : β → κ)
    (hnodup : ∀ e ∈ m.toList, (f e).Nodup) (hkey : ∀ e ∈ m.toList, ∀ b ∈ f e, key b = e.1) :
    (m.toList.flatMap f).Nodup := by
  have hkeys : m.toList.Pairwise fun e e' => e.1 ≠ e'.1 := List.pairwise_map.1 m.nodupKeys
  refine List.nodup_flatMap.2 ⟨hnodup, hkeys.imp_of_mem ?_⟩
  intro e e' he he' hne b hb hb'
  exact hne ((hkey e he b hb).symm.trans (hkey e' he' b hb'))

theorem nodup_columns (d : Document) : d.columns.Nodup := by
  refine nodup_flatMap_toList Column.environment (fun e _ => ?_) fun e _ b hb => ?_
  · refine nodup_flatMap_toList Column.table (fun t _ => ?_) fun t _ b hb => ?_
    · have hnodup : t.2.toList.Nodup := List.Nodup.of_map _ t.2.nodupKeys
      refine hnodup.map fun c c' hc => ?_
      exact Prod.ext (congrArg Column.name hc) (congrArg Column.type hc)
    · obtain ⟨c, -, rfl⟩ := List.mem_map.1 hb
      rfl
  · obtain ⟨t, -, hb⟩ := List.mem_flatMap.1 hb
    obtain ⟨c, -, rfl⟩ := List.mem_map.1 hb
    rfl

/-! ## The counts -/

theorem length_flatMap_eq_total {α β : Type} (f : α → List β) (as : List α) :
    (as.flatMap f).length = total (as.map fun a => (f a).length) := by
  induction as with
  | nil => rfl
  | cons a as ih =>
    rw [List.flatMap_cons, List.length_append, ih, List.map_cons, total, total, List.foldr_cons]

theorem length_columns (d : Document) :
    d.columns.length = total (d.values.map EnvironmentSchema.columnCount) := by
  simp only [columns, length_flatMap_eq_total, List.length_map, OrderedMap.values, List.map_map,
    OrderedMap.size, EnvironmentSchema.columnCount, Function.comp_def]

theorem length_tables (d : Document) :
    d.tables.length = total (d.values.map EnvironmentSchema.tableCount) := by
  simp only [tables, length_flatMap_eq_total, List.length_map, OrderedMap.values, List.map_map,
    OrderedMap.size, OrderedMap.keys, EnvironmentSchema.tableCount, Function.comp_def]

/-! ## The report -/

/-- A column as a line of the report. -/
def Column.reported (c : Column) : UnknownType := ⟨c.environment, c.table, c.name, c.type⟩

/-- Every column whose type is no scalar type, in document order. -/
def unknownColumns (d : Document) : List Column :=
  d.columns.filter fun c => c.type ∉ ColumnType.scalars

theorem mem_unknownColumns_iff {d : Document} {c : Column} :
    c ∈ d.unknownColumns ↔
      d.type? c.environment c.table c.name = some c.type ∧ c.type ∉ ColumnType.scalars := by
  rw [unknownColumns, List.mem_filter, mem_columns_iff, decide_eq_true_eq]

/-- **The report is every column whose type is no scalar type**, in document order. -/
theorem unknownTypes_eq (d : Document) :
    d.unknownTypes = d.unknownColumns.map Column.reported := by
  have hunknown (type : ColumnType) : decide (type ∉ ColumnType.scalars) = !type.isScalar := by
    simp [← ColumnType.isScalar_iff]
  simp only [unknownTypes, Columns.unknownTypes, unknownColumns, columns, List.filter_flatMap,
    List.map_flatMap, List.filter_map, List.map_map, hunknown]
  rfl

theorem mem_unknownTypes_iff {d : Document} {u : UnknownType} :
    u ∈ d.unknownTypes ↔
      d.type? u.environment u.table u.column = some u.type ∧ u.type ∉ ColumnType.scalars := by
  obtain ⟨environment, table, column, type⟩ := u
  rw [unknownTypes_eq, List.mem_map]
  constructor
  · rintro ⟨c, hc, hreported⟩
    cases hreported
    exact mem_unknownColumns_iff.1 hc
  · exact fun h => ⟨⟨environment, table, column, type⟩, mem_unknownColumns_iff.2 h, rfl⟩

end Document

end TableCatalog
