import TableCatalog.Proofs.OrderedMap
import TableCatalog.Schema

/-!
# Tables as a sequence of writes

Pages and overrides reach the tables in the same way: as columns written into the table of a name.
So what a build does to its tables is a list of writes, `Tables.mergeList`, and three equations say
what any such list leaves behind:

    keys_mergeList              the tables, in the order of their first writes
    keys_columnsOf_mergeList    the columns of a table, in the order of their first writes
    type?_mergeList             the type of a column is the one that was written last

A table that is written without columns is still written, which is why the first equation counts
names and not columns.

Two maps of tables that give the same answers to the three questions are the same
(`eq_of_type?`). So a law of writes is proved by comparing orders and last writes, and no such
proof follows a write through the tables.
-/

set_option autoImplicit false

namespace TableCatalog

namespace Tables

/-- The columns of a table; none for a table that is not there. -/
def columnsOf (tables : Tables) (table : String) : Columns := (tables.get? table).getD .empty

/-- The type of a column of a table. -/
def type? (tables : Tables) (table column : String) : Option ColumnType :=
  (tables.get? table).bind (·.get? column)

/-- Write columns into tables, one table after the other. -/
def mergeList (tables : Tables) (writes : List (String × Columns)) : Tables :=
  writes.foldl (fun acc w => Tables.merge acc w.1 w.2) tables

/-- The columns that a list of writes gives to one table, write by write. -/
def writesTo (writes : List (String × Columns)) (table : String) : List Columns :=
  (writes.filter fun w => w.1 = table).map Prod.snd

/-- The type that the last write of a column gives to it. -/
def lastType? (writes : List (String × Columns)) (table column : String) : Option ColumnType :=
  (writesTo writes table).reverse.findSome? (·.get? column)

/-! ## Tables and their columns -/

theorem get?_columnsOf (tables : Tables) (table column : String) :
    (columnsOf tables table).get? column = type? tables table column := by
  unfold columnsOf type?
  cases tables.get? table with
  | none => rfl
  | some columns => rfl

theorem columnsOf_of_get? {tables : Tables} {table : String} {columns : Columns}
    (h : tables.get? table = some columns) : columnsOf tables table = columns := by
  rw [columnsOf, h, Option.getD_some]

/-- A column of a table makes the table be there. -/
theorem mem_keys_of_type? {tables : Tables} {table column : String} {type : ColumnType}
    (h : type? tables table column = some type) :
    table ∈ tables.keys ∧ column ∈ (columnsOf tables table).keys := by
  rw [← get?_columnsOf] at h
  refine ⟨?_, OrderedMap.mem_keys_iff.2 ⟨type, h⟩⟩
  rw [OrderedMap.mem_keys_iff]
  cases hget : tables.get? table with
  | none => rw [columnsOf, hget] at h; simp at h
  | some columns => exact ⟨columns, rfl⟩

/-- Tables are determined by their order, the order of their columns and the types. -/
theorem eq_of_type? {tables tables' : Tables} (hkeys : tables.keys = tables'.keys)
    (hcolumns : ∀ table, (columnsOf tables table).keys = (columnsOf tables' table).keys)
    (htypes : ∀ table column, type? tables table column = type? tables' table column) :
    tables = tables' := by
  refine OrderedMap.eq_of_keys_of_get? hkeys fun table => ?_
  have hsame : columnsOf tables table = columnsOf tables' table := by
    refine OrderedMap.eq_of_keys_of_get? (hcolumns table) fun column => ?_
    rw [get?_columnsOf, get?_columnsOf, htypes]
  have hthere : (∃ columns, tables.get? table = some columns) ↔
      ∃ columns, tables'.get? table = some columns := by
    rw [← OrderedMap.mem_keys_iff, ← OrderedMap.mem_keys_iff, hkeys]
  cases h : tables.get? table with
  | none =>
    cases h' : tables'.get? table with
    | none => rfl
    | some columns' => simp [h, h'] at hthere
  | some columns =>
    obtain ⟨columns', h'⟩ := hthere.1 ⟨columns, h⟩
    rw [h', ← columnsOf_of_get? h, hsame, columnsOf_of_get? h']

/-! ## Changing types -/

/-- Change every type in the light of its table and column. -/
def mapTypes (f : String → String → ColumnType → ColumnType) (tables : Tables) : Tables :=
  tables.mapEntries fun table columns => columns.mapEntries (f table)

section MapTypes

variable (f : String → String → ColumnType → ColumnType) (tables : Tables)

theorem keys_mapTypes : (mapTypes f tables).keys = tables.keys := OrderedMap.keys_mapEntries ..

theorem columnsOf_mapTypes (table : String) :
    columnsOf (mapTypes f tables) table = (columnsOf tables table).mapEntries (f table) := by
  rw [columnsOf, mapTypes, OrderedMap.get?_mapEntries, columnsOf]
  cases tables.get? table <;> rfl

theorem type?_mapTypes (table column : String) :
    type? (mapTypes f tables) table column = (type? tables table column).map (f table column) := by
  rw [← get?_columnsOf, columnsOf_mapTypes, OrderedMap.get?_mapEntries, get?_columnsOf]

end MapTypes

/-! ## One write -/

theorem keys_merge (tables : Tables) (name : String) (columns : Columns) :
    (Tables.merge tables name columns).keys = (tables.keys ++ [name]).eraseDups :=
  OrderedMap.keys_insert ..

theorem columnsOf_merge (tables : Tables) (name : String) (columns : Columns) (table : String) :
    columnsOf (Tables.merge tables name columns) table =
      if name = table then (columnsOf tables table).overlay columns
      else columnsOf tables table := by
  rw [columnsOf, Tables.merge, OrderedMap.get?_insert]
  by_cases h : name = table
  · rw [if_pos h, if_pos h, h, Option.getD_some, columnsOf]
  · rw [if_neg h, if_neg h, columnsOf]

theorem get?_merge (tables : Tables) (name : String) (columns : Columns) (table : String) :
    (Tables.merge tables name columns).get? table =
      if name = table then some ((columnsOf tables name).overlay columns)
      else tables.get? table := OrderedMap.get?_insert ..

theorem type?_merge (tables : Tables) (name : String) (columns : Columns) (table column : String) :
    type? (Tables.merge tables name columns) table column =
      if name = table then (columns.get? column).or (type? tables table column)
      else type? tables table column := by
  rw [← get?_columnsOf, columnsOf_merge]
  split
  · rw [OrderedMap.get?_overlay, get?_columnsOf]
  · rw [get?_columnsOf]

theorem mem_columnsOf_merge {tables : Tables} {name : String} {columns : Columns}
    {column : String} : column ∈ (columnsOf (Tables.merge tables name columns) name).keys ↔
      column ∈ (columnsOf tables name).keys ∨ column ∈ columns.keys := by
  rw [columnsOf_merge, if_pos rfl, OrderedMap.keys_overlay, List.mem_eraseDups, List.mem_append]

theorem mem_keys_merge {tables : Tables} {name : String} {columns : Columns} :
    name ∈ (Tables.merge tables name columns).keys := by
  rw [keys_merge, List.mem_eraseDups, List.mem_append]
  exact .inr List.mem_cons_self

/-! ## Many writes -/

theorem mergeAll_eq_mergeList (tables others : Tables) :
    Tables.mergeAll tables others = mergeList tables others.toList := rfl

theorem mergeList_append (tables : Tables) (ws ws' : List (String × Columns)) :
    mergeList tables (ws ++ ws') = mergeList (mergeList tables ws) ws' := by
  unfold mergeList
  rw [List.foldl_append]

theorem keys_mergeList (tables : Tables) (ws : List (String × Columns)) :
    (mergeList tables ws).keys = (tables.keys ++ ws.map Prod.fst).eraseDups := by
  induction ws generalizing tables with
  | nil => simp [mergeList, eraseDups_of_nodup tables.nodup_keys]
  | cons w ws ih =>
    change (mergeList (Tables.merge tables w.1 w.2) ws).keys = _
    rw [ih, keys_merge, eraseDups_eraseDups_append, List.map_cons, List.append_assoc,
      List.singleton_append]

/-- A table holds its columns overlaid with those of each of its writes. -/
theorem columnsOf_mergeList (tables : Tables) (ws : List (String × Columns)) (table : String) :
    columnsOf (mergeList tables ws) table =
      (writesTo ws table).foldl OrderedMap.overlay (columnsOf tables table) := by
  induction ws generalizing tables with
  | nil => rfl
  | cons w ws ih =>
    change columnsOf (mergeList (Tables.merge tables w.1 w.2) ws) table = _
    rw [ih, columnsOf_merge]
    by_cases h : w.1 = table <;> simp [writesTo, h]

theorem keys_columnsOf_mergeList (tables : Tables) (ws : List (String × Columns))
    (table : String) :
    (columnsOf (mergeList tables ws) table).keys =
      ((columnsOf tables table).keys ++
        (writesTo ws table).flatMap OrderedMap.keys).eraseDups := by
  rw [columnsOf_mergeList, OrderedMap.keys_foldl_overlay]

theorem type?_mergeList (tables : Tables) (ws : List (String × Columns)) (table column : String) :
    type? (mergeList tables ws) table column =
      (lastType? ws table column).or (type? tables table column) := by
  rw [← get?_columnsOf, columnsOf_mergeList, OrderedMap.get?_foldl_overlay, get?_columnsOf]
  rfl

/-! ## Reading a list of writes -/

theorem writesTo_append (ws ws' : List (String × Columns)) (table : String) :
    writesTo (ws ++ ws') table = writesTo ws table ++ writesTo ws' table := by
  unfold writesTo
  rw [List.filter_append, List.map_append]

/-- Later writes are asked first. -/
theorem lastType?_append (ws ws' : List (String × Columns)) (table column : String) :
    lastType? (ws ++ ws') table column =
      (lastType? ws' table column).or (lastType? ws table column) := by
  rw [lastType?, writesTo_append, List.reverse_append, List.findSome?_append]
  rfl

/-- The list of a map writes every table at most once, with the columns it has there. -/
theorem writesTo_toList (tables : Tables) (table : String) :
    writesTo tables.toList table = (tables.get? table).toList := by
  obtain ⟨es, hes⟩ := tables
  unfold writesTo
  rw [OrderedMap.get?_eq_lookup]
  dsimp only
  induction es with
  | nil => rfl
  | cons e es ih =>
    obtain ⟨name, columns⟩ := e
    obtain ⟨hname, hes'⟩ := List.nodup_cons.1 hes
    rw [List.lookup_cons, List.filter_cons]
    by_cases h : name = table
    · have hno : es.filter (fun w => w.1 = table) = [] :=
        List.filter_eq_nil_iff.2 fun w hw => by
          have : w.1 ≠ table := fun hwt => hname (List.mem_map.2 ⟨w, hw, hwt.trans h.symm⟩)
          simp [this]
      simp [h, hno]
    · have h' : (table == name) = false := by simpa using fun ht => h ht.symm
      simp only [h, h', decide_false]
      exact ih hes'

theorem lastType?_toList (tables : Tables) (table column : String) :
    lastType? tables.toList table column = type? tables table column := by
  rw [lastType?, writesTo_toList, type?]
  cases tables.get? table with
  | none => rfl
  | some columns => simp

theorem exists_of_lastType? {ws : List (String × Columns)} {table column : String}
    {type : ColumnType} (h : lastType? ws table column = some type) :
    ∃ w ∈ ws, w.1 = table ∧ w.2.get? column = some type := by
  obtain ⟨columns, hcolumns, htype⟩ := List.exists_of_findSome?_eq_some h
  obtain ⟨w, hw, rfl⟩ := List.mem_map.1 (List.mem_reverse.1 hcolumns)
  obtain ⟨hmem, htable⟩ := List.mem_filter.1 hw
  exact ⟨w, hmem, of_decide_eq_true htable, htype⟩

theorem lastType?_eq_none_iff {ws : List (String × Columns)} {table column : String} :
    lastType? ws table column = none ↔ ∀ w ∈ ws, w.1 = table → w.2.get? column = none := by
  simp only [lastType?, writesTo, List.findSome?_eq_none_iff, List.mem_reverse, List.mem_map,
    List.mem_filter, decide_eq_true_eq, forall_exists_index, and_imp]
  constructor
  · exact fun h w hw htable => h w.2 w hw htable rfl
  · rintro h _ w hw htable rfl
    exact h w hw htable

/-! ## Tables over tables -/

section MergeAll

variable (tables others : Tables)

theorem keys_mergeAll : (Tables.mergeAll tables others).keys =
    (tables.keys ++ others.keys).eraseDups := keys_mergeList tables others.toList

theorem keys_columnsOf_mergeAll (table : String) :
    (columnsOf (Tables.mergeAll tables others) table).keys =
      ((columnsOf tables table).keys ++ (columnsOf others table).keys).eraseDups := by
  rw [mergeAll_eq_mergeList, keys_columnsOf_mergeList, writesTo_toList, columnsOf.eq_1 others]
  cases others.get? table <;> simp

theorem type?_mergeAll (table column : String) :
    type? (Tables.mergeAll tables others) table column =
      (type? others table column).or (type? tables table column) := by
  rw [mergeAll_eq_mergeList, type?_mergeList, lastType?_toList]

theorem mergeAll_self : Tables.mergeAll tables tables = tables := by
  refine eq_of_type? ?_ (fun table => ?_) fun table column => ?_
  · rw [keys_mergeAll, eraseDups_append_of_subset fun _ h => h,
      eraseDups_of_nodup tables.nodup_keys]
  · rw [keys_columnsOf_mergeAll, eraseDups_append_of_subset fun _ h => h,
      eraseDups_of_nodup (columnsOf tables table).nodup_keys]
  · rw [type?_mergeAll, Option.or_self]

/-- **Writes to the tables on top are writes to the result**: what is written into the upper tables
before they are laid over the lower ones may as well be written afterwards. -/
theorem mergeAll_mergeList (ws : List (String × Columns)) :
    Tables.mergeAll tables (mergeList others ws) =
      mergeList (Tables.mergeAll tables others) ws := by
  refine eq_of_type? ?_ (fun table => ?_) fun table column => ?_
  · rw [keys_mergeAll, keys_mergeList, keys_mergeList, keys_mergeAll, eraseDups_append_eraseDups,
      eraseDups_eraseDups_append, List.append_assoc]
  · rw [keys_columnsOf_mergeAll, keys_columnsOf_mergeList, keys_columnsOf_mergeList,
      keys_columnsOf_mergeAll, eraseDups_append_eraseDups, eraseDups_eraseDups_append,
      List.append_assoc]
  · rw [type?_mergeAll, type?_mergeList, type?_mergeList, type?_mergeAll, Option.or_assoc]

/-- Laying a result over what it was made from gives the result. -/
theorem mergeAll_mergeAll :
    Tables.mergeAll tables (Tables.mergeAll tables others) = Tables.mergeAll tables others := by
  rw [mergeAll_eq_mergeList tables others, mergeAll_mergeList, mergeAll_self]

end MergeAll

end Tables

end TableCatalog
