import TableCatalog.Overrides
import TableCatalog.Proofs.Tables

/-!
# What an override entry does to the tables

An entry is written over tables at two levels at once, and both follow one rule: what is there stays
where it is, what is new comes behind it in the order of the entry, and where both have a type the
entry's is taken. `Tables.Overlaid` says so of the result, and there is only one such result
(`Tables.Overlaid.unique`), so the rule leaves nothing open, not even an order.

`Overrides.apply` returns the new tables. Whoever holds tables and has an entry written into them
table by table (`Overrides.applyInPlace`) holds the same tables afterwards, and those he had before if
there is no entry: it is looked for before anything is written.
-/

set_option autoImplicit false

namespace TableCatalog

/-! ## The rule -/

/-- `result` is `tables` with `entry` written over it. -/
structure Tables.Overlaid (entry tables result : Tables) : Prop where
  /-- The tables that were there, then the entry's new ones. -/
  keys_eq : result.keys = tables.keys ++ entry.keys.filter fun table => table ∉ tables.keys
  /-- In each table the columns that were there, then the entry's new ones. -/
  keys_columnsOf_eq (table : String) :
    (columnsOf result table).keys = (columnsOf tables table).keys ++
      (columnsOf entry table).keys.filter fun column => column ∉ (columnsOf tables table).keys
  /-- The entry's type where it has one. -/
  type?_eq (table column : String) :
    type? result table column = (type? entry table column).or (type? tables table column)
  /-- A table that the entry has without columns is there, and as it was if it was there. -/
  get?_of_empty (table : String) : entry.get? table = some .empty →
    result.get? table = some ((tables.get? table).getD .empty)

namespace Tables

variable {entry tables result result' : Tables}

theorem Overlaid.unique (h : Overlaid entry tables result) (h' : Overlaid entry tables result') :
    result = result' := by
  refine eq_of_type? ?_ (fun table => ?_) fun table column => ?_
  · rw [h.keys_eq, h'.keys_eq]
  · rw [h.keys_columnsOf_eq, h'.keys_columnsOf_eq]
  · rw [h.type?_eq, h'.type?_eq]

/-- A table of the entry is there afterwards, with its columns laid over those it had. -/
theorem get?_mergeAll_of_get? (tables : Tables) {table : String} {columns : Columns}
    (h : entry.get? table = some columns) :
    (Tables.mergeAll tables entry).get? table =
      some ((columnsOf tables table).overlay columns) := by
  have hkey : table ∈ (Tables.mergeAll tables entry).keys := by
    rw [keys_mergeAll, List.mem_eraseDups, List.mem_append]
    exact .inr (OrderedMap.mem_keys_iff.2 ⟨columns, h⟩)
  obtain ⟨held, hheld⟩ := OrderedMap.mem_keys_iff.1 hkey
  rw [hheld, ← columnsOf_of_get? hheld, mergeAll_eq_mergeList, columnsOf_mergeList,
    writesTo_toList, h]
  rfl

theorem overlaid_mergeAll (entry tables : Tables) :
    Overlaid entry tables (Tables.mergeAll tables entry) where
  keys_eq := by rw [keys_mergeAll, eraseDups_append_of_nodup tables.nodup_keys entry.nodup_keys]
  keys_columnsOf_eq table := by
    rw [keys_columnsOf_mergeAll, eraseDups_append_of_nodup (columnsOf tables table).nodup_keys
      (columnsOf entry table).nodup_keys]
  type?_eq table column := type?_mergeAll tables entry table column
  get?_of_empty table hempty := get?_mergeAll_of_get? tables hempty

end Tables

/-! ## Writing in place -/

namespace Overrides

/-- Write tables into those that are held, one after the other. -/
def writeEach : List (String × Columns) → EStateM CatalogError Tables Unit
  | [] => pure ()
  | (name, columns) :: rest => do
    modify fun tables => Tables.merge tables name columns
    writeEach rest

/-- Write the entry of an environment into the tables that are held. -/
def applyInPlace (o : Overrides) (environment : String) : EStateM CatalogError Tables Unit :=
  match o.tablesFor environment with
  | .ok entry => writeEach entry.toList
  | .error err => throw err

theorem run_writeEach (writes : List (String × Columns)) (tables : Tables) :
    (writeEach writes).run tables = .ok () (Tables.mergeList tables writes) := by
  induction writes generalizing tables with
  | nil => rfl
  | cons w ws ih => exact ih (Tables.merge tables w.1 w.2)

variable (overrides : Overrides) (environment : String) (tables : Tables)

/-- **What an entry does to tables.** Without an entry there is an error, and tables that are held are
left as they are. With one there are new tables, which are those that are held afterwards, and they are
the only ones that are the old ones with the entry written over them. -/
theorem apply_overlaid_or_missing :
    (overrides.environments.get? environment = none →
      overrides.apply environment tables =
          .error (.missingOverrides overrides.path environment) ∧
        (overrides.applyInPlace environment).run tables =
          .error (.missingOverrides overrides.path environment) tables) ∧
      ∀ entry, overrides.environments.get? environment = some entry →
        ∃ result, overrides.apply environment tables = .ok result ∧
          (overrides.applyInPlace environment).run tables = .ok () result ∧
          ∀ other, Tables.Overlaid entry tables other ↔ other = result := by
  constructor
  · intro hnone
    have htables : overrides.tablesFor environment =
        .error (.missingOverrides overrides.path environment) := by
      rw [tablesFor, hnone]
    constructor
    · rw [Overrides.apply, htables]
      rfl
    · rw [applyInPlace, htables]
      rfl
  · intro entry hentry
    have htables : overrides.tablesFor environment = .ok entry := by rw [tablesFor, hentry]
    have hoverlaid := Tables.overlaid_mergeAll entry tables
    refine ⟨Tables.mergeAll tables entry, ?_, ?_, fun other => ?_⟩
    · rw [Overrides.apply, htables]
      rfl
    · rw [applyInPlace, htables]
      exact run_writeEach entry.toList tables
    · constructor
      · exact fun hother => hother.unique hoverlaid
      · rintro rfl
        exact hoverlaid

end Overrides

end TableCatalog
