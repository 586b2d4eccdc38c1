import TableCatalog.Proofs.Tables

/-!
# Merging as an action on tables

Merging twice into one table is merging once, with the second columns laid over the first. For
columns are laid over what is there, and `OrderedMap.overlay` is associative: a column stands where
it stood first and has the type that was written last, however the writes are put together.

Merges into two tables have nothing to do with each other but for one thing. A table that is new
goes to the end, so of two new ones the first to be written stands first. If one of the two was
there before, that cannot be seen, and the merges commute (`Tables.merge_comm_iff`).
-/

set_option autoImplicit false

namespace TableCatalog

/-- `result` is `lower` with `upper` written over it. -/
structure Columns.Overlaid (upper lower result : Columns) : Prop where
  /-- The columns that were there, then the new ones. -/
  keys_eq : result.keys = lower.keys ++ upper.keys.filter fun column => column ∉ lower.keys
  /-- The upper type where there is one. -/
  get?_eq (column : String) : result.get? column = (upper.get? column).or (lower.get? column)

theorem Columns.overlaid_iff {upper lower result : Columns} :
    Columns.Overlaid upper lower result ↔ result = lower.overlay upper := by
  have hkeys : (lower.overlay upper).keys =
      lower.keys ++ upper.keys.filter fun column => column ∉ lower.keys := by
    rw [OrderedMap.keys_overlay, eraseDups_append_of_nodup lower.nodup_keys upper.nodup_keys]
  constructor
  · intro h
    refine OrderedMap.eq_of_keys_of_get? (h.keys_eq.trans hkeys.symm) fun column => ?_
    rw [h.get?_eq, OrderedMap.get?_overlay]
  · rintro rfl
    exact ⟨hkeys, OrderedMap.get?_overlay lower upper⟩

namespace Tables

variable (tables : Tables) {name name' : String} (columns columns' : Columns)

/-! ## One table -/

theorem merge_merge : Tables.merge (Tables.merge tables name columns) name columns' =
    Tables.merge tables name (columns.overlay columns') := by
  refine OrderedMap.eq_of_keys_of_get? ?_ fun table => ?_
  · rw [keys_merge, keys_merge, keys_merge, eraseDups_eraseDups_append,
      eraseDups_append_of_subset fun _ hname => List.mem_append_right _ hname]
  · rw [get?_merge, get?_merge, get?_merge, columnsOf_merge, if_pos rfl]
    split
    · rw [OrderedMap.overlay_overlay]
    · rfl

/-- The other tables are what they were, in the order in which they were. -/
theorem filter_merge (name : String) :
    (Tables.merge tables name columns).toList.filter (fun t => t.1 ≠ name) =
      tables.toList.filter fun t => t.1 ≠ name := by
  rw [Tables.merge, OrderedMap.toList_insert, OrderedMap.filter_put fun table => table ≠ name]
  simp

/-- A new table goes to the end, with the columns that are written. -/
theorem toList_merge_of_not_mem (hname : name ∉ tables.keys) :
    (Tables.merge tables name columns).toList = tables.toList ++ [(name, columns)] := by
  have hnone : tables.get? name = none := by
    rw [Option.eq_none_iff_forall_ne_some]
    intro held hheld
    exact hname (OrderedMap.mem_keys_iff.2 ⟨held, hheld⟩)
  rw [Tables.merge, hnone, Option.getD_none, OrderedMap.empty_overlay,
    OrderedMap.toList_insert_of_not_mem hname]

theorem keys_merge_of_mem (hname : name ∈ tables.keys) :
    (Tables.merge tables name columns).keys = tables.keys := by
  rw [keys_merge, eraseDups_concat, if_pos hname, eraseDups_of_nodup tables.nodup_keys]

/-! ## Two tables -/

variable {tables columns columns'}

theorem toList_merge_merge_of_not_mem (hne : name ≠ name') (hname : name ∉ tables.keys)
    (hname' : name' ∉ tables.keys) :
    (Tables.merge (Tables.merge tables name columns) name' columns').toList =
      tables.toList ++ [(name, columns), (name', columns')] := by
  have hfirst := toList_merge_of_not_mem tables columns hname
  have hnew : name' ∉ (Tables.merge tables name columns).keys := by
    rw [OrderedMap.keys, hfirst, List.map_append, List.mem_append, not_or]
    exact ⟨hname', by simpa using hne.symm⟩
  rw [toList_merge_of_not_mem _ _ hnew, hfirst, List.append_assoc]
  rfl

/-- Beside a table that is there, any other may be written first or last. -/
theorem merge_comm (hne : name ≠ name') (hname : name ∈ tables.keys) :
    Tables.merge (Tables.merge tables name columns) name' columns' =
      Tables.merge (Tables.merge tables name' columns') name columns := by
  refine OrderedMap.eq_of_keys_of_get? ?_ fun table => ?_
  · have hlater : name ∈ (Tables.merge tables name' columns').keys := by
      rw [keys_merge, List.mem_eraseDups]
      exact List.mem_append_left _ hname
    rw [keys_merge_of_mem _ columns hlater, keys_merge, keys_merge_of_mem tables columns hname,
      keys_merge]
  · simp only [get?_merge, columnsOf_merge, if_neg hne, if_neg hne.symm]
    by_cases htable : name = table
    · rw [if_pos htable, if_pos htable, if_neg fun h => hne (htable.trans h.symm)]
    · rw [if_neg htable, if_neg htable]

theorem merge_comm_iff (hne : name ≠ name') :
    Tables.merge (Tables.merge tables name columns) name' columns' =
        Tables.merge (Tables.merge tables name' columns') name columns ↔
      name ∈ tables.keys ∨ name' ∈ tables.keys := by
  constructor
  · intro hcomm
    by_contra hnew
    obtain ⟨hname, hname'⟩ := not_or.1 hnew
    -- the two new tables stand in the order of the writes, and that can be seen
    have hlists := congrArg OrderedMap.toList hcomm
    rw [toList_merge_merge_of_not_mem hne hname hname',
      toList_merge_merge_of_not_mem hne.symm hname' hname, List.append_cancel_left_eq] at hlists
    exact hne (congrArg Prod.fst (List.cons.inj hlists).1)
  · rintro (hname | hname')
    · exact merge_comm hne hname
    · exact (merge_comm hne.symm hname').symm

/-- **How merges act on tables.** Two merges into one table are one, of columns in which each stands
where it stood first and has its last type; the other tables stay as they are, and no table is
moved. Merges into two tables commute exactly if one of the two is there already, and else the two
new tables stand in the order in which they are written. -/
theorem merge_acts (tables : Tables) :
    (∀ name columns columns', ∃ both,
        (∀ other, Columns.Overlaid columns' columns other ↔ other = both) ∧
          Tables.merge (Tables.merge tables name columns) name columns' =
            Tables.merge tables name both) ∧
      (∀ name columns,
        tables.keys <+: (Tables.merge tables name columns).keys ∧
          (Tables.merge tables name columns).toList.filter (fun t => t.1 ≠ name) =
            tables.toList.filter fun t => t.1 ≠ name) ∧
      ∀ name name' columns columns', name ≠ name' →
        (Tables.merge (Tables.merge tables name columns) name' columns' =
            Tables.merge (Tables.merge tables name' columns') name columns ↔
          name ∈ tables.keys ∨ name' ∈ tables.keys) ∧
        (name ∉ tables.keys → name' ∉ tables.keys →
          (Tables.merge (Tables.merge tables name columns) name' columns').toList =
            tables.toList ++ [(name, columns), (name', columns')]) := by
  refine ⟨fun name columns columns' => ?_, fun name columns => ⟨?_, ?_⟩, ?_⟩
  · exact ⟨_, fun other => Columns.overlaid_iff, merge_merge tables columns columns'⟩
  · rw [keys_merge]
    exact prefix_eraseDups_append tables.nodup_keys _
  · exact filter_merge tables columns name
  · intro name name' columns columns' hne
    exact ⟨merge_comm_iff hne, toList_merge_merge_of_not_mem hne⟩

end Tables

end TableCatalog
