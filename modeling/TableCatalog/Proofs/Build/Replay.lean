import TableCatalog.Proofs.Build.Environment

/-!
# Writing the same again

A single write that is repeated later on need not be harmless: in between, another write may have
given its column a different type. A whole sequence of writes is. Of a column only the last write of
the sequence counts, and after the repetition that is the same one; and by then every table and
every column has its place.

What the pages of a scan and the entry of an environment do to tables are such sequences.
-/

set_option autoImplicit false

namespace TableCatalog

theorem Tables.mergeList_again (tables : Tables) (ws : List (String × Columns)) :
    mergeList (mergeList tables ws) ws = mergeList tables ws := by
  refine eq_of_type? ?_ (fun table => ?_) fun table column => ?_
  · rw [keys_mergeList, keys_mergeList, eraseDups_eraseDups_append,
      eraseDups_append_of_subset fun name hname => List.mem_append_right _ hname]
  · rw [keys_columnsOf_mergeList, keys_columnsOf_mergeList, eraseDups_eraseDups_append,
      eraseDups_append_of_subset fun column hcolumn => List.mem_append_right _ hcolumn]
  · rw [type?_mergeList, type?_mergeList, ← Option.or_assoc, Option.or_self]

theorem Overrides.apply_again (overrides : Overrides) (environment : String) (tables : Tables) :
    (overrides.apply environment tables >>= overrides.apply environment) =
      overrides.apply environment tables := by
  cases h : overrides.apply environment tables with
  | error err => rfl
  | ok result =>
    obtain ⟨entry, hentry, rfl⟩ := apply_ok_iff.1 h
    refine apply_ok_iff.2 ⟨entry, hentry, ?_⟩
    rw [Tables.mergeAll_eq_mergeList, Tables.mergeAll_eq_mergeList, Tables.mergeList_again]

/-- Files that the log does not go into are the same after a scan. -/
theorem scanPages_again {scopes scopes' : List Log.Scope} {files : List Path} {tables : Tables}
    {w : World} (hno : ∀ file ∈ files, ¬ w.LogsInto file) :
    ((scanPages scopes files tables >>= scanPages scopes' files) w).1 =
      (scanPages scopes files tables w).1 := by
  obtain ⟨es, hes⟩ := scanPages_onlyNotes scopes files tables w
  rw [Run.bind_apply]
  generalize hrun : scanPages scopes files tables w = run at hes ⊢
  obtain ⟨r, w'⟩ := run
  obtain rfl : w' = w.noted es := hes
  cases r with
  | error err => rfl
  | ok result =>
    have hno' : ∀ file ∈ files, ¬ (w.noted es).LogsInto file := fun file hfile => by
      rw [World.logsInto_noted]
      exact hno file hfile
    have hread : ∀ file ∈ files,
        (w.noted es).files.readText file = w.files.readText file :=
      fun file hfile => World.readText_noted_eq w es (hno file hfile)
    obtain ⟨hall, rfl⟩ := (scanPages_ok_iff hno).1 (congrArg Prod.fst hrun)
    have hpages : pagesOf (w.noted es).files files = pagesOf w.files files :=
      List.filterMap_congr fun file hfile => by rw [hread file hfile]
    refine (scanPages_ok_iff hno').2 ⟨fun file hfile => ?_, ?_⟩
    · rw [hread file hfile]
      exact hall file hfile
    · rw [hpages, Tables.mergeList_again]

/-- **What has been done is not changed by doing it again.** A sequence of writes, an override entry
and a scan each leave the tables that they left before, with every order; and what fails, fails as
before. -/
theorem replayed_eq_once (tables : Tables) :
    (∀ writes, Tables.mergeList (Tables.mergeList tables writes) writes =
      Tables.mergeList tables writes) ∧
      (∀ overrides : Overrides, ∀ environment,
        (overrides.apply environment tables >>= overrides.apply environment) =
          overrides.apply environment tables) ∧
      ∀ scopes scopes' files w, (∀ file ∈ files, ¬ World.LogsInto w file) →
        ((scanPages scopes files tables >>= scanPages scopes' files) w).1 =
          (scanPages scopes files tables w).1 :=
  ⟨tables.mergeList_again, fun overrides environment => overrides.apply_again environment tables,
    fun _ _ _ _ hno => scanPages_again hno⟩

end TableCatalog
