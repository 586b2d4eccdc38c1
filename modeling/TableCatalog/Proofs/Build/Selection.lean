import TableCatalog.Proofs.Build.Inputs

/-!
# A selection is a part of the whole

Selecting environments before a run and leaving the others out of the document afterwards come to
the same thing. The two runs go through different lists, and they need not end alike: the selected
run may have a document where the whole one fails, never the other way round.

What carries the comparison is `Documented`, which says of every environment on its own what it is
built into. So the list of what the environments are built into can be filtered like the list of the
environments (`AllBuilt.filter`), and it remains that leaving keys out commutes with writing them,
also when a name is declared twice and its second schema is written in the place of its first
(`toList_writeSchemas_filter`).

That an environment which is not selected cannot make a run fail is read off the list of faults:
`ownFaults` are those of one environment, and a run reports faults of its own environments and of
the override file, nothing else.
-/

set_option autoImplicit false

namespace TableCatalog

/-- What is wrong with one environment, whatever the others are: its directory is missing, its
pattern is none, its pages cannot be read, or it has no entry. -/
def ownFaults (t : FileTree) (o : BuildOptions) (e : Environment) : List CatalogError :=
  sourceFaults t o.docsRoot [e] ++ environmentsFaults t o [e]

/-! ## What fails -/

section Faults

variable (t : FileTree) (o : BuildOptions) (s : EnvironmentSet)

theorem sourceFaults_eq_flatMap (root : Path) :
    sourceFaults t root s = s.flatMap fun e => sourceFaults t root [e] := by
  induction s with
  | nil => rfl
  | cons e s ih =>
    rw [List.flatMap_cons, ← ih]
    unfold sourceFaults
    rw [← List.map_append, ← List.filter_append, List.singleton_append]

theorem environmentsFaults_eq_flatMap :
    environmentsFaults t o s = s.flatMap fun e => environmentsFaults t o [e] := by
  unfold environmentsFaults
  cases Overrides.load t o.overridesPath with
  | error err => simp
  | ok overrides => simp

/-- A run has a document if nothing is wrong with the override file and with any of its
environments. -/
theorem buildDocument_succeeds_iff (outer : List Log.Scope) (w : World) :
    (∃ d, (buildDocument outer s o w).1 = .ok d) ↔
      overridesFaults w.files o.overridesPath = [] ∧ ∀ e ∈ s, ownFaults w.files o e = [] := by
  rw [(buildDocument_reports outer s o w).ok_iff, sourceFaults_eq_flatMap,
    environmentsFaults_eq_flatMap]
  simp only [List.append_eq_nil_iff, List.flatMap_eq_nil_iff, ownFaults]
  constructor
  · rintro ⟨⟨hsource, hoverrides⟩, henvironment⟩
    exact ⟨hoverrides, fun e he => ⟨hsource e he, henvironment e he⟩⟩
  · rintro ⟨hoverrides, hown⟩
    exact ⟨⟨fun e he => (hown e he).1, hoverrides⟩, fun e he => (hown e he).2⟩

/-- What a run reports is a fault of the override file or of one of its environments. -/
theorem buildDocument_error {outer : List Log.Scope} {w : World} {err : CatalogError}
    (h : (buildDocument outer s o w).1 = .error err) :
    err ∈ overridesFaults w.files o.overridesPath ∨ ∃ e ∈ s, err ∈ ownFaults w.files o e := by
  have hmem := List.mem_of_mem_head? ((buildDocument_reports outer s o w err).1 h)
  rw [sourceFaults_eq_flatMap, environmentsFaults_eq_flatMap, List.mem_append, List.mem_append,
    List.mem_flatMap, List.mem_flatMap] at hmem
  rcases hmem with (⟨e, he, hsource⟩ | hoverrides) | ⟨e, he, henvironment⟩
  · exact Or.inr ⟨e, he, List.mem_append_left _ hsource⟩
  · exact Or.inl hoverrides
  · exact Or.inr ⟨e, he, List.mem_append_right _ henvironment⟩

end Faults

/-! ## What is built -/

/-- Environments that are left out take with them what they are built into, and nothing else. -/
theorem AllBuilt.filter {t : FileTree} {root : Path} {overrides : Overrides} {s : EnvironmentSet}
    {schemas : List EnvironmentSchema} (h : AllBuilt t root overrides s schemas)
    (keep : Environment → Bool) :
    ∃ kept, AllBuilt t root overrides (s.filter keep) kept ∧
      (s.filter keep).zip kept = (s.zip schemas).filter fun p => keep p.1 := by
  induction h with
  | nil => exact ⟨[], .nil, rfl⟩
  | @cons e schema s schemas hbuilt _ ih =>
    obtain ⟨kept, hkept, hzip⟩ := ih
    by_cases he : keep e = true
    · refine ⟨schema :: kept, ?_, ?_⟩
      · rw [List.filter_cons_of_pos he]
        exact .cons hbuilt hkept
      · rw [List.filter_cons_of_pos he, List.zip_cons_cons, hzip, List.zip_cons_cons,
          List.filter_cons, if_pos he]
    · refine ⟨kept, ?_, ?_⟩
      · rw [List.filter_cons_of_neg he]
        exact hkept
      · rw [List.filter_cons_of_neg he, hzip, List.zip_cons_cons, List.filter_cons, if_neg he]

theorem toList_writeSchemas_filter (keep : String → Bool)
    (built : List (Environment × EnvironmentSchema)) :
    (writeSchemas .empty (built.filter fun p => keep p.1.name)).toList =
      (writeSchemas .empty built).toList.filter fun e => keep e.1 := by
  have hempty : (.empty : Document).toList =
      (.empty : Document).toList.filter fun e => keep e.1 := rfl
  rw [writeSchemas_empty, writeSchemas_empty, OrderedMap.ofList, OrderedMap.ofList,
    ← OrderedMap.toList_foldl_insert_filter keep _ hempty, List.filter_map]
  rfl

/-- The document of a selection is the document of all environments without the others. -/
theorem Documented.select {t : FileTree} {all : EnvironmentSet} {o : BuildOptions} {d : Document}
    (h : Documented t all o d) (keep : String → Bool) :
    ∃ d', Documented t (all.filter fun e => keep e.name) o d' ∧
      d'.toList = d.toList.filter fun e => keep e.1 := by
  obtain ⟨hsources, overrides, schemas, hload, hschemas, rfl⟩ := h
  obtain ⟨kept, hkept, hzip⟩ := hschemas.filter fun e => keep e.name
  refine ⟨_, ⟨?_, overrides, kept, hload, hkept, rfl⟩, ?_⟩
  · intro e he
    exact hsources e (List.mem_of_mem_filter he)
  · rw [hzip]
    exact toList_writeSchemas_filter keep _

/-- **Selecting is filtering.** If the environments of a set have a document, and the log goes into
no page of theirs, those that are selected by name have one too: the same without the others, every
schema as it was and in the same order. And wherever the log goes, whether a selection has a
document and what it reports if not hangs on the override file and on the selected environments
only. -/
theorem buildDocument_select {outer outer' : List Log.Scope} {all s : EnvironmentSet}
    {names : List String} {o : BuildOptions} {w : World} (hselect : all.select names = .ok s)
    (hnames : names ≠ []) :
    ((∀ e ∈ all, w.SparesPages (e.sourceDir o.docsRoot) e) →
      ∀ d, (buildDocument outer all o w).1 = .ok d →
        ∃ d', (buildDocument outer' s o w).1 = .ok d' ∧
          d'.toList = d.toList.filter fun e => e.1 ∈ names) ∧
    ((∃ d', (buildDocument outer' s o w).1 = .ok d') ↔
      overridesFaults w.files o.overridesPath = [] ∧
        ∀ e ∈ all, e.name ∈ names → ownFaults w.files o e = []) ∧
    ∀ err, (buildDocument outer' s o w).1 = .error err →
      err ∈ overridesFaults w.files o.overridesPath ∨
        ∃ e ∈ all, e.name ∈ names ∧ err ∈ ownFaults w.files o e := by
  have hs : s = all.filter fun e => e.name ∈ names := by
    rw [eq_chosen_of_select hselect, chosen]
    simp only [hnames, false_or]
  have hmem (e : Environment) : e ∈ s ↔ e ∈ all ∧ e.name ∈ names := by
    rw [hs, List.mem_filter, decide_eq_true_eq]
  refine ⟨fun hspares d hd => ?_, ?_, fun err herr => ?_⟩
  · rw [buildDocument_ok_iff hspares] at hd
    obtain ⟨d', hd', hlist⟩ := hd.select fun name => name ∈ names
    refine ⟨d', (buildDocument_ok_iff fun e he => hspares e ((hmem e).1 he).1).2 ?_, hlist⟩
    rw [hs]
    exact hd'
  · rw [buildDocument_succeeds_iff]
    simp only [hmem, and_imp]
  · rcases buildDocument_error o s herr with hoverrides | ⟨e, he, hown⟩
    · exact Or.inl hoverrides
    · obtain ⟨hall, hname⟩ := (hmem e).1 he
      exact Or.inr ⟨e, hall, hname, hown⟩

/-- A name that is declared twice is selected twice, and its second schema stays. -/
theorem buildDocument_select_declaredTwice :
    let again : Environment := { anyPages with magicFunctions := ["f"] }
    let all : EnvironmentSet := [anyPages, { anyPages with name := "other" }, again]
    let w := World.quiet (twoPages "# T\n## Columns\n|A|int|\n" "# U\n"
      "\x7b\"other\":\x7b\x7d,\"env\":\x7b\"U\":\x7b\x7d\x7d\x7d")
    let o : BuildOptions := ⟨"", "o"⟩
    all.select ["env"] = .ok [anyPages, again] ∧
      (∃ d, (buildDocument [.check] all o w).1 = .ok d) ∧
      (∀ e ∈ all, w.SparesPages (e.sourceDir o.docsRoot) e) ∧
      ((∀ e ∈ all, w.SparesPages (e.sourceDir o.docsRoot) e) →
        ∀ d, (buildDocument [.check] all o w).1 = .ok d →
          ∃ d', (buildDocument [.extract] [anyPages, again] o w).1 = .ok d' ∧
            d'.toList = d.toList.filter fun e => e.1 ∈ ["env"]) ∧
      ((∃ d', (buildDocument [.extract] [anyPages, again] o w).1 = .ok d') ↔
        overridesFaults w.files o.overridesPath = [] ∧
          ∀ e ∈ all, e.name ∈ ["env"] → ownFaults w.files o e = []) ∧
      ∀ err, (buildDocument [.extract] [anyPages, again] o w).1 = .error err →
        err ∈ overridesFaults w.files o.overridesPath ∨
          ∃ e ∈ all, e.name ∈ ["env"] ∧ err ∈ ownFaults w.files o e := by
  intro again all w o
  have hselect : all.select ["env"] = .ok [anyPages, again] := rfl
  have hspares : ∀ e ∈ all, w.SparesPages (e.sourceDir o.docsRoot) e :=
    fun _ _ _ _ _ _ => World.not_logsInto_quiet _ _
  have henv : overridesFor? w.files "o" "env" = some (.ofList [("U", .empty)]) := by
    refine (overridesFor?_of_readText (readText_overrides_twoPages ..) _).trans ?_
    decide
  have hother : overridesFor? w.files "o" "other" = some .empty := by
    refine (overridesFor?_of_readText (readText_overrides_twoPages ..) _).trans ?_
    decide
  obtain ⟨read, hload⟩ := load_of_overridesFor? henv
  rw [overridesFor?_of_load hload] at henv hother
  obtain ⟨d, hd⟩ : ∃ d, Documented w.files all o d := by
    refine documented_twoPages_of_entries _ _ hload ?_
    refine List.forall_mem_cons.2 ⟨⟨rfl, rfl, _, henv⟩, ?_⟩
    refine List.forall_mem_cons.2 ⟨⟨rfl, rfl, _, hother⟩, ?_⟩
    exact List.forall_mem_singleton.2 ⟨rfl, rfl, _, henv⟩
  exact ⟨hselect, ⟨d, (buildDocument_ok_iff hspares).2 hd⟩, hspares,
    buildDocument_select hselect (by simp)⟩

end TableCatalog
