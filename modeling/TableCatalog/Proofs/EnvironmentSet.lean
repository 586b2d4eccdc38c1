import TableCatalog.Proofs.Build.Faults

/-!
# Selecting environments

`select` looks every name up and then keeps the environments whose names are among those given. The
look-up finds one environment a name, the filter keeps all of them, and the two fit: a name is found
exactly if it is the name of some environment (`select_ok_iff`). So a selection that succeeds is
`chosen`, and what follows is said of `chosen`.

The law of two selections has its edge where no names are given. No names select everything, so the
second of two selections narrows the first one only if it names something, and it may name nothing
that the first one left out: what is left out is not known any more.
-/

set_option autoImplicit false

namespace TableCatalog.EnvironmentSet

/-- The names of the environments, as often as they are declared. -/
def names (s : EnvironmentSet) : List String := s.map Environment.name

/-- `name` is the first of the names given that no environment has. -/
def FirstUnknown (s : EnvironmentSet) (given : List String) (name : String) : Prop :=
  ∃ known rest, given = known ++ name :: rest ∧ (∀ n ∈ known, n ∈ s.names) ∧ name ∉ s.names

variable {s r : EnvironmentSet} {given others : List String} {name : String}

theorem not_mem_names_iff : name ∉ s.names ↔ ∀ e ∈ s, e.name ≠ name := by
  simp [names]

/-! ## What is chosen -/

theorem chosen_nil (s : EnvironmentSet) : chosen s [] = s := by
  simp [chosen]

theorem chosen_of_ne_nil (h : given ≠ []) : chosen s given = s.filter fun e => e.name ∈ given := by
  simp [chosen, h]

/-- Only which names are given counts. -/
theorem chosen_congr (h : ∀ name, name ∈ others ↔ name ∈ given) :
    chosen s others = chosen s given := by
  have hnil : others = [] ↔ given = [] := by
    simp only [List.eq_nil_iff_forall_not_mem, h]
  simp only [chosen, hnil, h]

/-- A selection has the names that were given and are names of the set. -/
theorem mem_names_chosen_iff (h : given ≠ []) :
    name ∈ names (chosen s given) ↔ name ∈ s.names ∧ name ∈ given := by
  rw [chosen_of_ne_nil h]
  simp only [names, List.mem_map, List.mem_filter, decide_eq_true_eq]
  constructor
  · rintro ⟨e, ⟨he, hgiven⟩, rfl⟩
    exact ⟨⟨e, he, rfl⟩, hgiven⟩
  · rintro ⟨⟨e, he, rfl⟩, hgiven⟩
    exact ⟨e, ⟨he, hgiven⟩, rfl⟩

/-- Choosing from what has been chosen is choosing the fewer from all. -/
theorem chosen_chosen (hothers : others ≠ []) (hsub : ∀ name ∈ others, name ∈ given) :
    chosen (chosen s given) others = chosen s others := by
  have hgiven : given ≠ [] := by
    obtain ⟨name, hname⟩ := List.exists_mem_of_ne_nil others hothers
    exact List.ne_nil_of_mem (hsub name hname)
  rw [chosen_of_ne_nil hgiven, chosen_of_ne_nil hothers, chosen_of_ne_nil hothers,
    List.filter_filter]
  apply List.filter_congr
  intro e _
  rw [← Bool.decide_and, decide_eq_decide]
  exact and_iff_left_of_imp (hsub e.name)

theorem chosen_self (s : EnvironmentSet) (given : List String) :
    chosen (chosen s given) given = chosen s given := by
  by_cases h : given = []
  · rw [h, chosen_nil]
  · exact chosen_chosen h fun _ hname => hname

/-! ## What is selected -/

theorem firstUnknown_iff :
    FirstUnknown s given name ↔
      (given.filter fun n => ∀ e ∈ s, e.name ≠ n).head? = some name := by
  rw [List.head?_filter, List.find?_eq_some_iff_append, FirstUnknown]
  simp only [decide_eq_true_eq, Bool.not_eq_true', decide_eq_false_iff_not, ← not_mem_names_iff,
    not_not]
  constructor
  · rintro ⟨known, rest, hgiven, hknown, hname⟩
    exact ⟨hname, known, rest, hgiven, hknown⟩
  · rintro ⟨hname, known, rest, hgiven, hknown⟩
    exact ⟨known, rest, hgiven, hknown, hname⟩

theorem select_error_iff {err : CatalogError} :
    s.select given = .error err ↔
      ∃ name, FirstUnknown s given name ∧ err = .unknownEnvironment name := by
  rw [select_reports s given err, unknownFaults, List.head?_map, Option.map_eq_some_iff]
  simp only [firstUnknown_iff, eq_comm]

theorem unknownFaults_eq_nil_iff : unknownFaults s given = [] ↔ ∀ name ∈ given, name ∈ s.names := by
  simp only [unknownFaults, List.map_eq_nil_iff, List.filter_eq_nil_iff, decide_eq_true_eq,
    ← not_mem_names_iff, not_not]

/-- A selection succeeds if all names are known, and then it is what was chosen. -/
theorem select_ok_iff :
    s.select given = .ok r ↔ (∀ name ∈ given, name ∈ s.names) ∧ r = chosen s given := by
  rw [← unknownFaults_eq_nil_iff, ← (select_reports s given).ok_iff]
  constructor
  · intro h
    exact ⟨⟨r, h⟩, eq_chosen_of_select h⟩
  · rintro ⟨⟨r', h⟩, rfl⟩
    rw [h, eq_chosen_of_select h]

theorem exists_select_ok_iff :
    (∃ r, s.select given = .ok r) ↔ ∀ name ∈ given, name ∈ s.names := by
  simp only [select_ok_iff, exists_and_left, exists_eq, and_true]

theorem exists_select_error_iff :
    (∃ err, s.select given = .error err) ↔ ∃ name ∈ given, name ∉ s.names := by
  have hok : (∃ r, s.select given = .ok r) ↔ ∀ name ∈ given, name ∈ s.names :=
    exists_select_ok_iff
  cases h : s.select given with
  | error err =>
    have hunknown : ¬ ∀ name ∈ given, name ∈ s.names := by
      rw [← hok, h]
      simp
    simpa using hunknown
  | ok r => simpa using hok.1 ⟨r, h⟩

/-- **What selecting does.** It fails if a name is unknown and reports the first such name. Else it
keeps, in the order of declaration, every environment whose name was given; which names were given
is all that counts, and a second selection by the same names changes nothing. Selecting from a
selection succeeds if nothing is named that was not named before, and is then the same as selecting
from all. -/
theorem select_reports_or_restricts (s : EnvironmentSet) (given : List String) :
    ((∃ err, s.select given = .error err) ↔ ∃ name ∈ given, name ∉ s.names) ∧
      (∀ err, s.select given = .error err ↔
        ∃ name, FirstUnknown s given name ∧ err = .unknownEnvironment name) ∧
      ∀ r, s.select given = .ok r →
        (given = [] → r = s) ∧
        (given ≠ [] → r = s.filter fun e => e.name ∈ given) ∧
        (∀ others, (∀ name, name ∈ others ↔ name ∈ given) → s.select others = .ok r) ∧
        select r given = .ok r ∧
        ∀ others, given ≠ [] → others ≠ [] →
          ((∃ r', select r others = .ok r') ↔ ∀ name ∈ others, name ∈ given) ∧
          ((∀ name ∈ others, name ∈ given) → select r others = s.select others) := by
  refine ⟨exists_select_error_iff, fun err => select_error_iff, ?_⟩
  intro r hr
  obtain ⟨hknown, rfl⟩ := select_ok_iff.1 hr
  refine ⟨?_, chosen_of_ne_nil, ?_, ?_, ?_⟩
  · rintro rfl
    exact chosen_nil s
  · intro others hsame
    exact select_ok_iff.2 ⟨fun name hname => hknown name ((hsame name).1 hname),
      (chosen_congr hsame).symm⟩
  · refine select_ok_iff.2 ⟨?_, (chosen_self s given).symm⟩
    intro name hname
    exact (mem_names_chosen_iff (List.ne_nil_of_mem hname)).2 ⟨hknown name hname, hname⟩
  · intro others hgiven hothers
    have hnames : (∀ name ∈ others, name ∈ names (chosen s given)) ↔
        ∀ name ∈ others, name ∈ given := by
      refine forall₂_congr fun name _ => ?_
      rw [mem_names_chosen_iff hgiven]
      exact and_iff_right_of_imp (hknown name)
    refine ⟨exists_select_ok_iff.trans hnames, ?_⟩
    intro hsub
    have hall : s.select others = .ok (chosen s others) :=
      select_ok_iff.2 ⟨fun name hname => hknown name (hsub name hname), rfl⟩
    rw [hall]
    exact select_ok_iff.2 ⟨hnames.2 hsub, (chosen_chosen hothers hsub).symm⟩

end TableCatalog.EnvironmentSet
