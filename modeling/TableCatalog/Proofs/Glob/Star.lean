import TableCatalog.Proofs.Build.Environment
import TableCatalog.Proofs.Discovery
import TableCatalog.Proofs.Glob.Simple

/-!
# Stars

A star takes any run, of bytes or of characters: a gap of stars holds a run of any length, an empty
gap holds the empty run only, and in both cases it makes no difference what is counted. So a pattern
without question marks means to the matcher of bytes what it means to its reader, the splitting of a
name into characters.

The patterns of the environments that are always there are a star and an ending. Their pages are the
visible files whose names end so.
-/

set_option autoImplicit false

namespace TableCatalog

namespace Glob

section Stars

variable {p n : List Char}

/-- Without question marks, characters may be counted as their bytes. -/
theorem splits_bytes_of_stars (h : '?' ∉ p) :
    Splits String.utf8EncodeChar p (bytesOf n) ↔ Splits (fun c => [c]) p n := by
  apply splits_bytes_iff_of_countsAlike
  intro gap hgap
  have hmark : '?' ∉ gap := fun hmem => h ((isInfix_of_mem_gaps hgap).subset hmem)
  exact .inl (List.count_eq_zero.2 hmark)

/-- Along a star and an ending, a name is split if it ends so. -/
theorem splits_ending_iff {ending : List Char} (h : ∀ c ∈ ending, isWild c = false) :
    Splits (fun c => [c]) ('*' :: ending) n ↔ ending <:+ n := by
  simp only [splits_star_iff, splits_literals_iff h, List.flatMap_singleton']
  constructor
  · rintro ⟨run, _, rfl, rfl⟩
    exact List.suffix_append run _
  · rintro ⟨run, rfl⟩
    exact ⟨run, ending, rfl, rfl⟩

/-- What a pattern of stars and other characters is compiled to. -/
theorem exists_accepts_iff_splitsCharacters {pattern : String} (h : IsSimple pattern.toList)
    (hmark : '?' ∉ pattern.toList) :
    ∃ g, compilePattern pattern = .ok g ∧ ∀ name : String, '/' ∉ name.toList →
      (g.accepts name = true ↔ SplitsCharacters pattern name) := by
  obtain ⟨g, hparse, haccepts⟩ := exists_accepts_iff_splitsBytes h
  refine ⟨g, compilePattern_ok_iff.2 hparse, ?_⟩
  intro name hname
  rw [haccepts name hname]
  exact splits_bytes_of_stars hmark

end Stars

end Glob

/-! ## Pages by their endings -/

/-- The pattern is one, and names match it by their ending. -/
def Environment.AcceptsEnding (e : Environment) (ending : String) : Prop :=
  ∃ g, compilePattern e.pattern = .ok g ∧ ∀ name : String, '/' ∉ name.toList →
    (g.accepts name = true ↔ ending.toList <:+ name.toList)

/-- The pages in any directory are the visible files in it whose names end so. -/
def Environment.ListsEnding (e : Environment) (ending : String) : Prop :=
  ∃ g, compilePattern e.pattern = .ok g ∧
    ∀ (t : FileTree) (directory : Path) (listed : List String),
      t.list directory = .ok listed → (∀ name ∈ listed, '/' ∉ name.toList) →
      ∃ names : List String, listPages t directory g = .ok (names.map (Path.join directory)) ∧
        ∀ name, name ∈ names ↔ name ∈ listed ∧ t.isFile (Path.join directory name) = true ∧
          name.toList.head? ≠ some '.' ∧ ending.toList <:+ name.toList

section Ending

variable {e e' : Environment} {ending ending' : String}

/-- A star and an ending. -/
theorem Environment.acceptsEnding (hpattern : e.pattern.toList = '*' :: ending.toList)
    (hsimple : Glob.IsSimple ending.toList)
    (hliteral : ∀ c ∈ ending.toList, Glob.isWild c = false) : e.AcceptsEnding ending := by
  have hmark : '?' ∉ e.pattern.toList := by
    rw [hpattern, List.mem_cons, not_or]
    refine ⟨by decide, ?_⟩
    intro hmem
    have hwild := hliteral '?' hmem
    cases hwild
  have hall : Glob.IsSimple e.pattern.toList := by
    rw [hpattern]
    exact List.forall_mem_cons.2 ⟨by decide, hsimple⟩
  obtain ⟨g, hg, haccepts⟩ := Glob.exists_accepts_iff_splitsCharacters hall hmark
  refine ⟨g, hg, ?_⟩
  intro name hname
  rw [haccepts name hname, Glob.SplitsCharacters, hpattern, Glob.splits_ending_iff hliteral]

theorem Environment.AcceptsEnding.listsEnding (h : e.AcceptsEnding ending) :
    e.ListsEnding ending := by
  obtain ⟨g, hg, haccepts⟩ := h
  refine ⟨g, hg, ?_⟩
  intro t directory listed hlisted hslash
  obtain ⟨names, hnames⟩ := exists_pageNames hlisted g
  refine ⟨names, listPages_of_pageNames hnames, ?_⟩
  intro name
  rw [hnames.mem_iff, HasPage, hlisted]
  simp only [Except.ok.injEq, exists_eq_left', isPage, Bool.and_eq_true, Bool.not_eq_true',
    startsWith_dot_eq_false_iff, and_assoc]
  apply and_congr_right
  intro hmem
  rw [haccepts name (hslash name hmem)]

/-- A match of the pattern with the longer ending is a match of the other. -/
theorem Environment.AcceptsEnding.accepts (h : e.AcceptsEnding ending)
    (h' : e'.AcceptsEnding ending') (hending : ending'.toList <:+ ending.toList) {g g' : Glob}
    (hg : compilePattern e.pattern = .ok g) (hg' : compilePattern e'.pattern = .ok g')
    {name : String} (hname : '/' ∉ name.toList) (hmatch : g.accepts name = true) :
    g'.accepts name = true := by
  obtain ⟨_, hcompiled, haccepts⟩ := h
  obtain ⟨_, hcompiled', haccepts'⟩ := h'
  cases hg.symm.trans hcompiled
  cases hg'.symm.trans hcompiled'
  exact (haccepts' name hname).2 (hending.trans ((haccepts name hname).1 hmatch))

end Ending

/-- **Star patterns mean what the specification says.** A pattern of stars and literal characters is
a pattern, and a name matches it if it can be split into the literal characters and a run for every
star. So the pages of the one environment that is always there are the visible files whose names end
in `-table.md`, those of the other the ones that end in `.md`, and whatever matches the first
pattern matches the second. -/
theorem starPattern_accepts_iff :
    (∀ pattern : String, Glob.IsSimple pattern.toList → '?' ∉ pattern.toList →
      ∃ g, compilePattern pattern = .ok g ∧ ∀ name : String, '/' ∉ name.toList →
        (g.accepts name = true ↔ Glob.SplitsCharacters pattern name)) ∧
    ∃ m365 sentinel, EnvironmentSet.builtin = [m365, sentinel] ∧
      m365.name = "m365" ∧ m365.ListsEnding "-table.md" ∧
      sentinel.name = "sentinel" ∧ sentinel.ListsEnding ".md" ∧
      ∀ g g', compilePattern m365.pattern = .ok g → compilePattern sentinel.pattern = .ok g' →
        ∀ name : String, '/' ∉ name.toList → g.accepts name = true → g'.accepts name = true := by
  have htable : EnvironmentSet.builtin[0].AcceptsEnding "-table.md" :=
    Environment.acceptsEnding (by simp [EnvironmentSet.builtin]) (by decide)
      (by simp [Glob.isWild])
  have hpage : EnvironmentSet.builtin[1].AcceptsEnding ".md" :=
    Environment.acceptsEnding (by simp [EnvironmentSet.builtin]) (by decide)
      (by simp [Glob.isWild])
  refine ⟨?stars, _, _, rfl, rfl, htable.listsEnding, rfl, hpage.listsEnding, ?both⟩
  case stars =>
    intro pattern hsimple hmark
    exact Glob.exists_accepts_iff_splitsCharacters hsimple hmark
  case both =>
    intro g g' hg hg' name hname hmatch
    exact htable.accepts hpage (by decide) hg hg' hname hmatch

end TableCatalog
