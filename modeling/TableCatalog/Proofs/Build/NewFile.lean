import TableCatalog.Proofs.Build.Inputs
import TableCatalog.Proofs.FileTree.Place

/-!
# A new file that is no input

A run may begin by creating the file that its log goes to. The tree that it reads has one file more
than the tree it was started with, and the document is that of the tree without it, as long as the
new file is none of the pages and not the override file (`NoInput`).

A file that was not there cannot have been an input, so all that has to be excluded is that the new
name makes a page. The name is listed in its directory, and there the path to it leads to the new
file (`FileTree.resolve_join`); so if it made a page, that page would be the new file.
-/

set_option autoImplicit false

namespace TableCatalog

/-- Neither a page of the environments nor the override file is what stands at a place. -/
structure NoInput (t : FileTree) (at_ : Location) (s : EnvironmentSet) (o : BuildOptions) :
    Prop where
  pages : ∀ e ∈ s, ∀ g name, Glob.parse e.pattern = .ok g →
    HasPage t (e.sourceDir o.docsRoot) g name →
      t.location? (Path.join (e.sourceDir o.docsRoot) name) ≠ some at_
  overrides : t.location? o.overridesPath ≠ some at_

/-- A file that stands in the second of two trees and not in the first. -/
structure NewFile (at_ : Location) (t t' : FileTree) : Prop where
  alike : t.AlikeBut at_ t'
  free : t.nodes.get? at_ = none
  listed : ∃ directory name, at_ = directory ++ [name] ∧ FileTree.LooksUp name ∧ Path.IsName name

variable {at_ : Location} {t t' : FileTree}

theorem NewFile.of_target {path : Path} (htarget : t.target path = .ok at_)
    (hfree : t.nodes.get? at_ = none) (content : ByteArray) :
    NewFile at_ t (t.place at_ (.file content)) where
  alike := FileTree.alikeBut_place (by simp [hfree]) content
  free := hfree
  listed := FileTree.name_of_target htarget hfree

theorem NewFile.readBytes (h : NewFile at_ t t') {path : Path}
    (hne : t'.location? path ≠ some at_) (content : ByteArray) :
    t.readBytes path = .ok content ↔ t'.readBytes path = .ok content := by
  constructor
  · intro hread
    have hfile := FileTree.isFile_of_readBytes hread
    rwa [FileTree.readBytes_alikeBut h.alike hfile (FileTree.location?_ne_of_vacant h.free hfile)]
  · intro hread
    rwa [FileTree.readBytes_alikeBut h.alike.symm (FileTree.isFile_of_readBytes hread) hne]

/-! ## Pages -/

section Pages

variable {directory : Path} {g : Glob}

theorem NewFile.isFile (h : NewFile at_ t t') {path : Path} (hfile : t.isFile path = true) :
    t'.isFile path = true := by
  obtain ⟨place, content, access, hfound⟩ := FileTree.isFile_eq_true_iff.1 hfile
  have hne := FileTree.location?_ne_of_vacant h.free hfile
  rw [FileTree.location?_of_resolve hfound, Ne, Option.some.injEq] at hne
  exact FileTree.isFile_eq_true_iff.2
    ⟨place, content, access, FileTree.resolve_alikeBut h.alike hfound hne⟩

theorem NewFile.hasPage (h : NewFile at_ t t') {name : String}
    (hpage : HasPage t directory g name) : HasPage t' directory g name := by
  obtain ⟨⟨listed, hlisted, hname⟩, hpage⟩ := hpage
  obtain ⟨place, hplace, rfl⟩ := FileTree.list_eq_ok_iff.1 hlisted
  obtain ⟨node, hnode⟩ := mem_namesAt_iff.1 hname
  have hne : place ++ [name] ≠ at_ := by
    intro hat
    rw [hat, h.free] at hnode
    exact absurd hnode (by simp)
  refine ⟨⟨_, FileTree.list_eq_ok_iff.2 ⟨place, FileTree.resolve_directory_alikeBut h.alike hplace, rfl⟩,
    mem_namesAt_iff.2 ⟨node, ?_⟩⟩, ?_⟩
  · rw [← h.alike.elsewhere _ hne, hnode]
  · simp only [isPage, Bool.and_eq_true] at hpage ⊢
    exact ⟨⟨h.isFile hpage.1.1, hpage.1.2⟩, hpage.2⟩

/-- A page that is not the new file was there before. -/
theorem NewFile.hasPage_of (h : NewFile at_ t t') {name : String}
    (hpage : HasPage t' directory g name)
    (hne : t'.location? (Path.join directory name) ≠ some at_) : HasPage t directory g name := by
  obtain ⟨⟨listed, hlisted, hname⟩, hpage⟩ := hpage
  obtain ⟨place, hplace, rfl⟩ := FileTree.list_eq_ok_iff.1 hlisted
  obtain ⟨node, hnode⟩ := mem_namesAt_iff.1 hname
  simp only [isPage, Bool.and_eq_true] at hpage
  obtain ⟨found, content, access, hfound⟩ := FileTree.isFile_eq_true_iff.1 hpage.1.1
  rw [FileTree.location?_of_resolve hfound, Ne, Option.some.injEq] at hne
  have hold : place ++ [name] ≠ at_ := by
    intro hat
    -- the new name in this directory: then the page is the new file
    obtain ⟨directory', name', hat', hlooks, hisName⟩ := h.listed
    obtain ⟨rfl, hnames⟩ := List.append_inj' (hat.trans hat') rfl
    obtain rfl : name = name' := by simpa using hnames
    obtain ⟨content', rfl⟩ := h.alike.file' node (hat ▸ hnode)
    have hleads := FileTree.resolve_join hplace hisName hlooks hnode hfound
    obtain ⟨rfl, -⟩ := Prod.mk.inj hleads
    exact hne hat
  refine ⟨⟨_, FileTree.list_eq_ok_iff.2 ⟨place, FileTree.resolve_directory_alikeBut h.alike.symm hplace,
    rfl⟩, mem_namesAt_iff.2 ⟨node, ?_⟩⟩, ?_⟩
  · rw [h.alike.elsewhere _ hold, hnode]
  · simp only [isPage, Bool.and_eq_true]
    exact ⟨⟨FileTree.isFile_eq_true_iff.2
      ⟨found, content, access, FileTree.resolve_alikeBut h.alike.symm hfound hne⟩, hpage.1.2⟩,
      hpage.2⟩

end Pages

/-! ## Documents -/

variable {s : EnvironmentSet} {o : BuildOptions}

theorem NewFile.pageHolds_iff (h : NewFile at_ t t') (hno : NoInput t' at_ s o) {e : Environment}
    (he : e ∈ s) {g : Glob} (hparse : Glob.parse e.pattern = .ok g) (name : String)
    (held : Option ByteArray) :
    PageHolds t (e.sourceDir o.docsRoot) g name held ↔
      PageHolds t' (e.sourceDir o.docsRoot) g name held := by
  have hread (hpage' : HasPage t' (e.sourceDir o.docsRoot) g name) :
      (t.readBytes (Path.join (e.sourceDir o.docsRoot) name)).toOption =
        (t'.readBytes (Path.join (e.sourceDir o.docsRoot) name)).toOption := by
    refine Option.ext fun content => ?_
    rw [toOption_eq_some_iff, toOption_eq_some_iff]
    exact h.readBytes (hno.pages e he g name hparse hpage') content
  constructor
  · rintro ⟨hpage, rfl⟩
    exact ⟨h.hasPage hpage, (hread (h.hasPage hpage)).symm⟩
  · rintro ⟨hpage, rfl⟩
    exact ⟨h.hasPage_of hpage (hno.pages e he g name hparse hpage), hread hpage⟩

theorem NewFile.load_iff (h : NewFile at_ t t') {path : Path} (hne : t'.location? path ≠ some at_)
    (overrides : Overrides) :
    Overrides.load t path = .ok overrides ↔ Overrides.load t' path = .ok overrides := by
  have hread (text : String) : t.readText path = .ok text ↔ t'.readText path = .ok text := by
    rw [FileTree.readText_eq_ok_iff, FileTree.readText_eq_ok_iff]
    exact h.readBytes hne _
  unfold Overrides.load
  cases ht : t.readText path with
  | ok text => rw [(hread text).1 ht]
  | error fault =>
    cases ht' : t'.readText path with
    | ok text =>
      rw [(hread text).2 ht'] at ht
      exact absurd ht (by simp)
    | error fault' => simp

theorem NewFile.sameInput (h : NewFile at_ t t') (hno : NoInput t' at_ s o)
    (hsource : ∀ e ∈ s, t.isDirectory (e.sourceDir o.docsRoot) = true) : SameInput s t o t' o where
  source := hsource
  source' e he := (FileTree.isDirectory_alikeBut h.alike _).1 (hsource e he)
  listed _ _ := FileTree.exists_list_alikeBut h.alike _
  pages _ he _ hparse name held := h.pageHolds_iff hno he hparse name held
  entries e _ := by
    have hload := h.load_iff hno.overrides
    unfold overridesFor?
    cases ht : Overrides.load t o.overridesPath with
    | ok overrides => rw [(hload overrides).1 ht]
    | error fault =>
      cases ht' : Overrides.load t' o.overridesPath with
      | ok overrides =>
        rw [(hload overrides).2 ht'] at ht
        exact absurd ht (by simp)
      | error fault' => rfl
  files _ := exists_congr (h.load_iff hno.overrides)

/-- **A new file that is no input leaves the document as it is.** -/
theorem NewFile.documented_iff (h : NewFile at_ t t') (hno : NoInput t' at_ s o) (d : Document) :
    Documented t s o d ↔ Documented t' s o d := by
  constructor
  · exact fun hd => (h.sameInput hno hd.1).documented hd
  · intro hd
    have hsource (e : Environment) (he : e ∈ s) : t.isDirectory (e.sourceDir o.docsRoot) = true :=
      (FileTree.isDirectory_alikeBut h.alike _).2 (hd.1 e he)
    exact (h.sameInput hno hsource).symm.documented hd

end TableCatalog
