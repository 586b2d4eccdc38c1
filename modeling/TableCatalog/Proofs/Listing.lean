import Mathlib.Data.List.Forall2
import Mathlib.Data.List.Nodup
import TableCatalog.Listing
import TableCatalog.Proofs.Run

/-!
# Which files are the pages of a directory, and in which order

`listPages` filters what a directory lists and sorts the rest by name. `PageNames` says what comes
out without saying how: the names of all pages, strictly ascending. There is at most one such list
(`PageNames.unique`), because the names in one directory are different; so the order in which a
directory lists its names has no part in the result, which is what everything that follows a
listing rests on.

`PageTexts` puts the texts of files beside their names. It names no path, so it can be carried from
one directory to another (`PageTexts.moved`).
-/

set_option autoImplicit false

namespace TableCatalog

/-! ## Two lists side by side -/

section SideBySide

variable {α β : Type} {R S : α → β → Prop} {as : List α} {bs : List β}

theorem exists_of_forall₂ (h : List.Forall₂ R as bs) {a : α} (ha : a ∈ as) : ∃ b, R a b := by
  induction h with
  | nil => simp at ha
  | cons hab _ ih =>
    rcases List.mem_cons.1 ha with rfl | ha
    · exact ⟨_, hab⟩
    · exact ih ha

theorem forall₂_imp_of_mem (h : List.Forall₂ R as bs) (himp : ∀ a ∈ as, ∀ b, R a b → S a b) :
    List.Forall₂ S as bs :=
  ((List.forall₂_and_left as bs).2 ⟨fun _ ha => ha, h⟩).imp fun a b hab => himp a hab.1 b hab.2

/-- A list beside what is made from it, member by member. -/
theorem forall₂_map_of_forall {f : α → β} (h : ∀ a ∈ as, R a (f a)) :
    List.Forall₂ R as (as.map f) := by
  rw [List.forall₂_map_right_iff, List.forall₂_same]
  exact h

/-- A third list beside the two, with what relates it to both. -/
theorem exists_forall₂_zip {γ : Type} {T : α → γ → Prop} {Q : α → β → γ → Prop}
    (h : List.Forall₂ R as bs) (hstep : ∀ a ∈ as, ∀ b, R a b → ∃ c, T a c ∧ Q a b c) :
    ∃ cs, List.Forall₂ T as cs ∧
      List.Forall₂ (fun p p' => p'.1 = p.1 ∧ Q p.1 p.2 p'.2) (as.zip bs) (as.zip cs) := by
  induction h with
  | nil => exact ⟨[], .nil, .nil⟩
  | @cons a b as bs hab _ ih =>
    obtain ⟨cs, hcs, hzip⟩ := ih fun a' ha' => hstep a' (List.mem_cons_of_mem a ha')
    obtain ⟨c, hc, hQ⟩ := hstep a List.mem_cons_self b hab
    exact ⟨c :: cs, .cons hc hcs, .cons ⟨rfl, hQ⟩ hzip⟩

end SideBySide

/-! ## The names of the pages -/

/-- `name` is listed in a directory and is a page there. -/
def HasPage (t : FileTree) (directory : Path) (g : Glob) (name : String) : Prop :=
  (∃ listed, t.list directory = .ok listed ∧ name ∈ listed) ∧ isPage t directory g name = true

theorem HasPage.isFile {t : FileTree} {directory : Path} {g : Glob} {name : String}
    (h : HasPage t directory g name) : t.isFile (Path.join directory name) = true := by
  have hpage := h.2
  simp only [isPage, Bool.and_eq_true] at hpage
  exact hpage.1.1

/-- `names` are the names of the pages in a directory that can be listed, in ascending order. -/
structure PageNames (t : FileTree) (directory : Path) (g : Glob) (names : List String) : Prop where
  listed : ∃ listed, t.list directory = .ok listed
  ascending : names.Pairwise (· < ·)
  mem_iff (name : String) : name ∈ names ↔ HasPage t directory g name

/-- The files of these names in a directory hold these texts. -/
def PageTexts (t : FileTree) (directory : Path) (names texts : List String) : Prop :=
  List.Forall₂ (fun name text => t.readText (Path.join directory name) = .ok text) names texts

namespace PageTexts

variable {t t' : FileTree} {directory directory' : Path} {names texts texts' : List String}

theorem exists_readText (h : PageTexts t directory names texts) {name : String}
    (hname : name ∈ names) : ∃ text, t.readText (Path.join directory name) = .ok text :=
  exists_of_forall₂ h hname

theorem unique (h : PageTexts t directory names texts) (h' : PageTexts t directory names texts') :
    texts = texts' :=
  List.right_unique_forall₂' (fun _ _ _ ha hb => Except.ok.inj (ha.symm.trans hb)) h h'

/-- Texts are the texts of any place where the files of these names read as they do here. -/
theorem moved (h : PageTexts t directory names texts)
    (hread : ∀ name ∈ names, ∀ text, t.readText (Path.join directory name) = .ok text →
      t'.readText (Path.join directory' name) = .ok text) :
    PageTexts t' directory' names texts := forall₂_imp_of_mem h hread

end PageTexts

/-- A listing that has been divided into files to be read and entries whose names keep them out. -/
theorem PageNames.of_texts {t : FileTree} {directory : Path} {g : Glob}
    {listed names texts : List String} (hlisted : t.list directory = .ok listed)
    (hascending : names.Pairwise (· < ·)) (htexts : PageTexts t directory names texts)
    (hnames : ∀ name ∈ names, name ∈ listed ∧ Text.startsWith "." name.toList = false ∧
      g.accepts name = true)
    (hothers : ∀ name ∈ listed, name ∈ names ∨ Text.startsWith "." name.toList = true ∨
      g.accepts name = false) : PageNames t directory g names where
  listed := ⟨listed, hlisted⟩
  ascending := hascending
  mem_iff name := by
    constructor
    · intro hname
      obtain ⟨hmem, hvisible, haccepts⟩ := hnames name hname
      have hfile : t.isFile (Path.join directory name) = true := by
        obtain ⟨text, htext⟩ := htexts.exists_readText hname
        exact FileTree.isFile_of_readBytes (FileTree.readText_eq_ok_iff.1 htext)
      exact ⟨⟨listed, hlisted, hmem⟩, by simp [isPage, hfile, hvisible, haccepts]⟩
    · rintro ⟨⟨listed', hlisted', hname⟩, hpage⟩
      obtain rfl := Except.ok.inj (hlisted.symm.trans hlisted')
      simp only [isPage, Bool.and_eq_true, Bool.not_eq_true'] at hpage
      -- what is not one of `names` is kept out by its own name
      rcases hothers name hname with hmem | hhidden | hrefused
      · exact hmem
      · simp [hpage.1.2] at hhidden
      · simp [hpage.2] at hrefused

/-! ## Names in a directory -/

/-- A location that is listed in a directory under a name is that name behind the directory. -/
theorem eq_of_listedAs {place key : Location} {name : String}
    (h : (match key.getLast? with
      | some last => if key.dropLast = place then some last else none
      | none => none) = some name) : key = place ++ [name] := by
  cases hlast : key.getLast? with
  | none => rw [hlast] at h; simp at h
  | some last =>
    rw [hlast] at h
    dsimp only at h
    split at h
    · next hplace =>
      rw [Option.some.injEq] at h
      rw [← hplace, ← h]
      exact (List.dropLast_append_getLast? last hlast).symm
    · simp at h

/-- What a directory lists stands behind it. -/
theorem mem_namesAt_iff {t : FileTree} {place : Location} {name : String} :
    name ∈ t.namesAt place ↔ ∃ node, t.nodes.get? (place ++ [name]) = some node := by
  rw [FileTree.namesAt_eq, List.mem_filterMap, ← OrderedMap.mem_keys_iff]
  constructor
  · rintro ⟨key, hkey, hlisted⟩
    exact eq_of_listedAs hlisted ▸ hkey
  · intro hkey
    exact ⟨place ++ [name], hkey, by simp⟩

theorem nodup_namesAt (t : FileTree) (place : Location) : (t.namesAt place).Nodup := by
  rw [FileTree.namesAt_eq]
  refine t.nodes.nodup_keys.filterMap fun key key' name hkey hkey' => ?_
  rw [eq_of_listedAs hkey, eq_of_listedAs hkey']

theorem nodup_of_list {t : FileTree} {directory : Path} {listed : List String}
    (h : t.list directory = .ok listed) : listed.Nodup := by
  obtain ⟨place, -, rfl⟩ := FileTree.list_eq_ok_iff.1 h
  exact nodup_namesAt t place

/-! ## The listing -/

theorem nodup_of_ascending {names : List String} (h : names.Pairwise (· < ·)) : names.Nodup := by
  refine List.Pairwise.imp ?_ h
  intro a b hab heq
  exact String.lt_irrefl b (heq ▸ hab)

/-- Strictly ascending lists with the same members are the same list. -/
theorem eq_of_ascending {names names' : List String} (h : names.Pairwise (· < ·))
    (h' : names'.Pairwise (· < ·)) (hmem : ∀ name, name ∈ names ↔ name ∈ names') :
    names = names' := by
  have hperm : names.Perm names' :=
    (List.perm_ext_iff_of_nodup (nodup_of_ascending h) (nodup_of_ascending h')).2 hmem
  refine hperm.eq_of_pairwise ?_ h h'
  intro a b _ _ hab hba
  exact absurd (String.lt_trans hab hba) (String.lt_irrefl a)

theorem PageNames.unique {t : FileTree} {directory : Path} {g : Glob} {names names' : List String}
    (h : PageNames t directory g names) (h' : PageNames t directory g names') : names = names' :=
  eq_of_ascending h.ascending h'.ascending fun name =>
    (h.mem_iff name).trans (h'.mem_iff name).symm

/-- Sorting different names by `≤` puts them into strictly ascending order. -/
theorem ascending_mergeSort {names : List String} (h : names.Nodup) :
    (names.mergeSort fun a b => decide (a ≤ b)).Pairwise (· < ·) := by
  have hle : (names.mergeSort fun a b => decide (a ≤ b)).Pairwise fun a b =>
      decide (a ≤ b) = true := by
    refine List.pairwise_mergeSort (fun a b c hab hbc => ?_) (fun a b => ?_) names
    · exact decide_eq_true (String.le_trans (of_decide_eq_true hab) (of_decide_eq_true hbc))
    · simpa only [Bool.or_eq_true, decide_eq_true_eq] using String.le_total a b
  -- the order is only `≤`; that no name occurs twice makes it strict
  have hne : (names.mergeSort fun a b => decide (a ≤ b)).Nodup :=
    (List.mergeSort_perm names _).nodup_iff.2 h
  refine (hle.and hne).imp fun {a b} hab => ?_
  rw [← String.not_le]
  exact fun hba => hab.2 (String.le_antisymm (of_decide_eq_true hab.1) hba)

/-- **A listing that succeeds is the pages' names, ascending, behind the directory.** -/
theorem listPages_ok {t : FileTree} {directory : Path} {g : Glob} {files : List Path}
    (h : listPages t directory g = .ok files) :
    ∃ names, PageNames t directory g names ∧ files = names.map (Path.join directory) := by
  unfold listPages at h
  cases hl : t.list directory with
  | error fault => rw [hl] at h; simp at h
  | ok listed =>
    rw [hl] at h
    simp only [Except.ok.injEq] at h
    refine ⟨_, ⟨⟨listed, hl⟩, ascending_mergeSort ((nodup_of_list hl).filter _), fun name => ?_⟩,
      h.symm⟩
    rw [List.mem_mergeSort, List.mem_filter, HasPage]
    simp [hl]

theorem listPages_of_pageNames {t : FileTree} {directory : Path} {g : Glob}
    {names : List String} (hnames : PageNames t directory g names) :
    listPages t directory g = .ok (names.map (Path.join directory)) := by
  obtain ⟨listed, hlisted⟩ := hnames.listed
  cases h : listPages t directory g with
  | error err =>
    unfold listPages at h
    rw [hlisted] at h
    simp at h
  | ok files =>
    obtain ⟨names', hnames', rfl⟩ := listPages_ok h
    rw [hnames.unique hnames']

/-- What is wrong with a directory of pages. -/
def directoryFaults (t : FileTree) (directory : Path) : List CatalogError :=
  match t.list directory with
  | .ok _ => []
  | .error fault => [.unreadableDirectory directory fault]

theorem listPages_reports (t : FileTree) (directory : Path) (g : Glob) :
    Run.Reports (listPages t directory g) (directoryFaults t directory) := by
  unfold listPages directoryFaults
  cases t.list directory with
  | ok listed => exact .ok _
  | error fault => exact .error _ []

/-- A directory that is there can still be at fault: it may refuse to list its names. -/
theorem mem_directoryFaults_iff {t : FileTree} {directory : Path} {err : CatalogError}
    (hthere : t.isDirectory directory = true) :
    err ∈ directoryFaults t directory ↔
      ∃ place fault, t.resolve directory = .ok (place, .directory (some fault)) ∧
        err = .unreadableDirectory directory fault := by
  obtain ⟨place, fault?, hfound⟩ := FileTree.isDirectory_eq_true_iff.1 hthere
  unfold directoryFaults FileTree.list
  rw [hfound]
  cases fault? <;> simp [bind, Except.bind]

theorem exists_pageNames {t : FileTree} {directory : Path} {listed : List String}
    (hlisted : t.list directory = .ok listed) (g : Glob) :
    ∃ names, PageNames t directory g names := by
  have hfaults : directoryFaults t directory = [] := by rw [directoryFaults, hlisted]
  obtain ⟨files, hfiles⟩ := (listPages_reports t directory g).ok_iff.2 hfaults
  obtain ⟨names, hnames, -⟩ := listPages_ok hfiles
  exact ⟨names, hnames⟩

/-- A log does not change a listing. -/
theorem listPages_noted (w : World) (es : List Log.Entry) (directory : Path) (g : Glob) :
    listPages (w.noted es).files directory g = listPages w.files directory g := by
  unfold listPages isPage
  rw [World.list_noted, World.isFile_noted]

theorem hasPage_noted (w : World) (es : List Log.Entry) (directory : Path) (g : Glob)
    (name : String) :
    HasPage (w.noted es).files directory g name ↔ HasPage w.files directory g name := by
  unfold HasPage isPage
  rw [World.list_noted, World.isFile_noted]

theorem pageNames_noted (w : World) (es : List Log.Entry) (directory : Path) (g : Glob)
    (names : List String) :
    PageNames (w.noted es).files directory g names ↔ PageNames w.files directory g names := by
  have hlist := World.list_noted w es directory
  constructor
  · exact fun h => ⟨hlist ▸ h.listed, h.ascending,
      fun name => (h.mem_iff name).trans (hasPage_noted ..)⟩
  · exact fun h => ⟨hlist.symm ▸ h.listed, h.ascending,
      fun name => (h.mem_iff name).trans (hasPage_noted ..).symm⟩

end TableCatalog
