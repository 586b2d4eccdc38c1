import Mathlib
import TableCatalog.Proofs.FileTree.Entries
import TableCatalog.Proofs.Listing
import TableCatalog.Proofs.Text.ByteOrder

/-!
# The pages that are found

Four conditions decide about an entry of a directory: it stands directly in it, it is a file once
links are followed, its name does not begin with a dot, and the name matches the pattern.
`hasPage_iff` puts them side by side, and `Discovered` says of a listing that it is these entries,
each once, in the order of the bytes of their names. It also says what the conditions come to where
they could be taken for others: a subdirectory is left out with all that is below it, and a file is
left out only for its name or for a path that the system does not take.
-/

set_option autoImplicit false

namespace TableCatalog

theorem startsWith_dot_iff (cs : List Char) :
    Text.startsWith "." cs = true ↔ cs.head? = some '.' := by
  cases cs with
  | nil => simp [Text.startsWith]
  | cons c cs =>
    rw [List.head?_cons, Option.some.injEq, eq_comm (a := c)]
    simp [Text.startsWith, List.isPrefixOf]

theorem startsWith_dot_eq_false_iff {cs : List Char} :
    Text.startsWith "." cs = false ↔ cs.head? ≠ some '.' := by
  rw [Ne, ← startsWith_dot_iff, Bool.not_eq_true]

/-- What the listing of a directory at `place` has to be: `names` are the names in it. -/
structure Discovered (t : FileTree) (directory : Path) (place : Location) (g : Glob)
    (names : List String) : Prop where
  listed : listPages t directory g = .ok (names.map (Path.join directory))
  mem_iff : ∀ name, name ∈ names ↔
    (∃ node, t.nodes.get? (place ++ [name]) = some node) ∧
    (∃ at_ content access,
      t.resolve (Path.join directory name) = .ok (at_, .file content access)) ∧
    name.toList.head? ≠ some '.' ∧ g.accepts name = true
  ascending : names.Pairwise fun a b => Text.bytes a < Text.bytes b
  nodup : (names.map (Path.join directory)).Nodup
  noSubdirectory : ∀ name fault?, t.nodes.get? (place ++ [name]) = some (.directory fault?) →
    name ∉ names
  nothingBelow : ∀ name ∈ t.namesAt place, ∀ rest,
    Path.join directory (name ++ "/" ++ rest) ∉ names.map (Path.join directory)
  mem_iff_of_file : ∀ name content access,
    t.nodes.get? (place ++ [name]) = some (.file content access) →
    (name ∈ names ↔ FileTree.screen (Path.join directory name) = .ok () ∧
      name.toList.head? ≠ some '.' ∧ g.accepts name = true)
  reordered : ∀ t', t.Reordered t' → listPages t' directory g = listPages t directory g

section Found

variable {t t' : FileTree} {directory : Path} {place : Location} {g : Glob} {name : String}

/-- **What makes an entry a page.** -/
theorem hasPage_iff (hdirectory : t.resolve directory = .ok (place, .directory)) :
    HasPage t directory g name ↔
      (∃ node, t.nodes.get? (place ++ [name]) = some node) ∧
      (∃ at_ content access,
        t.resolve (Path.join directory name) = .ok (at_, .file content access)) ∧
      name.toList.head? ≠ some '.' ∧ g.accepts name = true := by
  have hlisted : (∃ listed, t.list directory = .ok listed ∧ name ∈ listed) ↔
      ∃ node, t.nodes.get? (place ++ [name]) = some node := by
    rw [← mem_namesAt_iff, FileTree.list_eq_ok_iff.2 ⟨place, hdirectory, rfl⟩]
    simp
  rw [HasPage, hlisted, isPage, Bool.and_eq_true, Bool.and_eq_true, Bool.not_eq_true',
    FileTree.isFile_eq_true_iff, startsWith_dot_eq_false_iff, and_assoc]

/-- A file is kept out by its name, or by a path to it that the system does not take. -/
theorem hasPage_file_iff {content : ByteArray} {access : Access}
    (hdirectory : t.resolve directory = .ok (place, .directory))
    (hname : FileTree.IsEntryName name)
    (hentry : t.nodes.get? (place ++ [name]) = some (.file content access)) :
    HasPage t directory g name ↔ FileTree.screen (Path.join directory name) = .ok () ∧
      name.toList.head? ≠ some '.' ∧ g.accepts name = true := by
  have htaken : (∃ at_ content' access',
      t.resolve (Path.join directory name) = .ok (at_, .file content' access')) ↔
      FileTree.screen (Path.join directory name) = .ok () := by
    constructor
    · rintro ⟨at_, content', access', hfound⟩
      exact (FileTree.resolve_eq_ok_iff.1 hfound).1
    · intro hscreen
      exact ⟨_, _, _, (FileTree.resolve_join_file_iff hdirectory hname hentry).2 hscreen⟩
  rw [hasPage_iff hdirectory, htaken, and_iff_right ⟨_, hentry⟩]

theorem not_hasPage_of_directory {fault? : Option IoFault}
    (hdirectory : t.resolve directory = .ok (place, .directory))
    (hname : FileTree.IsEntryName name)
    (hentry : t.nodes.get? (place ++ [name]) = some (.directory fault?)) :
    ¬ HasPage t directory g name := by
  intro hpage
  obtain ⟨-, ⟨at_, content, access, hfile⟩, -⟩ := (hasPage_iff hdirectory).1 hpage
  cases FileTree.resolve_join_directory hdirectory hname hentry hfile

/-- The order in which a directory lists its names has no part in which of them are pages and in
which order these come. -/
theorem listPages_reordered (h : t.Reordered t') (directory : Path) (g : Glob) :
    listPages t' directory g = listPages t directory g := by
  have hpage : isPage t' directory g = isPage t directory g := by
    funext name
    rw [isPage, isPage, h.isFile_eq]
  have hsorted (place : Location) :
      ((t'.namesAt place).filter (isPage t' directory g)).mergeSort (fun a b => decide (a ≤ b)) =
        ((t.namesAt place).filter (isPage t directory g)).mergeSort fun a b => decide (a ≤ b) := by
    refine eq_of_ascending (ascending_mergeSort ((nodup_namesAt t' place).filter _))
      (ascending_mergeSort ((nodup_namesAt t place).filter _)) fun name => ?_
    rw [List.mem_mergeSort, List.mem_mergeSort, List.mem_filter, List.mem_filter, hpage,
      (h.perm_namesAt place).mem_iff]
  unfold listPages FileTree.list
  rw [h.resolve_eq]
  cases t.resolve directory with
  | error fault => rfl
  | ok found =>
    obtain ⟨place, node⟩ := found
    cases node with
    | file content access | link target => rfl
    | directory fault? =>
      cases fault? with
      | none => simp only [bind, Except.bind, hsorted]
      | some fault => rfl

/-- **A listing is exactly the visible files of a directory whose names match**, links followed,
each once and in the order of the bytes of their names, whatever the order in which the directory
lists its entries. The directory must let its names be listed; whether the files can be read makes
no difference. -/
theorem exists_discovered (hdirectory : t.resolve directory = .ok (place, .directory))
    (hentries : ∀ name ∈ t.namesAt place, FileTree.IsEntryName name) (g : Glob) :
    ∃ names, Discovered t directory place g names := by
  have hlisted : t.list directory = .ok (t.namesAt place) :=
    FileTree.list_eq_ok_iff.2 ⟨place, hdirectory, rfl⟩
  obtain ⟨names, hnames⟩ := exists_pageNames hlisted g
  have hmem (name : String) := (hnames.mem_iff name).trans (hasPage_iff hdirectory)
  have hentry {name : String} (hname : name ∈ names) : FileTree.IsEntryName name :=
    hentries name (mem_namesAt_iff.2 ((hmem name).1 hname).1)
  have hrelative {name : String} (hname : name ∈ names) : Path.isAbsolute name = false :=
    (hentry hname).isName.not_isAbsolute
  refine ⟨names, listPages_of_pageNames hnames, hmem,
    hnames.ascending.imp Text.lt_iff_bytes_lt.1, ?nodup, ?noSubdirectory, ?nothingBelow,
    ?mem_iff_of_file, fun t' h => listPages_reordered h directory g⟩
  case nodup =>
    exact (nodup_of_ascending hnames.ascending).map_on fun a ha b hb hjoin =>
      (Path.join_inj (hrelative ha) (hrelative hb)).1 hjoin
  case noSubdirectory =>
    intro name fault? hsub hname
    exact not_hasPage_of_directory hdirectory (hentry hname) hsub ((hnames.mem_iff name).1 hname)
  case nothingBelow =>
    -- what is below an entry has a slash behind the entry's name, and no name has a slash
    intro sub hsub rest hbelow
    have hsub := (hentries sub hsub).isName
    obtain ⟨name, hname, hjoin⟩ := List.mem_map.1 hbelow
    have habsolute : Path.isAbsolute (sub ++ "/" ++ rest) = false := by
      rw [String.append_assoc, Path.isAbsolute_append hsub.ne_empty, hsub.not_isAbsolute]
    obtain rfl := (Path.join_inj (hrelative hname) habsolute).1 hjoin
    exact (hentry hname).isName.noSlash (by simp)
  case mem_iff_of_file =>
    intro name content access hfile
    have hname := hentries name (mem_namesAt_iff.2 ⟨_, hfile⟩)
    rw [hnames.mem_iff, hasPage_file_iff hdirectory hname hfile]

/-- A directory that lists a file, a hidden one, a subdirectory with a file in it and a link to a
file outside. -/
def oneOfEachEntry : FileTree where
  nodes := ⟨[(["d"], .directory), (["d", "b"], .file .empty), (["d", ".b"], .file .empty),
    (["d", "s"], .directory), (["d", "s", "b"], .file .empty), (["d", "a"], .link "../x"),
    (["x"], .file .empty)], by decide⟩
  current := []

theorem exists_discovered_oneOfEachEntry :
    oneOfEachEntry.resolve "d" = .ok (["d"], .directory) ∧
      (∀ name ∈ oneOfEachEntry.namesAt ["d"], FileTree.IsEntryName name) ∧
      compilePattern "*" = .ok ⟨[.star]⟩ ∧
      listPages oneOfEachEntry "d" ⟨[.star]⟩ = .ok ["d/a", "d/b"] ∧
      ∃ names, Discovered oneOfEachEntry "d" ["d"] ⟨[.star]⟩ names := by
  have hdirectory : oneOfEachEntry.resolve "d" = .ok (["d"], .directory) := by cbv
  have hentries : ∀ name ∈ oneOfEachEntry.namesAt ["d"], FileTree.IsEntryName name := by
    decide
  exact ⟨hdirectory, hentries, by cbv, by cbv, exists_discovered hdirectory hentries _⟩

end Found

end TableCatalog
