import TableCatalog.Proofs.FileTree.Place

/-!
# The entries of one directory

A path to a name in a directory is followed from the directory on (`exists_walk_join`), so what
stands under the name decides: a file is what the path leads to, a directory is never a file, and
only a link is followed further.

`Reordered` relates two trees that differ in nothing but the order in which their directories list
their names. Every walk is the same in both, since a walk looks things up and never lists.
-/

set_option autoImplicit false

namespace TableCatalog.FileTree

/-- A name as a directory can hold one: not empty, no dots that stay or go up, no slash in it, and
not too long. -/
structure IsEntryName (name : String) : Prop where
  isName : Path.IsName name
  looksUp : LooksUp name

instance (name : String) : Decidable (IsEntryName name) :=
  decidable_of_iff ((name ≠ "" ∧ '/' ∉ name.toList) ∧ LooksUp name)
    ⟨fun h => ⟨⟨h.1.1, h.1.2⟩, h.2⟩, fun h => ⟨⟨h.isName.ne_empty, h.isName.noSlash⟩, h.looksUp⟩⟩

/-! ## What an entry leads to -/

section Entries

variable {t : FileTree} {directory : Path} {place : Location} {name : String}

/-- A subdirectory is what the path to it leads to, if that path can be followed at all. -/
theorem resolve_join_directory {found : Location × Node} {fault? : Option IoFault}
    (hdirectory : t.resolve directory = .ok (place, .directory)) (hname : IsEntryName name)
    (hentry : t.nodes.get? (place ++ [name]) = some (.directory fault?))
    (hfound : t.resolve (Path.join directory name) = .ok found) :
    found = (place ++ [name], .directory fault?) := by
  obtain ⟨foundAt, node⟩ := found
  obtain ⟨links, hwalk⟩ := walk_of_resolve_join hdirectory hname.isName hfound
  rw [walk_into hname.looksUp hentry, walk, directoryAt_of_get? hentry] at hwalk
  cases hwalk
  rfl

/-- A file can be followed to by every path that the system takes. -/
theorem resolve_join_file_iff {content : ByteArray} {access : Access}
    (hdirectory : t.resolve directory = .ok (place, .directory)) (hname : IsEntryName name)
    (hentry : t.nodes.get? (place ++ [name]) = some (.file content access)) :
    t.resolve (Path.join directory name) = .ok (place ++ [name], .file content access) ↔
      screen (Path.join directory name) = .ok () := by
  obtain ⟨links, hjoin⟩ := exists_walk_join hdirectory
  rw [resolve_eq_ok_iff, hjoin name hname.isName, walk_last hname.looksUp fun node hnode =>
    ⟨content, access, Option.some.inj (hnode.symm.trans hentry)⟩, spotAt, hentry,
    and_iff_left rfl]

end Entries

/-! ## Another order of the entries -/

/-- The same things at the same locations, listed in another order. -/
structure Reordered (t t' : FileTree) : Prop where
  current : t'.current = t.current
  entries : t'.nodes.toList.Perm t.nodes.toList

namespace Reordered

variable {t t' : FileTree} (h : Reordered t t')

include h

theorem get?_eq (place : Location) : t'.nodes.get? place = t.nodes.get? place :=
  OrderedMap.get?_eq_of_perm h.entries place

/-- **A walk is the same whatever the order of the entries.** The induction is on the walk. -/
theorem walk_eq (links : Nat) (here : Location) (todo : List String) :
    walk t' links here todo = walk t links here todo := by
  fun_induction walk t links here todo with
  | case1 links here => rw [walk, directoryAt, directoryAt, h.get?_eq]
  | case2 links here part rest hstay ih => rw [walk, if_pos hstay, ih]
  | case3 links here rest hstay ih => rw [walk, if_neg hstay, if_pos rfl, ih]
  | case4 links here part rest hstay hup hlong =>
    rw [walk, if_neg hstay, if_neg hup, if_pos hlong]
  | case5 _ _ _ _ hstay hup hlong place hn hrest | case6 _ _ _ _ hstay hup hlong place hn hrest
    | case8 _ _ _ _ hstay hup hlong place _ _ hn hrest
    | case9 _ _ _ _ hstay hup hlong place _ _ hn hrest =>
    rw [walk_name hstay hup hlong, h.get?_eq, hn]
    simp [hrest, place]
  | case7 _ _ _ _ hstay hup hlong _ _ hn ih =>
    rw [walk_name hstay hup hlong, h.get?_eq, hn]
    exact ih
  | case10 _ _ _ hstay hup hlong _ _ hn => rw [walk_name hstay hup hlong, h.get?_eq, hn]
  | case11 _ _ _ hstay hup hlong _ _ hn _ ih =>
    rw [walk_name hstay hup hlong, h.get?_eq, hn]
    exact ih

theorem resolve_eq (path : Path) : t'.resolve path = t.resolve path := by
  rw [resolve, resolve, spot, spot, h.walk_eq, origin, origin, h.current]

theorem isFile_eq (path : Path) : t'.isFile path = t.isFile path := by
  rw [isFile, isFile, h.resolve_eq]

theorem perm_namesAt (place : Location) : (t'.namesAt place).Perm (t.namesAt place) :=
  h.entries.filterMap _

end Reordered

end TableCatalog.FileTree
