import TableCatalog.Path
import TableCatalog.Proofs.Text.Blank

/-!
# The parts of a joined path

A path is cut at its slashes, so the parts of a directory and of a name behind it are the parts of
both. A directory that ends in a slash gets no second one, and then the empty part behind that slash
is missing in the joined path.
-/

set_option autoImplicit false

namespace TableCatalog.Path

/-- A text names one entry of a directory. -/
structure IsName (name : String) : Prop where
  ne_empty : name ≠ ""
  noSlash : '/' ∉ name.toList

theorem noSlash_of_mem_segments {path : Path} {part : String} (h : part ∈ segments path) :
    '/' ∉ part.toList := by
  obtain ⟨piece, hpiece, rfl⟩ := List.mem_map.1 h
  rw [String.toList_ofList]
  exact Text.not_mem_of_mem_pieces hpiece

theorem segments_append (root rest : Path) :
    segments (root ++ "/" ++ rest) = segments root ++ segments rest := by
  have hcut := Text.pieces_append '/' root.toList rest.toList
  rw [segments, segments, segments, ← List.map_append, ← hcut]
  simp

theorem segments_of_noSlash {name : String} (h : '/' ∉ name.toList) : segments name = [name] := by
  rw [segments, Text.pieces_of_not_mem h, List.map_singleton, String.ofList_toList]

theorem IsName.not_isAbsolute {name : String} (h : IsName name) : isAbsolute name = false := by
  cases hc : name.toList with
  | nil => exact absurd (String.toList_eq_nil_iff.1 hc) h.ne_empty
  | cons c cs =>
    have hne : ¬ '/' = c := fun heq => h.noSlash (by rw [hc, heq]; exact List.mem_cons_self)
    simp [isAbsolute, Text.startsWith, hc, List.isPrefixOf, hne]

theorem eq_append_of_endsInSlash {path : Path} (h : endsInSlash path = true) :
    ∃ front, path = front ++ "/" := by
  obtain ⟨front, hfront⟩ := List.getLast?_eq_some_iff.1 (beq_iff_eq.1 h)
  refine ⟨.ofList front, ?_⟩
  rw [← String.toList_inj, hfront]
  simp

theorem isAbsolute_append {root : Path} (hroot : root ≠ "") (rest : String) :
    isAbsolute (root ++ rest) = isAbsolute root := by
  cases hc : root.toList with
  | nil => exact absurd (String.toList_eq_nil_iff.1 hc) hroot
  | cons c cs => simp [isAbsolute, Text.startsWith, hc, List.isPrefixOf]

/-- Joined with a path that does not begin at the root, a directory is there with all of its parts
but an empty last one, and the joined path begins where the directory begins. -/
theorem join_relative {root path : Path} (hroot : root ≠ "") (hpath : isAbsolute path = false) :
    isAbsolute (join root path) = isAbsolute root ∧
      ∃ front, segments (join root path) = front ++ segments path ∧
        (segments root = front ∨ segments root = front ++ [""]) := by
  have hempty : root.isEmpty = false := by simpa using hroot
  rw [join, hpath, hempty, Bool.or_false, if_neg Bool.false_ne_true]
  by_cases hslash : endsInSlash root = true
  · obtain ⟨front, rfl⟩ := eq_append_of_endsInSlash hslash
    rw [if_pos hslash, isAbsolute_append hroot]
    have hfront := segments_append front ""
    rw [String.append_empty] at hfront
    exact ⟨rfl, segments front, segments_append front path, Or.inr hfront⟩
  · rw [if_neg hslash, String.append_assoc, isAbsolute_append hroot]
    refine ⟨rfl, segments root, ?_, Or.inl rfl⟩
    rw [← String.append_assoc, segments_append]

theorem join_name {root : Path} {name : String} (hroot : root ≠ "") (hname : IsName name) :
    isAbsolute (join root name) = isAbsolute root ∧
      ∃ front, segments (join root name) = front ++ [name] ∧
        (segments root = front ∨ segments root = front ++ [""]) := by
  rw [← segments_of_noSlash hname.noSlash]
  exact join_relative hroot hname.not_isAbsolute

/-- Behind one directory, paths that do not begin at the root stay different. -/
theorem join_inj {root name name' : Path} (hname : isAbsolute name = false)
    (hname' : isAbsolute name' = false) : join root name = join root name' ↔ name = name' := by
  rw [join, join, hname, hname', Bool.false_or]
  by_cases hempty : root.isEmpty = true
  · rw [if_pos hempty, if_pos hempty]
  · rw [if_neg hempty, if_neg hempty]
    by_cases hslash : endsInSlash root = true
    · rw [if_pos hslash, if_pos hslash]
      exact String.append_right_inj root
    · rw [if_neg hslash, if_neg hslash]
      exact String.append_right_inj (root ++ "/")

theorem join_of_isAbsolute {root path : Path} (h : isAbsolute path = true) :
    join root path = path := by
  rw [join, h, Bool.true_or, if_pos rfl]

theorem join_empty (path : Path) : join "" path = path := by
  simp [join]

/-! ## Other ways to write the current directory -/

/-- A path that does not begin at the root and whose parts all stay where they are. -/
structure StaysHere (path : Path) : Prop where
  relative : isAbsolute path = false
  parts : ∀ part ∈ segments path, part = "" ∨ part = "."

/-- A path that is not empty stays here if it is the dot, written in whatever way. -/
theorem staysHere_iff {path : Path} :
    StaysHere path ↔ (isCurrent path || path.isEmpty) = true := by
  have hparts : StaysHere path ↔ isAbsolute path = false ∧
      (segments path).all (fun part => part.isEmpty || part == ".") = true := by
    rw [List.all_eq_true]
    simp only [Bool.or_eq_true, String.isEmpty_iff, beq_iff_eq]
    exact ⟨fun h => ⟨h.relative, h.parts⟩, fun h => ⟨h.1, h.2⟩⟩
  by_cases hempty : path = ""
  · subst hempty
    exact iff_of_true ⟨rfl, by decide⟩ rfl
  · rw [hparts, isCurrent]
    simp [hempty]

end TableCatalog.Path
