import Mathlib
import TableCatalog.Environment
import TableCatalog.Proofs.FileTree.Place

/-!
# Where the pages of an environment are looked for

The directory of an environment is looked for under a root, at the root joined with the directory's
name. If nothing is there the error tells that path, since the name as configured may be found
nowhere. It does not if the root is only another way to write the current directory: then the joined
path leads where the name leads by itself (`FileTree.leadsTo_join`), and the name says enough.

Whether a root is such a one is decided by its parts, while the path that is told is the root as it
was typed with the name behind it. Parts that stay where they are bring the two together: a walk does
not see them, wherever they stand in front of a name.
-/

set_option autoImplicit false

namespace TableCatalog

/-! ## The same way, written differently -/

namespace FileTree

/-- Where the parts of a path lead, whether or not the system takes its text. -/
def leadsTo (t : FileTree) (path : Path) : Except IoFault Spot :=
  walk t maxLinks (t.origin path) path.segments

/-- Seen from a root that stays here, a path leads where it leads by itself. -/
theorem leadsTo_join (t : FileTree) {root path : Path} (hroot : root.StaysHere) :
    t.leadsTo (root.join path) = t.leadsTo path := by
  by_cases hpath : path.isAbsolute = true
  · rw [Path.join_of_isAbsolute hpath]
  · by_cases hempty : root = ""
    · rw [hempty, Path.join_empty]
    · rw [Bool.not_eq_true] at hpath
      obtain ⟨habsolute, front, hsegments, hfront⟩ := Path.join_relative hempty hpath
      have hstays : ∀ part ∈ front, part = "" ∨ part = "." := by
        intro part hpart
        apply hroot.parts
        rcases hfront with hfront | hfront
        · exact hfront ▸ hpart
        · exact hfront ▸ List.mem_append_left _ hpart
      rw [leadsTo, leadsTo, origin, origin, habsolute, hroot.relative, hpath, hsegments,
        walk_skip_stays hstays]

end FileTree

/-! ## What is said of a directory that is not there -/

namespace CatalogError

section Message

variable (name : String) (directory place : Path) (instructions : String)

theorem message_missingSource_none :
    (missingSource name directory none instructions).message =
      "ERROR: " ++ directory ++ " does not exist. To create it, run:\n" ++ instructions := by
  have hwords : " does not exist" ++ ". To create it, run:\n" =
      " does not exist. To create it, run:\n" := by rfl
  calc (missingSource name directory none instructions).message
    _ = "ERROR: " ++ directory ++ " does not exist" ++ "" ++ ". To create it, run:\n" ++
        instructions := rfl
    _ = "ERROR: " ++ directory ++ (" does not exist" ++ ". To create it, run:\n") ++
        instructions := by simp only [String.append_empty, String.append_assoc]
    _ = _ := by rw [hwords]

theorem message_missingSource_some :
    (missingSource name directory (some place) instructions).message =
      "ERROR: " ++ directory ++ " does not exist (looked for " ++ place ++
        "). To create it, run:\n" ++ instructions := by
  have hbefore : " does not exist" ++ " (looked for " = " does not exist (looked for " := by rfl
  have hafter : ")" ++ ". To create it, run:\n" = "). To create it, run:\n" := by rfl
  calc (missingSource name directory (some place) instructions).message
    _ = "ERROR: " ++ directory ++ " does not exist" ++ (" (looked for " ++ place ++ ")") ++
        ". To create it, run:\n" ++ instructions := rfl
    _ = "ERROR: " ++ directory ++ (" does not exist" ++ " (looked for ") ++ place ++
        (")" ++ ". To create it, run:\n") ++ instructions := by simp only [String.append_assoc]
    _ = _ := by rw [hbefore, hafter]

/-- Whatever is told of the place, it stands between the name and the instructions. -/
theorem exists_message_missingSource (told : Option Path) :
    ∃ between, (missingSource name directory told instructions).message =
      "ERROR: " ++ directory ++ between ++ instructions := by
  cases told with
  | none => exact ⟨_, message_missingSource_none name directory instructions⟩
  | some place =>
    refine ⟨" does not exist (looked for " ++ place ++ "). To create it, run:\n", ?_⟩
    rw [message_missingSource_some]
    simp only [String.append_assoc]

end Message

end CatalogError

namespace Environment

variable {e : Environment} {t : FileTree} {root : Path} {err : CatalogError}

/-- `err` says that the directory of an environment is not there, with `told` as the place where it
was looked for. -/
structure Missing (e : Environment) (t : FileTree) (root : Path) (told : Option Path)
    (err : CatalogError) : Prop where
  eq_missingSource : err = .missingSource e.name e.directory told e.instructions
  /-- What was looked at is the root joined with the name. -/
  not_isDirectory : t.isDirectory (root.join e.directory) = false
  /-- Where the name begins at the root of all files, that is the name. -/
  join_eq : e.directory.isAbsolute = true → root.join e.directory = e.directory
  /-- No place is told if the root is the current directory, however it is written. -/
  told_eq_none_iff : told = none ↔ root.StaysHere
  /-- In that case the name leads to the place from the current directory. -/
  leadsTo_eq : root.StaysHere → t.leadsTo (root.join e.directory) = t.leadsTo e.directory
  /-- In any other case the place is told that was looked at. -/
  told_eq : ¬ root.StaysHere → told = some (root.join e.directory)
  message_of_staysHere : root.StaysHere → err.message =
    "ERROR: " ++ e.directory ++ " does not exist. To create it, run:\n" ++ e.instructions
  message_of_not_staysHere : ¬ root.StaysHere → err.message =
    "ERROR: " ++ e.directory ++ " does not exist (looked for " ++ root.join e.directory ++
      "). To create it, run:\n" ++ e.instructions
  /-- The message has the name as it was configured, -/
  directory_infix : e.directory.toList <:+: err.message.toList
  /-- and ends with the instructions as they are. -/
  instructions_suffix : e.instructions.toList <:+ err.message.toList

theorem ensureSourceDir_error_iff :
    e.ensureSourceDir t root = .error err ↔
      t.isDirectory (root.join e.directory) = false ∧
        ∃ told, (root.StaysHere ∧ told = none ∨
            ¬ root.StaysHere ∧ told = some (root.join e.directory)) ∧
          err = .missingSource e.name e.directory told e.instructions := by
  rw [Path.staysHere_iff, ensureSourceDir, sourceDir]
  cases t.isDirectory (root.join e.directory) with
  | true => simp
  | false =>
    cases (root.isCurrent || String.isEmpty root) with
    | true => simp [eq_comm]
    | false => simp [eq_comm]

/-- **An environment whose directory is not there says where it was looked for.** -/
theorem ensureSourceDir_missing (h : e.ensureSourceDir t root = .error err) :
    ∃ told, Missing e t root told err := by
  obtain ⟨hmissing, told, hcases, rfl⟩ := ensureSourceDir_error_iff.1 h
  obtain ⟨between, hmessage⟩ :=
    CatalogError.exists_message_missingSource e.name e.directory e.instructions told
  refine ⟨told, rfl, hmissing, Path.join_of_isAbsolute, ?_, t.leadsTo_join, ?_, ?_, ?_, ?_, ?_⟩
  · rcases hcases with ⟨hstays, rfl⟩ | ⟨hmoves, rfl⟩
    · simp [hstays]
    · simp [hmoves]
  · intro hmoves
    rcases hcases with ⟨hstays, -⟩ | ⟨-, htold⟩
    · exact absurd hstays hmoves
    · exact htold
  · intro hstays
    rcases hcases with ⟨-, rfl⟩ | ⟨hmoves, -⟩
    · exact CatalogError.message_missingSource_none ..
    · exact absurd hstays hmoves
  · intro hmoves
    rcases hcases with ⟨hstays, -⟩ | ⟨-, rfl⟩
    · exact absurd hstays hmoves
    · exact CatalogError.message_missingSource_some ..
  · rw [hmessage, String.toList_append, String.toList_append, String.toList_append]
    exact ⟨_, _, (List.append_assoc ..).symm⟩
  · rw [hmessage, String.toList_append]
    exact List.suffix_append _ _

/-- From an empty directory: another way to write the current directory, and another root. -/
theorem ensureSourceDir_missing_emptyDirectory :
    let e : Environment := ⟨"env", "d", "*", "fetch d", []⟩
    let t : FileTree := ⟨.empty, []⟩
    let short : CatalogError := .missingSource "env" "d" none "fetch d"
    let long : CatalogError := .missingSource "env" "d" (some "x/d") "fetch d"
    (e.ensureSourceDir t "./" = .error short ∧ ∃ told, Missing e t "./" told short) ∧
      e.ensureSourceDir t "x" = .error long ∧ ∃ told, Missing e t "x" told long := by
  intro e t short long
  have hshort : e.ensureSourceDir t "./" = .error short := by
    have hstays : Path.StaysHere "./" := Path.staysHere_iff.2 rfl
    have hmissing : t.isDirectory (Path.join "./" "d") = false := by cbv
    exact ensureSourceDir_error_iff.2 ⟨hmissing, none, Or.inl ⟨hstays, rfl⟩, rfl⟩
  have hlong : e.ensureSourceDir t "x" = .error long := by
    have hmoves : ¬ Path.StaysHere "x" := by
      rw [Path.staysHere_iff]
      decide
    have hmissing : t.isDirectory (Path.join "x" "d") = false := by cbv
    have hjoin : Path.join "x" "d" = "x/d" := by decide
    exact ensureSourceDir_error_iff.2
      ⟨hmissing, some "x/d", Or.inr ⟨hmoves, congrArg some hjoin.symm⟩, rfl⟩
  exact ⟨⟨hshort, ensureSourceDir_missing hshort⟩, hlong, ensureSourceDir_missing hlong⟩

end Environment

end TableCatalog
