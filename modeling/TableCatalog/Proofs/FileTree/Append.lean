import TableCatalog.FileTree.Basic
import TableCatalog.Proofs.OrderedMap

/-!
# What a tree shows after an append

The log of a run may go to a file of the very tree the run works on. `FileTree.append` is the only
way in which it gets there, so what a run can see of its own log is what this file says: an append
adds a text to the end of one file, and every question about the tree has the answer it had before,
except that a path which leads to that file finds the longer content.

Each lemma is an equation between a question asked of `t.append place text` and the same question
asked of `t`. In particular no append can make a path lead elsewhere, add a name to a directory, or
turn a file that is no text into one (`fromUTF8?_append`).
-/

set_option autoImplicit false

namespace TableCatalog

/-- A node with a text at its end, if it is a file. -/
def Node.extend (text : String) : Node → Node
  | .file content access => .file (content ++ text.toUTF8) access
  | node => node

/-! ## Bytes -/

/-- What is in front of a text is a text if the whole is one: a text never begins in the middle of
a character. -/
theorem isValidUTF8_append_toUTF8 {content : ByteArray} {text : String} :
    (content ++ text.toUTF8).IsValidUTF8 ↔ content.IsValidUTF8 := by
  constructor
  · intro h
    let whole : String := ⟨content ++ text.toUTF8, h⟩
    have hbytes : whole.toByteArray = content ++ text.toUTF8 := rfl
    have hsize : whole.utf8ByteSize = content.size + text.toUTF8.size := by
      rw [← String.size_toByteArray, hbytes, ByteArray.size_append]
    have hend : (⟨content.size⟩ : String.Pos.Raw) ≤ whole.rawEndPos := by
      rw [String.Pos.Raw.le_iff, String.byteIdx_rawEndPos, hsize]
      exact Nat.le_add_right _ _
    have htail : whole.toByteArray.extract content.size whole.utf8ByteSize = text.toUTF8 := by
      rw [hbytes, ByteArray.extract_append_eq_right rfl hsize]
    have hvalid : (⟨content.size⟩ : String.Pos.Raw).IsValid whole :=
      String.Pos.Raw.isValid_iff_isValidUTF8_extract_utf8ByteSize.2
        ⟨hend, htail ▸ text.isValidUTF8⟩
    have hhead := hvalid.isValidUTF8_extract_zero
    rwa [hbytes, ByteArray.extract_append_eq_left rfl] at hhead
  · exact fun h => h.append text.isValidUTF8

theorem fromUTF8?_append (content : ByteArray) (text : String) :
    String.fromUTF8? (content ++ text.toUTF8) = (String.fromUTF8? content).map (· ++ text) := by
  unfold String.fromUTF8?
  by_cases h : content.IsValidUTF8
  · rw [dif_pos h, dif_pos (isValidUTF8_append_toUTF8.2 h), Option.map_some]
    rfl
  · rw [dif_neg h, dif_neg (mt isValidUTF8_append_toUTF8.1 h), Option.map_none]

namespace FileTree

/-- A file reads as the text whose bytes it holds. -/
theorem readText_eq_ok_iff {t : FileTree} {path : Path} {text : String} :
    t.readText path = .ok text ↔ t.readBytes path = .ok text.toUTF8 := by
  unfold readText
  cases t.readBytes path with
  | error fault => simp [bind, Except.bind]
  | ok content =>
    simp only [bind, Except.bind, String.fromUTF8?, Except.ok.injEq]
    by_cases h : content.IsValidUTF8
    · rw [dif_pos h]
      simp only [Except.ok.injEq]
      constructor
      · rintro rfl
        rfl
      · rintro rfl
        rfl
    · rw [dif_neg h]
      simp only [reduceCtorEq, false_iff]
      rintro rfl
      exact h text.isValidUTF8

theorem isFile_eq_true_iff {t : FileTree} {path : Path} :
    t.isFile path = true ↔
      ∃ place content access, t.resolve path = .ok (place, .file content access) := by
  unfold isFile
  cases t.resolve path with
  | error fault => simp
  | ok found =>
    obtain ⟨place, node⟩ := found
    cases node <;> simp

theorem isDirectory_eq_true_iff {t : FileTree} {path : Path} :
    t.isDirectory path = true ↔ ∃ place fault?, t.resolve path = .ok (place, .directory fault?) := by
  unfold isDirectory
  cases t.resolve path with
  | error fault => simp
  | ok found =>
    obtain ⟨place, node⟩ := found
    cases node <;> simp

theorem readBytes_eq_ok_iff {t : FileTree} {path : Path} {content : ByteArray} :
    t.readBytes path = .ok content ↔
      ∃ place access, t.resolve path = .ok (place, .file content access) ∧
        access.readFault? = none := by
  unfold readBytes
  cases t.resolve path with
  | error fault => simp [bind, Except.bind]
  | ok found =>
    obtain ⟨place, node⟩ := found
    cases node with
    | link target | directory fault? => simp [bind, Except.bind]
    | file held access =>
      cases h : access.readFault? with
      | none => simp [bind, Except.bind, h]
      | some fault => simp +contextual [bind, Except.bind, h]

theorem list_eq_ok_iff {t : FileTree} {path : Path} {listed : List String} :
    t.list path = .ok listed ↔
      ∃ place, t.resolve path = .ok (place, .directory) ∧ listed = t.namesAt place := by
  unfold list
  cases t.resolve path with
  | error fault => simp [bind, Except.bind]
  | ok found =>
    obtain ⟨place, node⟩ := found
    cases node with
    | file content access | link target => simp [bind, Except.bind]
    | directory fault? => cases fault? <;> simp [bind, Except.bind, eq_comm]

/-- What can be read is a file. -/
theorem isFile_of_readBytes {t : FileTree} {path : Path} {content : ByteArray}
    (h : t.readBytes path = .ok content) : t.isFile path = true := by
  obtain ⟨place, access, hfound, -⟩ := readBytes_eq_ok_iff.1 h
  exact isFile_eq_true_iff.2 ⟨place, content, access, hfound⟩

/-- What can be listed is a directory. -/
theorem isDirectory_of_list {t : FileTree} {path : Path} {listed : List String}
    (h : t.list path = .ok listed) : t.isDirectory path = true := by
  obtain ⟨place, hfound, -⟩ := list_eq_ok_iff.1 h
  exact isDirectory_eq_true_iff.2 ⟨place, none, hfound⟩

variable (t : FileTree) (at_ : Location) (text : String)

/-! ## Nodes -/

theorem get?_append (place : Location) :
    (t.append at_ text).nodes.get? place =
      (t.nodes.get? place).map fun node => if at_ = place then node.extend text else node := by
  unfold append
  by_cases h : at_ = place
  · subst h
    cases hn : t.nodes.get? at_ with
    | none => simp [hn]
    | some node =>
      cases node with
      | file content => simp [FileTree.place, OrderedMap.get?_insert, Node.extend]
      | link target => simp [hn, Node.extend]
      | directory => simp [hn, Node.extend]
  · have hid : (fun node : Node => if at_ = place then node.extend text else node) = id := by
      funext node; rw [if_neg h]; rfl
    rw [hid, Option.map_id_fun, id]
    split
    · exact (OrderedMap.get?_insert ..).trans (if_neg h)
    · rfl

theorem keys_append : (t.append at_ text).nodes.keys = t.nodes.keys := by
  unfold append
  split
  · next content hn =>
    change (t.nodes.insert at_ _).keys = _
    have hmem : at_ ∈ t.nodes.keys := OrderedMap.mem_keys_iff.2 ⟨_, hn⟩
    rw [OrderedMap.keys_insert, eraseDups_concat, if_pos hmem,
      eraseDups_of_nodup t.nodes.nodup_keys]
  · rfl

theorem current_append : (t.append at_ text).current = t.current := by
  unfold append
  split <;> rfl

theorem directoryAt_append (place : Location) :
    (t.append at_ text).directoryAt place = t.directoryAt place := by
  unfold directoryAt
  rw [get?_append]
  cases t.nodes.get? place with
  | none => rfl
  | some node => by_cases h : at_ = place <;> cases node <;> simp [h, Node.extend]

/-- What a walk finds where it ends is a directory. -/
theorem directoryAt_eq (place : Location) : ∃ fault?, t.directoryAt place = .directory fault? := by
  unfold directoryAt
  split
  · exact ⟨_, rfl⟩
  · exact ⟨none, rfl⟩

/-! ## Following a path -/

/-- A spot whose node has a text at its end, if it is the file at `at_`. -/
def Spot.extend : Spot → Spot
  | .occupied place node => .occupied place (if at_ = place then node.extend text else node)
  | .vacant place => .vacant place

/-- What a walk does with a name: the node of that name decides. -/
theorem walk_name {t : FileTree} {links : Nat} {here : Location} {part : String}
    {rest : List String} (hstay : ¬ (part.isEmpty || decide (part = ".")) = true)
    (hup : ¬ part = "..") (hlong : ¬ maxName < part.utf8ByteSize) :
    walk t links here (part :: rest) =
      match t.nodes.get? (here ++ [part]) with
      | none =>
        if rest.isEmpty then .ok (.vacant (here ++ [part])) else .error .notFound
      | some (.directory _) => walk t links (here ++ [part]) rest
      | some (.file content access) =>
        if rest.isEmpty then .ok (.occupied (here ++ [part]) (.file content access))
        else .error .notDirectory
      | some (.link target) =>
        match links with
        | 0 => .error .tooManyLinks
        | n + 1 =>
          walk t n (if Path.isAbsolute target then [] else here)
            (Path.segments target ++ rest) := by
  have hname := walk.eq_2 t links here part rest
  rw [if_neg hstay, if_neg hup, if_neg hlong] at hname
  exact hname

/-- **A walk after an append is the walk before it.** The induction is on the walk itself: no
branch of it looks at the content of a file, so only the spot it ends at can differ. -/
theorem walk_append (links : Nat) (here : Location) (todo : List String) :
    walk (t.append at_ text) links here todo =
      (walk t links here todo).map (Spot.extend at_ text) := by
  fun_induction walk t links here todo with
  | case1 links here =>
    obtain ⟨fault?, hdirectory⟩ := directoryAt_eq t here
    rw [walk, directoryAt_append, hdirectory]
    simp [Except.map, Spot.extend, Node.extend]
  | case2 links here part rest hstay ih => rw [walk, if_pos hstay, ih]
  | case3 links here rest hstay ih => rw [walk, if_neg hstay, if_pos rfl, ih]
  | case4 links here part rest hstay hup hlong =>
    rw [walk, if_neg hstay, if_neg hup, if_pos hlong]
    rfl
  | case5 links here part rest hstay hup hlong place hn hrest =>
    rw [walk_name hstay hup hlong, get?_append, hn]
    simp [hrest, Except.map, Spot.extend, place]
  | case6 links here part rest hstay hup hlong place hn hrest =>
    rw [walk_name hstay hup hlong, get?_append, hn]
    simp [hrest, Except.map]
  | case7 links here part rest hstay hup hlong place fault? hn ih =>
    rw [walk_name hstay hup hlong, get?_append, hn]
    simp only [Option.map_some, Node.extend, ite_self]
    exact ih
  | case8 links here part rest hstay hup hlong place content access hn hrest =>
    rw [walk_name hstay hup hlong, get?_append, hn]
    by_cases h : at_ = here ++ [part] <;>
      simp [hrest, h, Except.map, Spot.extend, Node.extend, place]
  | case9 links here part rest hstay hup hlong place content access hn hrest =>
    rw [walk_name hstay hup hlong, get?_append, hn]
    by_cases h : at_ = here ++ [part] <;> simp [hrest, h, Except.map, Node.extend]
  | case10 here part rest hstay hup hlong place target hn =>
    rw [walk_name hstay hup hlong, get?_append, hn]
    simp [Except.map, Node.extend]
  | case11 here part rest hstay hup hlong place target hn links ih =>
    rw [walk_name hstay hup hlong, get?_append, hn]
    simp only [Option.map_some, Node.extend, ite_self]
    exact ih

theorem resolve_append (path : Path) :
    (t.append at_ text).resolve path =
      (t.resolve path).map fun found =>
        (found.1, if at_ = found.1 then found.2.extend text else found.2) := by
  unfold resolve spot origin
  rw [current_append]
  cases screen path with
  | error fault => rfl
  | ok _ =>
    simp only [bind, Except.bind]
    rw [walk_append]
    cases walk t maxLinks _ path.segments with
    | error fault => rfl
    | ok spot =>
      cases spot with
      | occupied place node => rfl
      | vacant place => rfl

theorem target_append (path : Path) : (t.append at_ text).target path = t.target path := by
  unfold target origin
  rw [current_append]
  cases screen path with
  | error fault => rfl
  | ok _ =>
    simp only [bind, Except.bind, walk_append]
    split
    · cases walk t maxLinks _ _ with
      | error fault => rfl
      | ok spot =>
        cases spot with
        | occupied place node =>
          by_cases h : at_ = place <;> cases node <;> simp [Except.map, Spot.extend, Node.extend, h]
        | vacant place => rfl
    · cases walk t maxLinks _ _ with
      | error fault => rfl
      | ok spot =>
        cases spot with
        | occupied place node =>
          by_cases h : at_ = place <;> cases node <;> simp [Except.map, Spot.extend, Node.extend, h]
        | vacant place => rfl

/-! ## Looking -/

theorem isFile_append (path : Path) : (t.append at_ text).isFile path = t.isFile path := by
  unfold isFile
  rw [resolve_append]
  cases t.resolve path with
  | error fault => rfl
  | ok found =>
    obtain ⟨place, node⟩ := found
    by_cases h : at_ = place <;> cases node <;> simp [Except.map, h, Node.extend]

/-- The names in a directory depend on where things stand and not on what they hold. -/
theorem namesAt_eq (place : Location) :
    t.namesAt place =
      t.nodes.keys.filterMap fun key =>
        match key.getLast? with
        | some name => if key.dropLast = place then some name else none
        | none => none := by
  rw [namesAt, OrderedMap.keys, List.filterMap_map]
  rfl

theorem list_append (path : Path) : (t.append at_ text).list path = t.list path := by
  unfold list
  rw [resolve_append]
  cases t.resolve path with
  | error fault => rfl
  | ok found =>
    obtain ⟨place, node⟩ := found
    by_cases h : at_ = place <;> cases node <;>
      simp [Except.map, bind, Except.bind, h, Node.extend, namesAt_eq, keys_append]

/-- Where a path leads, if it leads to something that is there. -/
def location? (path : Path) : Option Location := (t.resolve path).toOption.map Prod.fst

theorem location?_append (path : Path) :
    (t.append at_ text).location? path = t.location? path := by
  unfold location?
  rw [resolve_append]
  cases t.resolve path <;> rfl

theorem readBytes_append (path : Path) :
    (t.append at_ text).readBytes path =
      (t.readBytes path).map fun held =>
        if t.location? path = some at_ then held ++ text.toUTF8 else held := by
  unfold readBytes location?
  rw [resolve_append]
  cases t.resolve path with
  | error fault => rfl
  | ok found =>
    obtain ⟨place, node⟩ := found
    have hplace : place = at_ ↔ at_ = place := eq_comm
    cases node with
    | link target | directory fault? =>
      by_cases h : at_ = place <;> simp [Except.map, bind, Except.bind, h, Node.extend]
    | file content access =>
      -- only here can the content change, and the access stays
      cases hread : access.readFault? <;> by_cases h : at_ = place <;>
        simp [Except.map, bind, Except.bind, hread, h, hplace, Node.extend, Except.toOption]

/-- **What a file reads as after an append**: what it did before, with the text behind it if this
is the file that was appended to. What could not be read still cannot, for the same reason. -/
theorem readText_append (path : Path) :
    (t.append at_ text).readText path =
      (t.readText path).map fun held =>
        if t.location? path = some at_ then held ++ text else held := by
  unfold readText
  rw [readBytes_append]
  cases t.readBytes path with
  | error fault => rfl
  | ok content =>
    simp only [Except.map, bind, Except.bind]
    by_cases h : t.location? path = some at_
    · simp only [if_pos h, fromUTF8?_append]
      cases String.fromUTF8? content <;> rfl
    · simp only [if_neg h]
      cases String.fromUTF8? content <;> rfl

end FileTree

end TableCatalog
