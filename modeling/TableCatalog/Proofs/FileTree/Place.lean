import TableCatalog.Proofs.FileTree.Append
import TableCatalog.Proofs.Path

/-!
# Two trees that differ in one file

Opening a file that is not there and writing one change a tree at one place, where a file stood or
nothing did. `AlikeBut` says so of two trees, and it is symmetric: what the first shows the second
shows too, except at that place, and the other way round. So a walk is compared once
(`walk_alikeBut`) and each question about the tree is answered in both directions from that.

What a walk says of its end is what stands there (`walk_vacant`, `walk_file`). A free name is one
that a directory can list, and a listed name leads from its directory to its place (`resolve_join`).
-/

set_option autoImplicit false

namespace TableCatalog.FileTree

/-- Two trees with the same nodes everywhere but at one place, where each has nothing or a file that
can be read and written. -/
structure AlikeBut (at_ : Location) (t t' : FileTree) : Prop where
  current : t.current = t'.current
  elsewhere : ∀ place, place ≠ at_ → t.nodes.get? place = t'.nodes.get? place
  file : ∀ node, t.nodes.get? at_ = some node → ∃ content, node = .file content
  file' : ∀ node, t'.nodes.get? at_ = some node → ∃ content, node = .file content

/-- What a walk finds that looks up a place. -/
def spotAt (t : FileTree) (place : Location) : Spot :=
  match t.nodes.get? place with
  | some node => .occupied place node
  | none => .vacant place

/-- A spot of one tree as it is in one that is alike but at a place. A walk does not look up the
directory it stands in. -/
def Spot.moved (at_ : Location) (t' : FileTree) : Spot → Spot
  | .occupied place (.directory fault?) => .occupied place (.directory fault?)
  | .occupied place node => if place = at_ then t'.spotAt at_ else .occupied place node
  | .vacant place => if place = at_ then t'.spotAt at_ else .vacant place

/-- A part of a path that a walk looks up. -/
structure LooksUp (part : String) : Prop where
  stays : ¬ (part.isEmpty || decide (part = ".")) = true
  up : ¬ part = ".."
  short : ¬ maxName < part.utf8ByteSize

instance (part : String) : Decidable (LooksUp part) :=
  decidable_of_iff (¬ (part.isEmpty || decide (part = ".")) = true ∧ ¬ part = ".." ∧
    ¬ maxName < part.utf8ByteSize) ⟨fun h => ⟨h.1, h.2.1, h.2.2⟩, fun h => ⟨h.1, h.2, h.3⟩⟩

section AlikeBut

variable {at_ : Location} {t t' : FileTree}

theorem AlikeBut.symm (h : AlikeBut at_ t t') : AlikeBut at_ t' t where
  current := h.current.symm
  elsewhere place hne := (h.elsewhere place hne).symm
  file := h.file'
  file' := h.file

/-- What is no file stands in both trees. -/
theorem AlikeBut.ne_of_get? (h : AlikeBut at_ t t') {place : Location} {node : Node}
    (hn : t.nodes.get? place = some node) (hfile : ∀ content, node ≠ .file content) :
    place ≠ at_ := by
  rintro rfl
  obtain ⟨content, hnode⟩ := h.file node hn
  exact hfile content hnode

theorem directoryAt_of_get? {place : Location} {fault? : Option IoFault}
    (hn : t.nodes.get? place = some (.directory fault?)) :
    t.directoryAt place = .directory fault? := by
  rw [directoryAt, hn]

/-- A walk that ends in a directory finds the same directory in both trees. -/
theorem AlikeBut.directoryAt_eq (h : AlikeBut at_ t t') (place : Location) :
    t'.directoryAt place = t.directoryAt place := by
  have hnone {t : FileTree} {place : Location}
      (hfile : ∀ node, t.nodes.get? place = some node → ∃ content, node = .file content) :
      t.directoryAt place = .directory := by
    unfold directoryAt
    cases hn : t.nodes.get? place with
    | none => rfl
    | some node =>
      obtain ⟨content, rfl⟩ := hfile node hn
      rfl
  by_cases hat : place = at_
  · rw [hat, hnone h.file, hnone h.file']
  · rw [directoryAt, directoryAt, h.elsewhere place hat]

theorem alikeBut_place (h : ∀ node, t.nodes.get? at_ = some node → ∃ content, node = .file content)
    (content : ByteArray) : AlikeBut at_ t (t.place at_ (.file content)) where
  current := rfl
  elsewhere place hne := by
    rw [FileTree.place, OrderedMap.get?_insert, if_neg hne.symm]
  file := h
  file' node hnode := by
    rw [FileTree.place, OrderedMap.get?_insert, if_pos rfl] at hnode
    exact ⟨content, (Option.some.inj hnode).symm⟩

theorem get?_place_self (content : ByteArray) :
    (t.place at_ (.file content)).nodes.get? at_ = some (.file content) := by
  rw [FileTree.place, OrderedMap.get?_insert, if_pos rfl]

/-! ## Following a path -/

/-- The last part of a path leads to what stands at its place. -/
theorem walk_last {links : Nat} {here : Location} {part : String} (h : LooksUp part)
    (hfile : ∀ node, t.nodes.get? (here ++ [part]) = some node →
      ∃ content access, node = .file content access) :
    walk t links here [part] = .ok (t.spotAt (here ++ [part])) := by
  rw [walk_name h.stays h.up h.short, spotAt]
  cases hn : t.nodes.get? (here ++ [part]) with
  | none => rfl
  | some node =>
    obtain ⟨content, access, rfl⟩ := hfile node hn
    rfl

theorem walk_into {links : Nat} {here : Location} {part : String} {rest : List String}
    {fault? : Option IoFault} (h : LooksUp part)
    (hn : t.nodes.get? (here ++ [part]) = some (.directory fault?)) :
    walk t links here (part :: rest) = walk t links (here ++ [part]) rest := by
  rw [walk_name h.stays h.up h.short, hn]

/-- **A walk that gets through in one of two alike trees gets through in the other**, and what it
ends at is the same but at the one place. -/
theorem walk_alikeBut (h : AlikeBut at_ t t') {links : Nat} {here : Location} {todo : List String}
    {spot : Spot} (hwalk : walk t links here todo = .ok spot) :
    walk t' links here todo = .ok (spot.moved at_ t') := by
  -- the end of a walk at a looked-up place, with whatever stands there in the other tree
  have hend {links : Nat} {here : Location} {part : String} {rest : List String}
      (hpart : LooksUp part) (hrest : rest.isEmpty = true) (hat : here ++ [part] = at_) :
      walk t' links here (part :: rest) = .ok (t'.spotAt at_) := by
    obtain rfl := List.isEmpty_iff.1 hrest
    rw [walk_last hpart fun node hnode => ?_, hat]
    obtain ⟨content, hfile⟩ := h.file' node (hat ▸ hnode)
    exact ⟨content, .full, hfile⟩
  fun_induction walk t links here todo with
  | case1 links here =>
    obtain rfl := Except.ok.inj hwalk
    obtain ⟨fault?, hdirectory⟩ := directoryAt_eq t here
    rw [walk, h.directoryAt_eq, hdirectory]
    rfl
  | case2 links here part rest hstay ih =>
    rw [walk, if_pos hstay]
    exact ih hwalk
  | case3 links here rest hstay ih =>
    rw [walk, if_neg hstay, if_pos rfl]
    exact ih hwalk
  | case4 | case6 | case9 | case10 => simp at hwalk
  | case5 links here part rest hstay hup hlong place hn hrest
    | case8 links here part rest hstay hup hlong place content access hn hrest =>
    obtain rfl := Except.ok.inj hwalk
    by_cases hat : here ++ [part] = at_
    · rw [hend ⟨hstay, hup, hlong⟩ hrest hat]
      simp [Spot.moved, place, hat]
    · rw [walk_name hstay hup hlong, ← h.elsewhere _ hat, hn]
      simp [hrest, Spot.moved, place, hat]
  -- a directory or a link stands in both trees
  | case7 links here part rest hstay hup hlong place fault? hn ih
    | case11 here part rest hstay hup hlong place target hn links ih =>
    have hat : here ++ [part] ≠ at_ := h.ne_of_get? hn (by simp)
    rw [walk_name hstay hup hlong, ← h.elsewhere _ hat, hn]
    exact ih hwalk

end AlikeBut

section Ends

variable {t : FileTree} {links : Nat} {here : Location} {todo : List String}

theorem walk_file {place : Location} {content : ByteArray} {access : Access}
    (h : walk t links here todo = .ok (.occupied place (.file content access))) :
    t.nodes.get? place = some (.file content access) := by
  fun_induction walk t links here todo with
  | case1 links here =>
    obtain ⟨fault?, hdirectory⟩ := directoryAt_eq t here
    simp [hdirectory] at h
  | case4 | case5 | case6 | case9 | case10 => simp at h
  | case2 _ _ _ _ _ ih | case3 _ _ _ _ ih | case7 _ _ _ _ _ _ _ _ _ _ ih
    | case11 _ _ _ _ _ _ _ _ _ _ ih => exact ih h
  | case8 _ _ _ _ _ _ _ _ _ _ hn _ =>
    simp only [Except.ok.injEq, Spot.occupied.injEq, Node.file.injEq] at h
    obtain ⟨rfl, rfl, rfl⟩ := h
    exact hn

/-- **A free place** is a name, which a directory can list, and nothing stands there. -/
theorem walk_vacant {place : Location} (hparts : ∀ part ∈ todo, '/' ∉ part.toList)
    (h : walk t links here todo = .ok (.vacant place)) :
    t.nodes.get? place = none ∧ ∃ directory name, place = directory ++ [name] ∧ LooksUp name ∧
      Path.IsName name := by
  fun_induction walk t links here todo with
  | case1 | case4 | case6 | case8 | case9 | case10 => simp at h
  | case2 _ _ _ _ _ ih | case3 _ _ _ _ ih | case7 _ _ _ _ _ _ _ _ _ _ ih =>
    exact ih (fun part hpart => hparts part (List.mem_cons_of_mem _ hpart)) h
  | case5 links here part rest hstay hup hlong place' hn hrest =>
    obtain rfl : place' = place := by simpa using h
    refine ⟨hn, here, part, rfl, ⟨hstay, hup, hlong⟩, ?_, hparts part List.mem_cons_self⟩
    rintro rfl
    exact hstay rfl
  | case11 here part rest hstay hup hlong place' target hn links ih =>
    refine ih (fun part' hpart => ?_) h
    rcases List.mem_append.1 hpart with hpart | hpart
    · exact Path.noSlash_of_mem_segments hpart
    · exact hparts part' (List.mem_cons_of_mem _ hpart)

/-- A walk that has come to a directory goes on from there. -/
theorem walk_through {place : Location} {fault? : Option IoFault}
    (h : walk t links here todo = .ok (.occupied place (.directory fault?))) :
    ∃ links', ∀ more, walk t links here (todo ++ more) = walk t links' place more := by
  fun_induction walk t links here todo with
  | case1 links here =>
    obtain ⟨rfl, -⟩ := Spot.occupied.inj (Except.ok.inj h)
    exact ⟨links, fun more => rfl⟩
  | case2 links here part rest hstay ih =>
    obtain ⟨links', hmore⟩ := ih h
    exact ⟨links', fun more => by rw [List.cons_append, walk, if_pos hstay, hmore]⟩
  | case3 links here rest hstay ih =>
    obtain ⟨links', hmore⟩ := ih h
    exact ⟨links', fun more => by rw [List.cons_append, walk, if_neg hstay, if_pos rfl, hmore]⟩
  | case4 | case5 | case6 | case8 | case9 | case10 => simp at h
  | case7 links here part rest hstay hup hlong place' _ hn ih =>
    obtain ⟨links', hmore⟩ := ih h
    refine ⟨links', fun more => ?_⟩
    rw [List.cons_append, walk_name hstay hup hlong, hn]
    exact hmore more
  | case11 here part rest hstay hup hlong place' target hn links ih =>
    obtain ⟨links', hmore⟩ := ih h
    refine ⟨links', fun more => ?_⟩
    rw [List.cons_append, walk_name hstay hup hlong, hn]
    have hrest := hmore more
    rw [List.append_assoc] at hrest
    exact hrest

/-- Parts that stay where they are may be left out in front. -/
theorem walk_skip_stays {front : List String} (h : ∀ part ∈ front, part = "" ∨ part = ".") :
    walk t links here (front ++ todo) = walk t links here todo := by
  induction front with
  | nil => rfl
  | cons part front ih =>
    obtain ⟨hpart, hfront⟩ := List.forall_mem_cons.1 h
    have hstay : (part.isEmpty || decide (part = ".")) = true := by
      rcases hpart with rfl | rfl <;> rfl
    rw [List.cons_append, walk, if_pos hstay, ih hfront]

/-- An empty part before the last one changes nothing. -/
theorem walk_skip_empty (part : String) :
    walk t links here (todo ++ ["", part]) = walk t links here (todo ++ [part]) := by
  fun_induction walk t links here todo with
  | case1 links here =>
    rw [List.nil_append, List.nil_append, walk]
    exact if_pos rfl
  | case2 links here first rest hstay ih =>
    rw [List.cons_append, List.cons_append, walk, if_pos hstay, ih, walk, if_pos hstay]
  | case3 links here rest hstay ih =>
    rw [List.cons_append, List.cons_append, walk, if_neg hstay, if_pos rfl, ih, walk,
      if_neg hstay, if_pos rfl]
  | case4 links here first rest hstay hup hlong =>
    rw [List.cons_append, List.cons_append, walk, if_neg hstay, if_neg hup, if_pos hlong, walk,
      if_neg hstay, if_neg hup, if_pos hlong]
  -- where nothing or a file stands, both walks end, since something is left of both paths
  | case5 _ _ _ _ hstay hup hlong _ hn _ | case6 _ _ _ _ hstay hup hlong _ hn _
    | case8 _ _ _ _ hstay hup hlong _ _ _ hn _ | case9 _ _ _ _ hstay hup hlong _ _ _ hn _ =>
    rw [List.cons_append, List.cons_append, walk_name hstay hup hlong,
      walk_name hstay hup hlong, hn]
    simp
  | case7 _ _ _ _ hstay hup hlong _ _ hn ih =>
    rw [List.cons_append, List.cons_append, walk_name hstay hup hlong,
      walk_name hstay hup hlong, hn]
    exact ih
  | case10 _ _ _ hstay hup hlong _ _ hn =>
    rw [List.cons_append, List.cons_append, walk_name hstay hup hlong,
      walk_name hstay hup hlong, hn]
  | case11 _ _ _ hstay hup hlong _ _ hn _ ih =>
    rw [List.cons_append, List.cons_append, walk_name hstay hup hlong,
      walk_name hstay hup hlong, hn]
    simpa [List.append_assoc] using ih

end Ends

/-! ## Looking -/

section Looking

variable {at_ : Location} {t t' : FileTree} {path : Path}

theorem resolve_eq_ok_iff {place : Location} {node : Node} :
    t.resolve path = .ok (place, node) ↔ screen path = .ok () ∧
      walk t maxLinks (t.origin path) path.segments = .ok (.occupied place node) := by
  unfold resolve spot
  cases screen path with
  | error fault => simp [bind, Except.bind]
  | ok _ =>
    simp only [bind, Except.bind, true_and]
    cases walk t maxLinks (t.origin path) path.segments with
    | error fault => simp
    | ok spot => cases spot <;> simp

theorem origin_alikeBut (h : AlikeBut at_ t t') (path : Path) : t'.origin path = t.origin path := by
  rw [origin, origin, h.current]

theorem resolve_alikeBut (h : AlikeBut at_ t t') {place : Location} {node : Node}
    (hresolve : t.resolve path = .ok (place, node)) (hne : place ≠ at_) :
    t'.resolve path = .ok (place, node) := by
  obtain ⟨hscreen, hwalk⟩ := resolve_eq_ok_iff.1 hresolve
  refine resolve_eq_ok_iff.2 ⟨hscreen, ?_⟩
  rw [origin_alikeBut h, walk_alikeBut h hwalk]
  cases node <;> simp [Spot.moved, hne]

/-- A path to the file at the place leads to the file there in the other tree. -/
theorem resolve_file_alikeBut (h : AlikeBut at_ t t') {content content' : ByteArray}
    {access : Access} (hfile' : t'.nodes.get? at_ = some (.file content'))
    (hresolve : t.resolve path = .ok (at_, .file content access)) :
    t'.resolve path = .ok (at_, .file content') := by
  obtain ⟨hscreen, hwalk⟩ := resolve_eq_ok_iff.1 hresolve
  refine resolve_eq_ok_iff.2 ⟨hscreen, ?_⟩
  rw [origin_alikeBut h, walk_alikeBut h hwalk]
  simp [Spot.moved, spotAt, hfile']

theorem resolve_directory_alikeBut (h : AlikeBut at_ t t') {place : Location}
    {fault? : Option IoFault} (hresolve : t.resolve path = .ok (place, .directory fault?)) :
    t'.resolve path = .ok (place, .directory fault?) := by
  obtain ⟨hscreen, hwalk⟩ := resolve_eq_ok_iff.1 hresolve
  refine resolve_eq_ok_iff.2 ⟨hscreen, ?_⟩
  rw [origin_alikeBut h, walk_alikeBut h hwalk]
  rfl

theorem isDirectory_alikeBut (h : AlikeBut at_ t t') (path : Path) :
    t.isDirectory path = true ↔ t'.isDirectory path = true := by
  rw [isDirectory_eq_true_iff, isDirectory_eq_true_iff]
  exact exists_congr fun place => exists_congr fun fault? =>
    ⟨resolve_directory_alikeBut h, resolve_directory_alikeBut h.symm⟩

/-- A file with another content is still a file, and so is every other one. -/
theorem isFile_alikeBut (h : AlikeBut at_ t t')
    (hfile' : ∃ content, t'.nodes.get? at_ = some (.file content))
    (hfile : t.isFile path = true) : t'.isFile path = true := by
  obtain ⟨place, content, access, hfound⟩ := isFile_eq_true_iff.1 hfile
  obtain ⟨content', hfile'⟩ := hfile'
  by_cases hat : place = at_
  · subst hat
    exact isFile_eq_true_iff.2 ⟨_, _, _, resolve_file_alikeBut h hfile' hfound⟩
  · exact isFile_eq_true_iff.2 ⟨place, content, access, resolve_alikeBut h hfound hat⟩

/-- Whether a directory can be listed is the same in both trees. -/
theorem exists_list_alikeBut (h : AlikeBut at_ t t') (path : Path) :
    (∃ listed, t.list path = .ok listed) ↔ ∃ listed, t'.list path = .ok listed := by
  simp only [list_eq_ok_iff]
  constructor
  · rintro ⟨_, place, hplace, -⟩
    exact ⟨_, place, resolve_directory_alikeBut h hplace, rfl⟩
  · rintro ⟨_, place, hplace, -⟩
    exact ⟨_, place, resolve_directory_alikeBut h.symm hplace, rfl⟩

theorem location?_of_resolve {place : Location} {node : Node}
    (h : t.resolve path = .ok (place, node)) : t.location? path = some place := by
  rw [location?, h]
  rfl

/-- A file that stands elsewhere reads the same in both trees, or can be read in neither. -/
theorem readBytes_alikeBut (h : AlikeBut at_ t t') (hfile : t.isFile path = true)
    (hne : t.location? path ≠ some at_) : t'.readBytes path = t.readBytes path := by
  obtain ⟨place, content, access, hfound⟩ := isFile_eq_true_iff.1 hfile
  rw [location?_of_resolve hfound, Ne, Option.some.injEq] at hne
  rw [readBytes, readBytes, hfound, resolve_alikeBut h hfound hne]

/-- A file does not stand where nothing stands. -/
theorem location?_ne_of_vacant (hfree : t.nodes.get? at_ = none)
    (hfile : t.isFile path = true) : t.location? path ≠ some at_ := by
  obtain ⟨place, content, access, hplace⟩ := isFile_eq_true_iff.1 hfile
  rw [location?_of_resolve hplace, Ne, Option.some.injEq]
  rintro rfl
  rw [walk_file (resolve_eq_ok_iff.1 hplace).2] at hfree
  exact absurd hfree (by simp)

/-- Paths to one file read alike. -/
theorem readBytes_eq_of_location? {path' : Path} (hfile : t.isFile path = true)
    (hfile' : t.isFile path' = true) (hplace : t.location? path = some at_)
    (hplace' : t.location? path' = some at_) : t.readBytes path = t.readBytes path' := by
  obtain ⟨place, content, access, hfound⟩ := isFile_eq_true_iff.1 hfile
  obtain ⟨place', content', access', hfound'⟩ := isFile_eq_true_iff.1 hfile'
  obtain rfl := Option.some.inj ((location?_of_resolve hfound).symm.trans hplace)
  obtain rfl := Option.some.inj ((location?_of_resolve hfound').symm.trans hplace')
  have hnode := walk_file (resolve_eq_ok_iff.1 hfound).2
  rw [walk_file (resolve_eq_ok_iff.1 hfound').2] at hnode
  rw [readBytes, readBytes, hfound, hfound', Option.some.inj hnode]

/-- **A path to a name in a directory goes on from that directory**, with what is left of the
links. -/
theorem exists_walk_join {directory : Path} {place : Location} {fault? : Option IoFault}
    (hdirectory : t.resolve directory = .ok (place, .directory fault?)) :
    ∃ links, ∀ name, Path.IsName name →
      walk t maxLinks (t.origin (Path.join directory name)) (Path.join directory name).segments =
        walk t links place [name] := by
  obtain ⟨hscreen, hwalk⟩ := resolve_eq_ok_iff.1 hdirectory
  have hne : directory ≠ "" := by
    rintro rfl
    simp [screen] at hscreen
  obtain ⟨links, hthrough⟩ := walk_through hwalk
  refine ⟨links, fun name hname => ?_⟩
  obtain ⟨habsolute, front, hsegments, hfront⟩ := Path.join_name hne hname
  rw [origin, habsolute, ← origin, hsegments, ← hthrough [name]]
  -- a directory that ends in a slash has an empty part that the joined path lacks
  rcases hfront with hfront | hfront
  · rw [hfront]
  · rw [hfront, List.append_assoc, List.singleton_append, walk_skip_empty]

/-- What a path to a name in a directory leads to is found from that directory on. -/
theorem walk_of_resolve_join {directory : Path} {place foundAt : Location} {name : String}
    {node : Node} {fault? : Option IoFault}
    (hdirectory : t.resolve directory = .ok (place, .directory fault?))
    (hname : Path.IsName name)
    (hfound : t.resolve (Path.join directory name) = .ok (foundAt, node)) :
    ∃ links, walk t links place [name] = .ok (.occupied foundAt node) := by
  obtain ⟨links, hjoin⟩ := exists_walk_join hdirectory
  exact ⟨links, hjoin name hname ▸ (resolve_eq_ok_iff.1 hfound).2⟩

/-- **A name in a directory leads to its place**, if the path to it can be followed at all. -/
theorem resolve_join {directory : Path} {place : Location} {name : String} {content : ByteArray}
    {access : Access} {found : Location × Node}
    (hdirectory : t.resolve directory = .ok (place, .directory))
    (hname : Path.IsName name) (hlooks : LooksUp name)
    (hfile : t.nodes.get? (place ++ [name]) = some (.file content access))
    (hfound : t.resolve (Path.join directory name) = .ok found) :
    found = (place ++ [name], .file content access) := by
  obtain ⟨foundAt, node⟩ := found
  obtain ⟨links, hwalk⟩ := walk_of_resolve_join hdirectory hname hfound
  rw [walk_last hlooks fun node hnode =>
    ⟨content, access, Option.some.inj (hnode.symm.trans hfile)⟩, spotAt, hfile] at hwalk
  cases hwalk
  rfl

end Looking

/-! ## Writing -/

section Writing

variable {at_ : Location} {t t' : FileTree} {path : Path}

theorem moved_spotAt (h : AlikeBut at_ t t') (place : Location) :
    (t.spotAt place).moved at_ t' = t'.spotAt place := by
  by_cases hplace : place = at_
  · subst hplace
    unfold spotAt
    cases hn : t.nodes.get? place with
    | none => simp [Spot.moved, spotAt]
    | some node =>
      obtain ⟨content, rfl⟩ := h.file node hn
      simp [Spot.moved, spotAt]
  · unfold spotAt
    rw [← h.elsewhere place hplace]
    cases hn : t.nodes.get? place with
    | none => simp [Spot.moved, hplace]
    | some node => cases node <;> simp [Spot.moved, hplace]

/-- Writing goes to a file that can be written or to a free name. -/
theorem target_eq_ok_iff : t.target path = .ok at_ ↔
    path.endsInSlash = false ∧ screen path = .ok () ∧
      walk t maxLinks (t.origin path) path.segments = .ok (t.spotAt at_) ∧
      ∀ node, t.nodes.get? at_ = some node → ∃ content, node = .file content := by
  unfold target
  cases screen path with
  | error fault => simp [bind, Except.bind]
  | ok _ =>
    simp only [bind, Except.bind, true_and]
    cases path.endsInSlash with
    | true =>
      simp only [if_true, Bool.true_eq_false, false_and, iff_false]
      cases walk t maxLinks (t.origin path) _ with
      | error fault => simp
      | ok spot =>
        cases spot with
        | occupied place node => cases node <;> simp
        | vacant place => simp
    | false =>
      simp only [Bool.false_eq_true, if_false, true_and]
      constructor
      · intro h
        cases hwalk : walk t maxLinks (t.origin path) path.segments with
        | error fault => rw [hwalk] at h; simp at h
        | ok spot =>
          rw [hwalk] at h
          cases spot with
          | occupied place node =>
            cases node with
            | file content access =>
              cases access with
              | full =>
                obtain rfl : place = at_ := by simpa [Access.writeFault?] using h
                have hn := walk_file hwalk
                simp [spotAt, hn]
              | readOnly fault | denied fault => simp [Access.writeFault?] at h
            | link target => simp at h
            | directory => simp at h
          | vacant place =>
            obtain rfl : place = at_ := by simpa using h
            have hn := (walk_vacant (fun _ => Path.noSlash_of_mem_segments) hwalk).1
            simp [spotAt, hn]
      · rintro ⟨hwalk, hfile⟩
        rw [hwalk, spotAt]
        cases hn : t.nodes.get? at_ with
        | none => rfl
        | some node =>
          obtain ⟨content, rfl⟩ := hfile node hn
          rfl

theorem target_alikeBut (h : AlikeBut at_ t t') {place : Location}
    (htarget : t.target path = .ok place) : t'.target path = .ok place := by
  obtain ⟨hslash, hscreen, hwalk, hfile⟩ := target_eq_ok_iff.1 htarget
  refine target_eq_ok_iff.2 ⟨hslash, hscreen, ?_, fun node hnode => ?_⟩
  · rw [origin_alikeBut h, walk_alikeBut h hwalk, moved_spotAt h]
  · by_cases hplace : place = at_
    · exact h.file' node (hplace ▸ hnode)
    · exact hfile node ((h.elsewhere place hplace).trans hnode)

theorem write_of_target (htarget : t.target path = .ok at_) (text : String) :
    t.write path text = .ok (t.place at_ (.file text.toUTF8)) := by
  rw [write, htarget]
  rfl

theorem write_of_fault {fault : IoFault} (htarget : t.target path = .error fault) (text : String) :
    t.write path text = .error fault := by
  rw [write, htarget]
  rfl

/-- The path that was written to leads to what was written. -/
theorem resolve_place (htarget : t.target path = .ok at_) (content : ByteArray) :
    (t.place at_ (.file content)).resolve path = .ok (at_, .file content) := by
  obtain ⟨-, hscreen, hwalk, hfile⟩ := target_eq_ok_iff.1 htarget
  have halike := alikeBut_place hfile content
  refine resolve_eq_ok_iff.2 ⟨hscreen, ?_⟩
  rw [origin_alikeBut halike, walk_alikeBut halike hwalk, moved_spotAt halike, spotAt,
    get?_place_self]

/-- **What is written is what is read afterwards**, on the same path. -/
theorem readText_place (htarget : t.target path = .ok at_) (text : String) :
    (t.place at_ (.file text.toUTF8)).readText path = .ok text := by
  rw [readText_eq_ok_iff, readBytes_eq_ok_iff]
  exact ⟨at_, .full, resolve_place htarget text.toUTF8, rfl⟩

/-- A free name to write to can be listed in its directory. -/
theorem name_of_target (htarget : t.target path = .ok at_) (hfree : t.nodes.get? at_ = none) :
    ∃ directory name, at_ = directory ++ [name] ∧ LooksUp name ∧ Path.IsName name := by
  obtain ⟨-, -, hwalk, -⟩ := target_eq_ok_iff.1 htarget
  rw [spotAt, hfree] at hwalk
  exact (walk_vacant (fun _ => Path.noSlash_of_mem_segments) hwalk).2

end Writing

end TableCatalog.FileTree
