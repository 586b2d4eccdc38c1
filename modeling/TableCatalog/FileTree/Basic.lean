import TableCatalog.OrderedMap.Basic
import TableCatalog.Path

/-!
# File trees

A file tree is what a run sees of the disk: at each location a file, a directory or a symbolic
link, and one location that is the current directory. A location is the list of names that lead
to it from the root; the root is a directory without an entry of its own. Names are texts, so a name
that is not UTF-8 is not described. The order of the entries is the order in which a directory lists
its names, and nothing should depend on it.

`resolve` follows a path the way the system does. It goes from directory to directory, one part of
the path at a time. An empty part and a dot stay where they are, two dots go up (and stay at the
root), and a name that is a link puts the link's target in front of what is left. A part behind
something that is no directory is refused, even an empty one. At most forty links are followed, so
the walk ends: each link uses up one of them, and between links the path gets shorter.

That something is there does not mean that it can be opened. A directory may refuse to list its
names and a file to be read or written, for want of a permission or because the device fails; each
carries the fault with it. Following a path asks for no permission, and a free name can be taken: a
directory that cannot be passed through, or in which no file can be made, is not described. A file
that could be opened for writing takes what is written, in whole.
-/

set_option autoImplicit false

namespace TableCatalog

/-- Why the system refuses an operation on a file. -/
inductive IoFault
  | notFound
  | deviceFault
  | permissionDenied
  | notDirectory
  | isDirectory
  | nameTooLong
  | tooManyLinks
  | nulInName
  | notUtf8
deriving DecidableEq

def IoFault.message : IoFault → String
  | .notFound => "No such file or directory (os error 2)"
  | .deviceFault => "Input/output error (os error 5)"
  | .permissionDenied => "Permission denied (os error 13)"
  | .notDirectory => "Not a directory (os error 20)"
  | .isDirectory => "Is a directory (os error 21)"
  | .nameTooLong => "File name too long (os error 36)"
  | .tooManyLinks => "Too many levels of symbolic links (os error 40)"
  | .nulInName => "file name contained an unexpected NUL byte"
  | .notUtf8 => "stream did not contain valid UTF-8"

/-- Contents are the same if they are the same bytes. -/
instance (priority := high) contentDecidableEq : DecidableEq ByteArray := ByteArray.instDecidableEq

/-- What the system lets be done with a file, and why not more. -/
inductive Access
  | full
  /-- The file can be read, but not opened for writing. -/
  | readOnly (fault : IoFault)
  /-- The file cannot be opened at all. -/
  | denied (fault : IoFault)
deriving DecidableEq

namespace Access

def readFault? : Access → Option IoFault
  | .full | .readOnly _ => none
  | .denied fault => some fault

def writeFault? : Access → Option IoFault
  | .full => none
  | .readOnly fault | .denied fault => some fault

end Access

inductive Node
  | file (content : ByteArray) (access : Access := .full)
  | link (target : Path)
  /-- A directory, and what listing its names fails with if it does. -/
  | directory (listFault? : Option IoFault := none)
deriving DecidableEq

/-- The names that lead to a place from the root. -/
abbrev Location := List String

/-- Files, links and directories by location, and the current directory. -/
structure FileTree where
  nodes : OrderedMap Location Node
  current : Location
deriving DecidableEq

namespace FileTree

/-- Where a path leads: to something that is there, or to a free name in a directory. -/
inductive Spot
  | occupied (place : Location) (node : Node)
  | vacant (place : Location)
deriving DecidableEq

def node? (t : FileTree) (place : Location) : Option Node :=
  if place.isEmpty then some .directory else t.nodes.get? place

/-- The directory that a walk has come to, as it lists or does not list its names. -/
def directoryAt (t : FileTree) (place : Location) : Node :=
  match t.nodes.get? place with
  | some (.directory fault?) => .directory fault?
  | _ => .directory

def maxLinks : Nat := 40

/-- The greatest length of one name, in bytes. -/
def maxName : Nat := 255

/-- The greatest length of a path, in bytes. -/
def maxPath : Nat := 4095

/-- Follow the parts `todo` from the directory `here`, with `links` links still allowed. -/
def walk (t : FileTree) (links : Nat) (here : Location) (todo : List String) :
    Except IoFault Spot :=
  match todo with
  | [] => .ok (.occupied here (t.directoryAt here))
  | part :: rest =>
    if part.isEmpty || part = "." then walk t links here rest
    else if part = ".." then walk t links here.dropLast rest
    else if maxName < part.utf8ByteSize then .error .nameTooLong
    else
      let place := here ++ [part]
      match t.nodes.get? place with
      | none => if rest.isEmpty then .ok (.vacant place) else .error .notFound
      | some (.directory _) => walk t links place rest
      | some (.file content access) =>
        if rest.isEmpty then .ok (.occupied place (.file content access)) else .error .notDirectory
      | some (.link target) =>
        match links with
        | 0 => .error .tooManyLinks
        | n + 1 =>
          walk t n (if Path.isAbsolute target then [] else here) (Path.segments target ++ rest)
termination_by (links, todo.length)

def origin (t : FileTree) (path : Path) : Location :=
  if Path.isAbsolute path then [] else t.current

/-- What the system refuses before it looks at the tree. -/
def screen (path : Path) : Except IoFault Unit :=
  if path.toList.contains '\x00' then .error .nulInName
  else if path.isEmpty then .error .notFound
  else if maxPath < path.utf8ByteSize then .error .nameTooLong
  else .ok ()

def spot (t : FileTree) (path : Path) : Except IoFault Spot := do
  screen path
  walk t maxLinks (t.origin path) (Path.segments path)

def resolve (t : FileTree) (path : Path) : Except IoFault (Location × Node) := do
  match ← t.spot path with
  | .occupied place node => .ok (place, node)
  | .vacant _ => .error .notFound

/-! ## Looking -/

def isDirectory (t : FileTree) (path : Path) : Bool :=
  match t.resolve path with
  | .ok (_, .directory _) => true
  | _ => false

def isFile (t : FileTree) (path : Path) : Bool :=
  match t.resolve path with
  | .ok (_, .file _ _) => true
  | _ => false

/-- The names in the directory at a location, in the order of the entries. -/
def namesAt (t : FileTree) (place : Location) : List String :=
  t.nodes.toList.filterMap fun e =>
    match e.1.getLast? with
    | some name => if e.1.dropLast = place then some name else none
    | none => none

def list (t : FileTree) (path : Path) : Except IoFault (List String) := do
  match ← t.resolve path with
  | (place, .directory none) => .ok (t.namesAt place)
  | (_, .directory (some fault)) => .error fault
  | _ => .error .notDirectory

def readBytes (t : FileTree) (path : Path) : Except IoFault ByteArray := do
  match ← t.resolve path with
  | (_, .file content access) =>
    match access.readFault? with
    | none => .ok content
    | some fault => .error fault
  | _ => .error .isDirectory

def readText (t : FileTree) (path : Path) : Except IoFault String := do
  match String.fromUTF8? (← t.readBytes path) with
  | some text => .ok text
  | none => .error .notUtf8

/-! ## Writing -/

def place (t : FileTree) (at_ : Location) (node : Node) : FileTree :=
  { t with nodes := t.nodes.insert at_ node }

/-- Where writing to a path goes: to the file it leads to, if that can be opened, or to a free name.
A path that ends in a slash can only name a directory, so it is refused as one once its parent has
been found. -/
def target (t : FileTree) (path : Path) : Except IoFault Location := do
  screen path
  if Path.endsInSlash path then
    let parts := ((Path.segments path).reverse.dropWhile (·.isEmpty)).reverse
    match ← walk t maxLinks (t.origin path) parts.dropLast with
    | .occupied _ (.directory _) => .error .isDirectory
    | .occupied _ _ => .error .notDirectory
    | .vacant _ => .error .notFound
  else
    match ← walk t maxLinks (t.origin path) (Path.segments path) with
    | .occupied at_ (.file _ access) =>
      match access.writeFault? with
      | none => .ok at_
      | some fault => .error fault
    | .occupied _ _ => .error .isDirectory
    | .vacant at_ => .ok at_

/-- Replace the content of the file a path leads to, or create it. A file that has been opened takes
the whole text: a device that fails while it is written to is not described. -/
def write (t : FileTree) (path : Path) (text : String) : Except IoFault FileTree := do
  return t.place (← t.target path) (.file text.toUTF8)

/-- Open a file for appending: create it if it is not there. Returns its location. -/
def openAppend (t : FileTree) (path : Path) : Except IoFault (FileTree × Location) := do
  let at_ ← t.target path
  match t.node? at_ with
  | some _ => return (t, at_)
  | none => return (t.place at_ (.file .empty), at_)

/-- Append a text to the file at a location. Where no file stands, nothing is written. -/
def append (t : FileTree) (at_ : Location) (text : String) : FileTree :=
  match t.nodes.get? at_ with
  | some (.file content access) => t.place at_ (.file (content ++ text.toUTF8) access)
  | _ => t

end FileTree

end TableCatalog
