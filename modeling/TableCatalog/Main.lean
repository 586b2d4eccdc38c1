import TableCatalog.Log.Timestamp
import TableCatalog.Program

/-!
# The command line program

Between the disk and `Program.run`, which decides everything. Before the run the parts of the disk
that it can look at are copied into a `FileTree`: what its paths lead to, and what stands in the
directories of the pages. What the system does not let be read or written is copied with the fault
that it gives. After the run the files that have changed are written back.

A link is followed by the system. It is recorded as a link to the place it leads to, so a path that
goes through it and up again means the same in the copy.
-/

set_option autoImplicit false

namespace TableCatalog.Disk

/-- The absolute path of a location. -/
def pathOf (place : Location) : String := "/" ++ String.intercalate "/" place

/-- The location of an absolute path. -/
def locationOf (path : String) : Location := (Path.segments path).filter fun part => !part.isEmpty

/-- Record the directories that lead to a location, where nothing is known of them. -/
def recordAncestors (t : FileTree) (place : Location) : FileTree :=
  (List.range place.length).foldl
    (fun t n =>
      if (t.node? (place.take n)).isSome then t else t.place (place.take n) .directory) t

/-- Why the disk refused an operation. -/
def faultOf : IO.Error → IoFault
  | .permissionDenied .. => .permissionDenied
  | _ => .deviceFault

/-- The fault of an operation on the disk, if it fails. -/
def fault? {α : Type} (operation : IO α) : IO (Option IoFault) :=
  try
    let _ ← operation
    return none
  catch e => return some (faultOf e)

def recordDirectory (path : String) : IO Node := do
  return .directory (← fault? (do (← IO.FS.realPath path).readDir))

/-- Record a file with its content. To find out whether it can be written to, it is opened in a mode
that leaves it as it is. -/
def recordFile (path : String) : IO Node := do
  try
    let content ← IO.FS.readBinFile path
    match ← fault? (IO.FS.Handle.mk path .readWrite) with
    | none => return .file content
    | some fault => return .file content (.readOnly fault)
  catch e => return .file .empty (.denied (faultOf e))

/-- Record what stands at a location that no link leads through. -/
def recordNode (t : FileTree) (place : Location) : IO FileTree := do
  let t := recordAncestors t place
  let path := pathOf place
  match (← (← IO.FS.realPath path).metadata).type with
  | .dir => if place.isEmpty then return t else return t.place place (← recordDirectory path)
  | .file => return t.place place (← recordFile path)
  | _ => return t

/-- Record what a path leads to, part by part, from a directory. Where it leads nowhere nothing is
recorded. -/
def recordPath (t : FileTree) (here : Location) : List String → IO FileTree
  | [] => return t
  | part :: rest =>
    if part.isEmpty || part = "." then recordPath t here rest
    else if part = ".." then recordPath t here.dropLast rest
    else do
      let place := here ++ [part]
      let some real ← (try some <$> IO.FS.realPath (pathOf place) catch _ => pure none) | return t
      let real := locationOf real.toString
      let t ← recordNode t real
      let t := if real = place then t else t.place place (.link (pathOf real))
      recordPath t real rest

/-- Record what a path leads to, and if that is a directory that can be listed, what stands in it. -/
def record (t : FileTree) (path : Path) : IO FileTree := do
  let t ← recordPath t (t.origin path) (Path.segments path)
  match t.resolve path with
  | .ok (place, .directory) => do
    let entries ← (← IO.FS.realPath (pathOf place)).readDir
    entries.foldlM (fun t e => recordPath t place [e.fileName]) t
  | _ => return t

/-- The disk as the paths of an order can see it. -/
def snapshot (paths : List Path) : IO FileTree := do
  let current := locationOf (← IO.FS.realPath (← IO.currentDir)).toString
  let t ← recordNode ⟨.empty, current⟩ current
  paths.foldlM record t

/-- Write back the files that have changed. -/
def commit (before after : FileTree) : IO Unit :=
  after.nodes.toList.forM fun e =>
    match e.2 with
    | .file content _ =>
      if before.nodes.get? e.1 = some e.2 then pure ()
      else IO.FS.writeBinFile (pathOf e.1) content
    | _ => pure ()

/-- The present moment: the system tells it of a file that has just been made. -/
def now : IO Log.Moment := do
  let (_, path) ← IO.FS.createTempFile
  let time := (← path.metadata).modified
  IO.FS.removeFile path
  return ⟨time.sec, time.nsec.toNat⟩

end TableCatalog.Disk

namespace TableCatalog.Program

/-- The paths that an order makes the program look at. -/
def pathsOf (s : Start) (o : CommandLine.Order) : List Path :=
  let options := buildOptions s o
  let output := match o.command with
    | .extract _ output => output.toList
    | _ => []
  EnvironmentSet.builtin.map (fun e => e.sourceDir options.docsRoot) ++ [options.overridesPath] ++
    o.log.file.toList ++ output

def runOnDisk (arguments : List String) : IO UInt32 := do
  let variableValues ← [rootVariable, filterVariable].filterMapM fun name => do
    return (← IO.getEnv name).map fun value => (name, value)
  let start : Start := ⟨arguments, variableValues, (← Disk.now).text, ⟨.empty, []⟩⟩
  let files ← match CommandLine.read arguments with
    | .ok order => Disk.snapshot (pathsOf start order)
    | .error _ => pure start.files
  let outcome := run { start with files := files }
  Disk.commit files outcome.files
  (← IO.getStderr).putStr outcome.errors
  (← IO.getStdout).putStr outcome.output
  return UInt32.ofNat outcome.exit

end TableCatalog.Program

def main (arguments : List String) : IO UInt32 := TableCatalog.Program.runOnDisk arguments
