import TableCatalog.Build
import TableCatalog.Check
import TableCatalog.CommandLine.Order
import TableCatalog.Grid.Drawing

/-!
# The program

`Program.run` is the whole program as a function: from the arguments, the values of the
environment's variables, the time and the files to an exit code, two texts and the files afterwards.

There are three commands. `extract` builds the document and writes it to a file or to the output
stream; `check` builds it too, and reports the columns of unknown type; `environments` lists what
is built in, and reads nothing. The exit code is 0 when there is nothing to complain about, 1 when
a command fails or `check` has found something, and 2 when the command line cannot be read.

The log is opened before anything else is done. It goes to the error stream, where a complaint
follows it, or to a file, and then it is appended to what is there.
-/

set_option autoImplicit false

namespace TableCatalog.Program

open CommandLine

/-- What the program starts with. -/
structure Start where
  arguments : List String
  /-- The names and values of the variables of the environment. -/
  variableValues : List (String × String)
  /-- The time that the log tells. -/
  time : String
  files : FileTree

/-- What the program leaves behind. -/
structure Outcome where
  exit : Nat
  output : String
  errors : String
  files : FileTree
deriving DecidableEq

/-- The environment variable for the root of the documentation. -/
def rootVariable : String := "KQL_SCHEMA_DOCS_ROOT"

def filterVariable : String := "RUST_LOG"

/-- The number of places that a table takes at most. -/
def tableWidth : Nat := 120

def versionLine : String := "get-schemas 0.1.0\n"

/-- What the program is for, and its commands. This is not the whole help text: the longer
description and the options are left out. -/
def usage : String :=
  "Extract KQL table schemas from Microsoft documentation\n\n" ++
  "Usage: get-schemas [OPTIONS] [COMMAND]\n\n" ++
  "Commands:\n" ++
  "  extract       Extract schemas and print the JSON document (default)\n" ++
  "  check         Extract schemas and report columns whose type is not a KQL scalar type\n" ++
  "  environments  List the configured documentation environments\n" ++
  "  help          Print this message\n"

/-! ## Complaints -/

/-- What is written about an error. A missing directory explains itself; otherwise the cause that
an error rests on is told a second time, on its own. -/
def complaint (e : CatalogError) : String :=
  if e.isMissingSource then e.message ++ "\n"
  else
    "error: " ++ e.message ++
      (match e.reason? with
      | some reason => ": " ++ reason
      | none => "") ++ "\n"

def writeComplaint (path : Path) (fault : IoFault) : String :=
  "error: write schema document to " ++ path ++ ": " ++ fault.message ++ "\n"

def logComplaint (fault : IoFault) : String :=
  "error: failed to initialize logging: " ++ fault.message ++ "\n"

/-! ## Commands -/

/-- The end of a command: an exit code, a text for the output stream and one more for the error
stream. -/
def leave (w : World) (exit : Nat) (output complaint : String) : Outcome :=
  ⟨exit, output, w.errors ++ complaint, w.files⟩

/-- Build the document of the environments that were named. -/
def buildNamed (scope : Log.Scope) (names : List String) (o : BuildOptions) : Run Document := do
  let environments ← Run.ofExcept (EnvironmentSet.builtin.select names)
  buildDocument [scope] environments o

/-- Write the document of the environments that were named. The output stream is assumed to take
what is written to it; that writing to it fails is not described. -/
def extract (names : List String) (output : Option Path) (o : BuildOptions) (w : World) :
    Outcome :=
  match buildNamed .extract names o w with
  | (.error e, w) => leave w 1 "" (complaint e)
  | (.ok d, w) =>
    match output with
    | none => leave w 0 d.render ""
    | some path =>
      match w.files.write path d.render with
      | .error fault => leave w 1 "" (writeComplaint path fault)
      | .ok files =>
        leave (({ w with files := files } : World).note
          ⟨[.extract], .documentWritten path⟩) 0 "" ""

def unknownGrid (unknown : List UnknownType) : Grid where
  header := ["Environment", "Table", "Column", "Type"]
  rows := unknown.map fun u => [u.environment, u.table, u.column, u.type]

def report (d : Document) : String :=
  let unknown := d.unknownTypes
  let tables := total (d.values.map EnvironmentSchema.tableCount)
  let columns := total (d.values.map EnvironmentSchema.columnCount)
  if unknown.isEmpty then
    "All " ++ toString columns ++ " columns in " ++ toString tables ++ " tables across " ++
      toString d.size ++ " environments use known KQL types.\n"
  else
    (unknownGrid unknown).draw tableWidth ++ "\n" ++ toString unknown.length ++ " of " ++
      toString columns ++ " columns use types KQL does not recognize.\n"

def check (names : List String) (o : BuildOptions) (w : World) : Outcome :=
  match buildNamed .check names o w with
  | (.error e, w) => leave w 1 "" (complaint e)
  | (.ok d, w) => leave w (if d.unknownTypes.isEmpty then 0 else 1) (report d) ""

def environmentGrid (t : FileTree) (root : Path) (s : EnvironmentSet) : Grid where
  header := ["Environment", "Directory", "Pattern", "Magic functions", "Present"]
  rows := s.map fun e =>
    [e.name, e.directory, e.pattern, String.intercalate ", " e.magicFunctions,
      if t.isDirectory (e.sourceDir root) then "yes" else "no"]

def environments (root : Path) (w : World) : Outcome :=
  leave w 0
    ((environmentGrid w.files root EnvironmentSet.builtin).draw tableWidth ++ "\n") ""

def perform (c : Command) (o : BuildOptions) (w : World) : Outcome :=
  match c with
  | .extract names output => extract names output o w
  | .check names => check names o w
  | .environments => environments o.docsRoot w

/-! ## From beginning to end -/

def variableOf? (s : Start) (name : String) : Option String := s.variableValues.lookup name

def buildOptions (s : Start) (o : Order) : BuildOptions :=
  ⟨docsRoot o.docsRoot (variableOf? s rootVariable), o.overrides⟩

def logger (s : Start) (o : LogOrder) (sink : Log.Sink) : Log.Logger where
  filter := o.filter (variableOf? s filterVariable)
  format := o.format
  colour := o.colour
  time := s.time
  sink := sink

def openLog (s : Start) (o : LogOrder) : Except IoFault World :=
  match o.file with
  | none => .ok ⟨s.files, logger s o .errorStream, "", []⟩
  | some path => do
    let (files, place) ← s.files.openAppend path
    return ⟨files, logger s o (.file place), "", []⟩

def carryOut (s : Start) (o : Order) : Outcome :=
  match openLog s o.log with
  | .error fault => ⟨1, "", logComplaint fault, s.files⟩
  | .ok w => perform o.command (buildOptions s o) w

def run (s : Start) : Outcome :=
  match CommandLine.read s.arguments with
  | .ok order => carryOut s order
  | .error .help => ⟨0, usage, "", s.files⟩
  | .error .version => ⟨0, versionLine, "", s.files⟩
  | .error (.misuse m) => ⟨2, "", "error: " ++ m.message ++ "\n", s.files⟩

end TableCatalog.Program
