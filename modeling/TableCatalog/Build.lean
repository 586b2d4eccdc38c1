import TableCatalog.Environment
import TableCatalog.Listing
import TableCatalog.Overrides
import TableCatalog.Page.Reading
import TableCatalog.Run

/-!
# Building the document

An environment is built from its pages, in the order of their names: each page with a heading
merges its columns into the table it names, and what the override file says is written over the
result. A document is built from several environments. Before anything is read, every environment
must have its directory; then the override file is read, once; then the environments are built in
order. A failure ends the run.
-/

set_option autoImplicit false

namespace TableCatalog

def readPage (path : Path) : Run Page.Reading :=
  Run.look fun t =>
    match t.readText path with
    | .ok text => .ok (Page.read text)
    | .error fault => .error (.unreadableFile path fault)

/-- Read pages, one after the other, and merge their columns into tables. -/
def scanPages (scopes : List Log.Scope) : List Path → Tables → Run Tables
  | [], tables => pure tables
  | file :: files, tables => do
    let page ← readPage file
    Run.noteAll scopes (page.skipped.map .rowSkipped)
    match page.name with
    | some name =>
      Run.note scopes (.tableRead file name page.columns.size)
      scanPages scopes files (tables.merge name page.columns)
    | none =>
      Run.note scopes (.headingMissing file)
      scanPages scopes files tables

/-- Build one environment from the pages in a directory. `outer` are the scopes that are open. -/
def buildEnvironment (outer : List Log.Scope) (e : Environment) (directory : Path)
    (overrides : Overrides) : Run EnvironmentSchema := do
  let scopes := outer ++ [.environment e.name]
  let g ← Run.ofExcept (compilePattern e.pattern)
  let files ← Run.look fun t => listPages t directory g
  Run.note scopes (.pagesFound directory e.pattern files.length)
  let scraped ← scanPages scopes files .empty
  let tables ← Run.ofExcept (overrides.apply e.name scraped)
  let schema : EnvironmentSchema := ⟨tables, e.magicFunctions⟩
  Run.note scopes (.environmentDone schema.tableCount schema.columnCount)
  pure schema

/-- Where a run finds its input. -/
structure BuildOptions where
  /-- The root of the documentation. -/
  docsRoot : Path
  overridesPath : Path
deriving DecidableEq

/-- The root of the documentation: the one that was asked for, else the one that the environment
variable gives, else the current directory. -/
def docsRoot (asked given : Option Path) : Path := (asked <|> given).getD "."

/-- The directories of the pages, or the first that is missing. -/
def ensureSources (root : Path) (t : FileTree) : EnvironmentSet →
    Except CatalogError (List (Environment × Path))
  | [] => .ok []
  | e :: es => do
    let directory ← e.ensureSourceDir t root
    return (e, directory) :: (← ensureSources root t es)

/-- Build environments, one after the other, and write them into a document. -/
def buildAll (outer : List Log.Scope) (overrides : Overrides) :
    List (Environment × Path) → Document → Run Document
  | [], d => pure d
  | (e, directory) :: rest, d => do
    let schema ← buildEnvironment outer e directory overrides
    buildAll outer overrides rest (d.insert e.name schema)

def buildDocument (outer : List Log.Scope) (s : EnvironmentSet) (o : BuildOptions) :
    Run Document := do
  let sources ← Run.look fun t => ensureSources o.docsRoot t s
  let overrides ← Run.look fun t => Overrides.load t o.overridesPath
  buildAll outer overrides sources .empty

end TableCatalog
