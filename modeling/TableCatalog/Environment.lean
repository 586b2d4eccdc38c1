import TableCatalog.CatalogError

/-!
# Environments

An environment is one set of reference pages: a directory, a pattern for the names of the pages in
it, the commands that fetch the directory, and the names of functions that have no page. A run
works on a list of environments. Names are not required to differ, and two rules deal with that:
looking one up finds the first, selecting by name keeps them all.
-/

set_option autoImplicit false

namespace TableCatalog

/-- One set of reference pages. -/
structure Environment where
  /-- Key in the document and in the override file. -/
  name : String
  /-- The directory of the pages, seen from the root of the documentation. -/
  directory : Path
  /-- Pattern for the names of the pages. -/
  pattern : String
  /-- Commands that create the directory. -/
  instructions : String
  magicFunctions : List String
deriving DecidableEq

namespace Environment

/-- Where the pages are, with the documentation under `root`. -/
def sourceDir (e : Environment) (root : Path) : Path := Path.join root e.directory

/-- The directory of the pages if it is there. When it is not, the error tells the place that was
looked at, unless the root is the current directory. -/
def ensureSourceDir (e : Environment) (t : FileTree) (root : Path) : Except CatalogError Path :=
  let place := e.sourceDir root
  if t.isDirectory place then .ok place
  else
    let resolved := if Path.isCurrent root || root.isEmpty then none else some place
    .error (.missingSource e.name e.directory resolved e.instructions)

end Environment

/-- Environments in the order in which they are declared. -/
abbrev EnvironmentSet := List Environment

namespace EnvironmentSet

/-- The first environment of a name. -/
def get? (s : EnvironmentSet) (name : String) : Option Environment :=
  s.find? fun e => e.name = name

/-- The environments of the given names, in the order of declaration; no names select all. A name
that no environment has is an error, and the first such name is reported. -/
def select (s : EnvironmentSet) (names : List String) : Except CatalogError EnvironmentSet :=
  if names.isEmpty then .ok s
  else
    match names.find? fun name => (s.get? name).isNone with
    | some name => .error (.unknownEnvironment name)
    | none => .ok (s.filter fun e => names.contains e.name)

/-- The environments that are always there: Defender tables and Azure Monitor tables. -/
def builtin : EnvironmentSet :=
  [{ name := "m365"
     directory := "defender_docs"
     pattern := "*-table.md"
     instructions :=
       "git clone https://github.com/MicrosoftDocs/microsoft-365-docs\n" ++
       "mv microsoft-365-docs/microsoft-365/security/defender defender_docs\n" ++
       "rm -Rf microsoft-365-docs # optional to save disk space"
     magicFunctions := ["FileProfile", "DeviceFromIP"] },
   { name := "sentinel"
     directory := "sentinel_docs"
     pattern := "*.md"
     instructions :=
       "git clone https://github.com/MicrosoftDocs/azure-reference-other\n" ++
       "mv azure-reference-other/azure-monitor-ref/tables sentinel_docs\n" ++
       "rm -Rf azure-reference-other # optional to save disk space"
     magicFunctions := [] }]

end EnvironmentSet

end TableCatalog
