import TableCatalog.CatalogError
import TableCatalog.Json.Reader
import TableCatalog.Schema

/-!
# Overrides

Columns that no page documents, or documents wrongly, are kept by hand in an override file: a JSON
object from environments to tables to columns to types. What it says is written over what the pages
say, as it stands: types are not normalised, and a table may have any name. An environment that is
built must have an entry, even an empty one.
-/

set_option autoImplicit false

namespace TableCatalog

/-- The content of an override file and the path it was read from. -/
structure Overrides where
  environments : OrderedMap String Tables
  path : Path

namespace Overrides

/-- The shape of an override file. -/
def reader : Json.Reader (OrderedMap String Tables) := .object (.object (.object .text))

/-- Read the text of an override file; `path` is named in errors only. -/
def ofJson (text : String) (path : Path) : Except CatalogError Overrides :=
  match reader.whole text.toList with
  | .ok environments => .ok ⟨environments, path⟩
  | .error complaint => .error (.badOverrides path complaint)

def load (t : FileTree) (path : Path) : Except CatalogError Overrides :=
  match t.readText path with
  | .ok text => ofJson text path
  | .error fault => .error (.unreadableFile path fault)

def tablesFor (o : Overrides) (environment : String) : Except CatalogError Tables :=
  match o.environments.get? environment with
  | some tables => .ok tables
  | none => .error (.missingOverrides o.path environment)

/-- Write the entry of an environment over its tables. -/
def apply (o : Overrides) (environment : String) (tables : Tables) : Except CatalogError Tables :=
  (o.tablesFor environment).map tables.mergeAll

/-- The text of an override file with the given content. -/
def render (environments : OrderedMap String Tables) : String :=
  String.ofList
    ((Json.object (environments.toList.map fun e => (e.1, Tables.toJson e.2))).pretty ++ ['\n'])

end Overrides

end TableCatalog
