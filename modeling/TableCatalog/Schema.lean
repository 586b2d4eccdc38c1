import TableCatalog.ColumnType
import TableCatalog.Json.Printer
import TableCatalog.OrderedMap.Basic

/-!
# The schema document

A document maps environment names to schemas; a schema holds the tables of one environment and
the names of its auxiliary functions; a table maps column names to types. All three maps are
ordered, so a document fixes the order of everything in it.

Tables are built by one operation: `Tables.merge` writes columns into the table of a name, which
it creates if it is new. A table keeps its place, and so does a column that is written again.
-/

set_option autoImplicit false

namespace TableCatalog

/-- The columns of one table: name and type. -/
abbrev Columns := OrderedMap String ColumnType

abbrev Tables := OrderedMap String Columns

/-- Write columns into the table `name`, creating it if it is new. -/
def Tables.merge (tables : Tables) (name : String) (columns : Columns) : Tables :=
  tables.insert name (((tables.get? name).getD .empty).overlay columns)

/-- Write every table of `others` into `tables`, in order. -/
def Tables.mergeAll (tables others : Tables) : Tables :=
  others.toList.foldl (fun acc t => Tables.merge acc t.1 t.2) tables

/-- What is emitted for one environment. -/
structure EnvironmentSchema where
  tables : Tables
  magicFunctions : List String
deriving DecidableEq

def total (ns : List Nat) : Nat := ns.foldr (· + ·) 0

namespace EnvironmentSchema

def tableCount (s : EnvironmentSchema) : Nat := s.tables.size

def columnCount (s : EnvironmentSchema) : Nat := total (s.tables.values.map OrderedMap.size)

end EnvironmentSchema

abbrev Document := OrderedMap String EnvironmentSchema

/-! ## The written form -/

def Columns.toJson (columns : Columns) : Json :=
  .object (columns.toList.map fun c => (c.1, .text c.2))

def Tables.toJson (tables : Tables) : Json :=
  .object (tables.toList.map fun t => (t.1, Columns.toJson t.2))

/-- A schema as an object with the members `tables` and `magic_functions`. -/
def EnvironmentSchema.toJson (s : EnvironmentSchema) : Json :=
  .object [("tables", s.tables.toJson), ("magic_functions", .list (s.magicFunctions.map .text))]

def Document.toJson (d : Document) : Json :=
  .object (d.toList.map fun e => (e.1, e.2.toJson))

/-- The text of a document: its JSON form over several lines, and a final line break. -/
def Document.render (d : Document) : String := String.ofList (d.toJson.pretty ++ ['\n'])

end TableCatalog
