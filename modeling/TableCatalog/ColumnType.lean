import TableCatalog.Text.Lowercase

/-!
# Column types

A column type is a text. A reference page spells it freely; the catalog keeps its lower case,
and writes `long` for `bigint`, which is another name of the same type. Sixteen names are scalar
types of the query language; any other text is an unknown type, which the catalog keeps and the
check reports. Names are compared as they are: an unknown spelling of a known type is unknown.
-/

set_option autoImplicit false

namespace TableCatalog

/-- The type of a column, as written into the document. -/
abbrev ColumnType := String

namespace ColumnType

/-- The scalar types of the query language, aliases included. -/
def scalars : List ColumnType :=
  ["bool", "boolean", "datetime", "date", "dynamic", "guid", "uuid", "uniqueid", "int", "long",
    "real", "double", "decimal", "string", "timespan", "time"]

/-- Whether a type is a scalar type of the query language. -/
def isScalar (type : ColumnType) : Bool := scalars.contains type

/-- The type a page's spelling stands for: its lower case, with `bigint` read as `long`. -/
def normalize (spelling : String) : ColumnType :=
  let lowered := String.ofList (Text.lower spelling.toList)
  if lowered = "bigint" then "long" else lowered

end ColumnType

end TableCatalog
