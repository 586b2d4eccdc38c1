import TableCatalog.Schema

/-!
# Columns of unknown type

The readers of a document accept only scalar types, so a type that a page or an override file
spells wrongly is reported before the document is used. The report lists every such column, in
the order of the document.
-/

set_option autoImplicit false

namespace TableCatalog

/-- A column whose type is no scalar type. -/
structure UnknownType where
  environment : String
  table : String
  column : String
  type : ColumnType
deriving DecidableEq

def Columns.unknownTypes (environment table : String) (columns : Columns) : List UnknownType :=
  (columns.toList.filter fun c => !c.2.isScalar).map fun c => ⟨environment, table, c.1, c.2⟩

/-- Every column of unknown type, in document order. -/
def Document.unknownTypes (d : Document) : List UnknownType :=
  d.toList.flatMap fun e => e.2.tables.toList.flatMap fun t =>
    Columns.unknownTypes e.1 t.1 t.2

end TableCatalog
