/-!
# What a run reports about itself

While it works, a run notes what it finds: which pages it saw, which tables it read, which rows it
passed over. A `Notice` is one such fact, a `Scope` an activity that the run is in the middle of,
and an `Entry` a notice with the scopes that are open, outermost first. An entry holds everything;
which entries are written, and how, is decided by `Log.Filter` and `Log.Layout`.

Every notice has a level, a source (the part of the program that speaks), a message and fields.
-/

set_option autoImplicit false

namespace TableCatalog.Log

/-- How much a notice matters, from most to least. -/
inductive Level
  | error
  | warn
  | info
  | debug
  | trace
deriving DecidableEq

/-- The place of a level in that order, from one. A threshold is a number on the same scale: it
lets through the levels up to its own number, and zero lets nothing through. -/
def Level.verbosity : Level → Nat
  | .error => 1
  | .warn => 2
  | .info => 3
  | .debug => 4
  | .trace => 5

def Level.name : Level → String
  | .error => "ERROR"
  | .warn => "WARN"
  | .info => "INFO"
  | .debug => "DEBUG"
  | .trace => "TRACE"

inductive Value
  | text (s : String)
  | count (n : Nat)
deriving DecidableEq

/-- A name and a value that belong to a notice or a scope. -/
abbrev Field := String × Value

def commandSource : String := "get_schemas::commands"

def buildSource : String := "kql_schema::builder"

def pageSource : String := "kql_schema::extract"

/-- An activity that a run is in the middle of. -/
inductive Scope
  | extract
  | check
  | environment (name : String)
deriving DecidableEq

namespace Scope

def name : Scope → String
  | .extract => "extract"
  | .check => "check"
  | .environment _ => "environment"

def source : Scope → String
  | .environment _ => buildSource
  | _ => commandSource

def fields : Scope → List Field
  | .environment name => [("name", .text name)]
  | _ => []

def level (_ : Scope) : Level := .info

end Scope

/-- A fact that a run notes. -/
inductive Notice
  /-- The pages of an environment have been listed. -/
  | pagesFound (directory pattern : String) (pages : Nat)
  | tableRead (file table : String) (columns : Nat)
  | headingMissing (file : String)
  | rowSkipped (row : String)
  | environmentDone (tables columns : Nat)
  | documentWritten (path : String)
deriving DecidableEq

namespace Notice

def level : Notice → Level
  | .pagesFound .. => .debug
  | .tableRead .. => .debug
  | .headingMissing .. => .warn
  | .rowSkipped .. => .trace
  | .environmentDone .. => .info
  | .documentWritten .. => .info

def source : Notice → String
  | .rowSkipped .. => pageSource
  | .documentWritten .. => commandSource
  | _ => buildSource

def message : Notice → String
  | .pagesFound .. => "discovered documentation files"
  | .tableRead .. => "extracted table"
  | .headingMissing .. => "no table heading found; skipping file"
  | .rowSkipped .. => "skipped table row"
  | .environmentDone .. => "environment extracted"
  | .documentWritten .. => "schema document written"

def fields : Notice → List Field
  | .pagesFound directory pattern pages =>
    [("dir", .text directory), ("pattern", .text pattern), ("files", .count pages)]
  | .tableRead file table columns =>
    [("file", .text file), ("table", .text table), ("columns", .count columns)]
  | .headingMissing file => [("file", .text file)]
  | .rowSkipped row => [("row", .text row)]
  | .environmentDone tables columns => [("tables", .count tables), ("columns", .count columns)]
  | .documentWritten path => [("path", .text path)]

end Notice

/-- A notice and the activities it was noted in, outermost first. -/
structure Entry where
  scopes : List Scope
  notice : Notice
deriving DecidableEq

end TableCatalog.Log
