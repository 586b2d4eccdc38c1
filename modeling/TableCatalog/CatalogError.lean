import TableCatalog.FileTree.Basic
import TableCatalog.Glob.Pattern
import TableCatalog.Json.Complaint

/-!
# Why a catalog cannot be built

Seven causes, each with what its message needs. `message` is the wording; where a cause rests on
another one, `reason?` is the wording of that, which ends the message too. There is no cause for a
document that cannot be written as JSON, since every key of it is a text.
-/

set_option autoImplicit false

namespace TableCatalog

/-- Why a catalog, or a part of it, cannot be built. -/
inductive CatalogError
  | unreadableFile (path : Path) (fault : IoFault)
  | unreadableDirectory (path : Path) (fault : IoFault)
  | badOverrides (path : Path) (complaint : Json.Complaint)
  | missingOverrides (path : Path) (environment : String)
  | badPattern (pattern : String) (fault : Glob.Fault)
  /-- `directory` is the name as configured, `resolved` the place that was looked at when that is
  worth telling. -/
  | missingSource (environment : String) (directory : Path) (resolved : Option Path)
      (instructions : String)
  | unknownEnvironment (name : String)

namespace CatalogError

/-- What was wrong with a pattern, with the pattern. -/
def patternReason (pattern : String) (fault : Glob.Fault) : String :=
  "error parsing glob '" ++ pattern ++ "': " ++ fault.words

/-- The wording of the cause that an error rests on. -/
def reason? : CatalogError → Option String
  | .unreadableFile _ fault => some fault.message
  | .unreadableDirectory _ fault => some fault.message
  | .badOverrides _ complaint => some complaint.message
  | .badPattern pattern fault => some (patternReason pattern fault)
  | _ => none

def message : CatalogError → String
  | .unreadableFile path fault => "failed to read file " ++ path ++ ": " ++ fault.message
  | .unreadableDirectory path fault => "failed to read directory " ++ path ++ ": " ++ fault.message
  | .badOverrides path complaint =>
    "failed to parse override file " ++ path ++ ": " ++ complaint.message
  | .missingOverrides path environment =>
    "override file " ++ path ++ " has no entry for environment " ++ environment
  | .badPattern pattern fault =>
    "invalid file pattern " ++ pattern ++ ": " ++ patternReason pattern fault
  | .missingSource _ directory resolved instructions =>
    "ERROR: " ++ directory ++ " does not exist" ++
      (match resolved with
      | some place => " (looked for " ++ place ++ ")"
      | none => "") ++
      ". To create it, run:\n" ++ instructions
  | .unknownEnvironment name => "unknown environment: " ++ name

/-- Whether an error asks the operator to fetch a documentation tree. -/
def isMissingSource : CatalogError → Bool
  | .missingSource .. => true
  | _ => false

end CatalogError

end TableCatalog
