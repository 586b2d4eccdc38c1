import TableCatalog.CatalogError
import TableCatalog.Glob.Match

/-!
# The pages of a directory

The pages of an environment are the files directly in its directory whose name matches the
pattern. A link to a file counts as a file, a directory never does, and a name that begins with a
dot is left out whatever the pattern says. The pages come in the order of their names, compared
byte by byte, which for UTF-8 is the order by code point.
-/

set_option autoImplicit false

namespace TableCatalog

def compilePattern (pattern : String) : Except CatalogError Glob :=
  match Glob.parse pattern with
  | .ok g => .ok g
  | .error fault => .error (.badPattern pattern fault)

def isPage (t : FileTree) (directory : Path) (g : Glob) (name : String) : Bool :=
  t.isFile (Path.join directory name) && !Text.startsWith "." name.toList && g.accepts name

/-- The pages of a directory, as paths, in the order of their names. -/
def listPages (t : FileTree) (directory : Path) (g : Glob) : Except CatalogError (List Path) :=
  match t.list directory with
  | .ok names =>
    .ok (((names.filter (isPage t directory g)).mergeSort fun a b => decide (a ≤ b)).map
      (Path.join directory))
  | .error fault => .error (.unreadableDirectory directory fault)

end TableCatalog
