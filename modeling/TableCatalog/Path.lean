import TableCatalog.Text.Blank

/-!
# Paths

A path is the text a user typed. It is never normalised: joining puts text behind text, and a
message shows the path as it was given. Only two questions look inside a path, and both cut it
at its slashes: where it leads (`FileTree`) and whether it is just another way to write the
current directory (`Path.isCurrent`).
-/

set_option autoImplicit false

namespace TableCatalog

/-- A path as it was typed. -/
abbrev Path := String

namespace Path

/-- The parts between the slashes, empty ones included. -/
def segments (path : Path) : List String :=
  (Text.pieces '/' path.toList).map String.ofList

def isAbsolute (path : Path) : Bool := Text.startsWith "/" path.toList

def endsInSlash (path : Path) : Bool := path.toList.getLast? == some '/'

/-- `name` seen from `root`: an absolute name stands for itself, and so does a name seen from the
empty path; otherwise one slash stands between the two. -/
def join (root name : Path) : Path :=
  if isAbsolute name || root.isEmpty then name
  else if endsInSlash root then root ++ name
  else root ++ "/" ++ name

/-- Whether a path is written as the current directory and nothing else: it begins with a dot,
and its parts are dots or empty. -/
def isCurrent (path : Path) : Bool :=
  !path.isEmpty && !isAbsolute path &&
    (segments path).all fun part => part.isEmpty || part == "."

end Path

end TableCatalog
