import TableCatalog.CommandLine.Setting

/-!
# What can be wrong with a command line

Seven causes, and one wording for each. Reading stops at the first one.
-/

set_option autoImplicit false

namespace TableCatalog.CommandLine

inductive Misuse
  | valueMissing (setting : Setting)
  | badValue (setting : Setting) (value : String)
  | valueUnexpected (setting : Setting) (value : String)
  /-- A setting that may be given once is given again in the same place. -/
  | repeated (setting : Setting)
  | conflict (first second : Setting)
  /-- An argument has no meaning where it stands. -/
  | unexpected (argument : String)
  | unknownVerb (word : String)
deriving DecidableEq

/-- The wording of a misuse, in its first line. The values that would do, the hints and the usage,
which stand in the lines behind it, are left out. An empty value is worded as a missing one. -/
def Misuse.message : Misuse → String
  | .valueMissing s => "a value is required for '" ++ s.shown ++ "' but none was supplied"
  | .badValue s value =>
    if value.isEmpty then "a value is required for '" ++ s.shown ++ "' but none was supplied"
    else "invalid value '" ++ value ++ "' for '" ++ s.shown ++ "'"
  | .valueUnexpected s value =>
    "unexpected value '" ++ value ++ "' for '" ++ s.shown ++ "' found; no more were expected"
  | .repeated s => "the argument '" ++ s.shown ++ "' cannot be used multiple times"
  | .conflict a b => "the argument '" ++ a.shown ++ "' cannot be used with '" ++ b.shown ++ "'"
  | .unexpected argument => "unexpected argument '" ++ argument ++ "' found"
  | .unknownVerb word => "unrecognized subcommand '" ++ word ++ "'"

end TableCatalog.CommandLine
