import TableCatalog.CommandLine.Reading
import TableCatalog.Path
import TableCatalog.Log.Layout

/-!
# What a command line asks for

An `Order` is a command with everything it needs. It is found from what was given on the command
line: behind the verb first, then before it, and else a default. Without a verb the order is to
extract all environments. The counts of `-v` and `-q` are not added up over the two places.

How much is logged is a threshold. It starts at warnings; every `-v` raises it and every `-q`
lowers it by one, and a named level replaces it. Only when none of the three is given may the
environment variable for filters speak.
-/

set_option autoImplicit false

namespace TableCatalog.CommandLine

/-- A command with its own settings. -/
inductive Command
  | extract (environments : List String) (output : Option Path)
  | check (environments : List String)
  | environments
deriving DecidableEq

structure LogOrder where
  /-- How many times more was asked for. -/
  verbose : Nat
  /-- How many times less was asked for. -/
  quiet : Nat
  level : Option Log.Level
  format : Log.Format
  colour : Bool
  file : Option Path
deriving DecidableEq

structure Order where
  command : Command
  docsRoot : Option Path
  overrides : Path
  log : LogOrder
deriving DecidableEq

def defaultOverrides : Path := "additional_columns.json"

namespace Arguments

/-- The values that a setting was given in one place, in order. -/
def valuesIn (gs : List Given) (s : Setting) : List String :=
  (gs.filter fun g => g.setting = s).map Given.value

/-- The value of a setting: the one behind the verb, else the one before it. -/
def value? (a : Arguments) (s : Setting) : Option String :=
  (valuesIn a.behind s).getLast? <|> (valuesIn a.front s).getLast?

def maxCount : Nat := 255

/-- How many times a setting was given: behind the verb, or else before it. -/
def count (a : Arguments) (s : Setting) : Nat :=
  let n := (valuesIn a.behind s).length
  min maxCount (if n = 0 then (valuesIn a.front s).length else n)

def command (a : Arguments) : Command :=
  match a.verb with
  | none => .extract [] none
  | some .extract => .extract (valuesIn a.behind .environment) (a.value? .output)
  | some .check => .check (valuesIn a.behind .environment)
  | some .environments => .environments

def levelOf? (name : String) : Option Log.Level :=
  [("error", Log.Level.error), ("warn", .warn), ("info", .info), ("debug", .debug),
   ("trace", .trace)].lookup name

def formatOf (name : String) : Log.Format :=
  if name = "compact" then .compact else if name = "json" then .json else .full

def order (a : Arguments) : Order where
  command := a.command
  docsRoot := a.value? .docsRoot
  overrides := (a.value? .overrides).getD defaultOverrides
  log :=
    { verbose := a.count .verbose
      quiet := a.count .quiet
      level := (a.value? .logLevel).bind levelOf?
      format := formatOf ((a.value? .logFormat).getD "pretty")
      colour := a.value? .colour = some "always"
      file := a.value? .logFile }

end Arguments

namespace LogOrder

/-- The threshold for the parts of this program. -/
def threshold (o : LogOrder) : Nat :=
  match o.level with
  | some l => l.verbosity
  | none => min Log.everything (Log.Level.warn.verbosity + o.verbose - o.quiet)

/-- Whether the environment variable for filters may speak. -/
def isSilent (o : LogOrder) : Bool := o.level.isNone && o.verbose = 0 && o.quiet = 0

/-- The filter; `asked` is the text of the environment variable for filters. One that cannot be
read counts as none. -/
def filter (o : LogOrder) (asked : Option String) : Log.Filter :=
  let given := if o.isSilent then asked.bind Log.Filter.parse? else none
  given.getD (.ofThreshold o.threshold)

end LogOrder

def read (arguments : List String) : Except Halt Order :=
  (readArguments arguments).map Arguments.order

end TableCatalog.CommandLine
