/-!
# What can be set on the command line

A `Setting` is one thing that an argument beginning with a dash can set. Every setting has a long
name, some have a short one. Some take a value, which is a path, a free text or one of a few words.
`Place` says where on the command line an argument stands: before the verb or behind it. Most
settings may stand in both places; a few belong to some verbs only.
-/

set_option autoImplicit false

namespace TableCatalog.CommandLine

inductive Verb
  | extract
  | check
  | environments
deriving DecidableEq

def Verb.word : Verb → String
  | .extract => "extract"
  | .check => "check"
  | .environments => "environments"

def Verb.all : List Verb := [.extract, .check, .environments]

def Verb.ofWord? (word : String) : Option Verb := Verb.all.find? fun v => v.word = word

theorem Verb.ofWord?_word (v : Verb) : Verb.ofWord? v.word = some v := by
  cases v <;> decide

/-- Where an argument stands: before the verb, or behind it. -/
inductive Place
  | front
  | behind (verb : Verb)
deriving DecidableEq

inductive Setting
  | verbose
  | quiet
  | colour
  | logLevel
  | logFormat
  | logFile
  | docsRoot
  | overrides
  | environment
  | output
  | help
  | version
deriving DecidableEq

namespace Setting

def all : List Setting :=
  [.verbose, .quiet, .colour, .logLevel, .logFormat, .logFile, .docsRoot, .overrides,
   .environment, .output, .help, .version]

/-- The name behind two dashes. -/
def name : Setting → String
  | .verbose => "verbose"
  | .quiet => "quiet"
  | .colour => "color"
  | .logLevel => "log-level"
  | .logFormat => "log-format"
  | .logFile => "log-file"
  | .docsRoot => "docs-root"
  | .overrides => "overrides"
  | .environment => "env"
  | .output => "output"
  | .help => "help"
  | .version => "version"

/-- The letter behind one dash. -/
def letter? : Setting → Option Char
  | .verbose => some 'v'
  | .quiet => some 'q'
  | .output => some 'o'
  | .help => some 'h'
  | .version => some 'V'
  | _ => none

/-- What a value of the setting is called, if it takes one. -/
def valueName? : Setting → Option String
  | .colour => some "WHEN"
  | .logLevel => some "LOG_LEVEL"
  | .logFormat => some "LOG_FORMAT"
  | .logFile => some "PATH"
  | .docsRoot => some "DIR"
  | .overrides => some "PATH"
  | .environment => some "NAME"
  | .output => some "PATH"
  | _ => none

def takesValue (s : Setting) : Bool := s.valueName?.isSome

/-- Whether the setting may be given any number of times in one place. -/
def isRepeatable : Setting → Bool
  | .verbose => true
  | .quiet => true
  | .environment => true
  | _ => false

/-- How the setting is shown in a message: with the name of its value, or with dots when every
further time that it is given counts. -/
def shown (s : Setting) : String :=
  "--" ++ s.name ++
    match s.valueName? with
    | some value => " <" ++ value ++ ">"
    | none => if s.isRepeatable then "..." else ""

def standsIn (s : Setting) (p : Place) : Bool :=
  match s, p with
  | .environment, .behind .extract => true
  | .environment, .behind .check => true
  | .environment, _ => false
  | .output, .behind .extract => true
  | .output, _ => false
  | .version, .front => true
  | .version, _ => false
  | _, _ => true

/-- Whether a text is a value of the setting. A path is any text but the empty one. -/
def admits (s : Setting) (value : String) : Bool :=
  match s with
  | .colour => ["auto", "always", "never"].contains value
  | .logLevel => ["error", "warn", "info", "debug", "trace"].contains value
  | .logFormat => ["pretty", "compact", "json"].contains value
  | .environment => true
  | _ => !value.isEmpty

def ofName? (p : Place) (name : String) : Option Setting :=
  all.find? fun s => s.standsIn p && s.name = name

def ofLetter? (p : Place) (letter : Char) : Option Setting :=
  all.find? fun s => s.standsIn p && s.letter? = some letter

end Setting

end TableCatalog.CommandLine
