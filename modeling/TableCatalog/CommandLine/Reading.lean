import TableCatalog.CommandLine.Misuse

/-!
# Reading a command line

The arguments are read from left to right, in two places: those before the verb and those behind
it. Within a place a `Reading` holds what has been given so far. A setting whose value comes as an
argument of its own is held back: it is taken in only when the next setting comes or the place
ends, so what is wrong with it is found after what is wrong with the word in between. For the same
reason the settings before the verb are finished last: what is wrong behind the verb comes first.

After two dashes alone every argument is a word, and no word has a meaning there.
-/

set_option autoImplicit false

namespace TableCatalog.CommandLine

/-- A setting that has been given, with its value; the value of a setting that takes none is
empty. -/
structure Given where
  setting : Setting
  value : String
deriving DecidableEq

/-- Why no verb is carried out. -/
inductive Halt
  | help
  | version
  | misuse (m : Misuse)
deriving DecidableEq

/-- What has been read in one place. -/
structure Reading where
  /-- What has been given, in order. -/
  given : List Given
  /-- A setting that has not been taken in yet, and its value if that has come. -/
  held : Option (Setting × Option String)
  /-- Whether two dashes have been read. -/
  wordsOnly : Bool
deriving DecidableEq

namespace Reading

def start : Reading := ⟨[], none, false⟩

def has (r : Reading) (s : Setting) : Bool := r.given.any fun g => g.setting = s

def take (r : Reading) (s : Setting) (value : String) : Except Halt Reading :=
  if r.has s && !s.isRepeatable then .error (.misuse (.repeated s))
  else if s.takesValue && !s.admits value then .error (.misuse (.badValue s value))
  else .ok { r with given := r.given ++ [⟨s, value⟩] }

/-- Take in the setting that is held back. -/
def settle (r : Reading) : Except Halt Reading :=
  match r.held with
  | none => .ok r
  | some (s, none) => .error (.misuse (.valueMissing s))
  | some (s, some value) => { r with held := none }.take s value

/-- Take in a setting that stands with its value in one argument. -/
def give (r : Reading) (s : Setting) (value : String) : Except Halt Reading := do
  (← r.settle).take s value

/-- Hold back a setting whose value is the next argument. -/
def hold (r : Reading) (s : Setting) : Except Halt Reading := do
  return { ← r.settle with held := some (s, none) }

/-- Take in a setting without a value. Asking for help or for the version ends the reading. -/
def raise (r : Reading) (s : Setting) : Except Halt Reading := do
  let r ← r.settle
  match s with
  | .help => .error .help
  | .version => .error .version
  | _ => r.take s ""

/-- Read an argument that begins with two dashes; `cs` is what stands behind them. -/
def readNamed (p : Place) (r : Reading) (cs : List Char) : Except Halt Reading :=
  let name := String.ofList (cs.takeWhile (· ≠ '='))
  let value? := match cs.dropWhile (· ≠ '=') with
    | _ :: value => some (String.ofList value)
    | [] => none
  match Setting.ofName? p name, value? with
  | none, _ => .error (.misuse (.unexpected ("--" ++ name)))
  | some s, some value =>
    if s.takesValue then r.give s value else .error (.misuse (.valueUnexpected s value))
  | some s, none => if s.takesValue then r.hold s else r.raise s

/-- Read the letters of an argument that begins with one dash. The first one that takes a value
ends them: the rest is its value, and an equals sign may stand in between. -/
def readLetters (p : Place) (r : Reading) : List Char → Except Halt Reading
  | [] => .ok r
  | c :: cs =>
    match Setting.ofLetter? p c with
    | none => .error (.misuse (.unexpected (String.ofList ['-', c])))
    | some s =>
      if s.takesValue then
        match cs with
        | [] => r.hold s
        | '=' :: value => r.give s (String.ofList value)
        | value => r.give s (String.ofList value)
      else
        match r.raise s with
        | .ok r => r.readLetters p cs
        | .error h => .error h

/-- What is wrong with a word that is neither a verb nor a value. -/
def stray (p : Place) (r : Reading) (word : String) : Misuse :=
  match p with
  | .behind _ => .unexpected word
  | .front =>
    if r.wordsOnly && (word = "help" || (Verb.ofWord? word).isSome) then .unexpected word
    else .unknownVerb word

/-- Read one argument that is no verb. -/
def readArgument (p : Place) (r : Reading) (argument : String) : Except Halt Reading :=
  if r.wordsOnly then .error (.misuse (r.stray p argument))
  else
    match argument.toList with
    | ['-', '-'] => .ok { r with wordsOnly := true }
    | '-' :: '-' :: cs => r.readNamed p cs
    | '-' :: c :: cs => r.readLetters p (c :: cs)
    | _ =>
      match r.held with
      | some (s, none) => .ok { r with held := some (s, some argument) }
      | _ => .error (.misuse (r.stray p argument))

/-- Whether a word may be a verb: no setting is waiting for its value. -/
def expectsVerb (r : Reading) : Bool :=
  !r.wordsOnly &&
    match r.held with
    | some (_, none) => false
    | _ => true

/-- Whether a setting is one of the two that contradict each other. -/
def isLoudness (s : Setting) : Bool := s = .verbose || s = .quiet

/-- End a place: what is held back is taken in, and a contradiction is found. Of the two settings
that contradict each other the one that was given last is named last. -/
def finish (r : Reading) : Except Halt (List Given) := do
  let r ← r.settle
  match (r.given.filter fun g => isLoudness g.setting).getLast? with
  | none => return r.given
  | some last =>
    let other := if last.setting = .verbose then Setting.quiet else .verbose
    if r.has other then .error (.misuse (.conflict other last.setting)) else return r.given

end Reading

/-! ## Both places -/

/-- What was given before the verb, the verb, and what was given behind it. -/
structure Arguments where
  front : List Given
  verb : Option Verb
  behind : List Given
deriving DecidableEq

def readBehind (v : Verb) (r : Reading) : List String → Except Halt (List Given)
  | [] => r.finish
  | argument :: rest =>
    match r.readArgument (.behind v) argument with
    | .ok r => readBehind v r rest
    | .error h => .error h

/-- Asking for help by a word: the words behind it name at most one verb, or ask for help on
help. -/
def haltForHelp : List String → Halt
  | [] => .help
  | word :: rest =>
    if word = "help" || (Verb.ofWord? word).isSome then
      match rest with
      | [] => .help
      | next :: _ => .misuse (.unknownVerb next)
    else .misuse (.unknownVerb word)

/-- Read the arguments before the verb, and then the others. -/
def readFront (r : Reading) : List String → Except Halt Arguments
  | [] => do return ⟨← r.finish, none, []⟩
  | argument :: rest =>
    if r.expectsVerb && argument = "help" then .error (haltForHelp rest)
    else
      match if r.expectsVerb then Verb.ofWord? argument else none with
      | some v => do
        let behind ← readBehind v .start rest
        return ⟨← r.finish, some v, behind⟩
      | none =>
        match r.readArgument .front argument with
        | .ok r => readFront r rest
        | .error h => .error h

def readArguments (arguments : List String) : Except Halt Arguments := readFront .start arguments

end TableCatalog.CommandLine
