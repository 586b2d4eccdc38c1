import TableCatalog.Json.Printer
import TableCatalog.Log.Filter

/-!
# How a notice is written

One line per notice, in one of three formats. The two plain ones write the level, right-aligned,
then the open scopes, the message and the fields as `key=value`; they differ in where the fields of
the scopes stand: behind the scope's name in the full format, at the end of the line in the compact
one. They can be coloured. The third format is a JSON object, never coloured, with the time and the
source of the notice.

Colour is a pair of escape sequences around a piece of text; `Style.paint` without colour leaves
the text alone, so one function writes both versions of a format.
-/

set_option autoImplicit false

namespace TableCatalog.Log

inductive Format
  | full
  | compact
  | json
deriving DecidableEq

inductive Style
  | bold
  | dimmed
  | italic
  | level (l : Level)

def Style.code : Style → String
  | .bold => "1"
  | .dimmed => "2"
  | .italic => "3"
  | .level .error => "31"
  | .level .warn => "33"
  | .level .info => "32"
  | .level .debug => "34"
  | .level .trace => "35"

/-- A text in a style, if there is colour. -/
def Style.paint (style : Style) (colour : Bool) (text : String) : String :=
  if colour then "\x1b[" ++ style.code ++ "m" ++ text ++ "\x1b[0m" else text

def Value.plain : Value → String
  | .text s => s
  | .count n => toString n

def Value.toJson : Value → Json
  | .text s => .text s
  | .count n => .count n

/-- The name of a level, five characters wide. -/
def Level.padded (l : Level) : String :=
  String.ofList (List.replicate (5 - l.name.length) ' ') ++ l.name

def plainField (colour : Bool) (f : Field) : String :=
  Style.italic.paint colour f.1 ++ Style.dimmed.paint colour "=" ++ f.2.plain

def plainFields (colour : Bool) (fs : List Field) : String :=
  String.intercalate " " (fs.map (plainField colour))

def body (colour : Bool) (n : Notice) : String :=
  String.intercalate " " (n.message :: n.fields.map (plainField colour))

/-- A scope in the full format, with its colon. -/
def fullScope (colour : Bool) (s : Scope) : String :=
  let fields :=
    if s.fields.isEmpty then ""
    else
      Style.bold.paint colour "\x7b" ++ plainFields colour s.fields ++
        Style.bold.paint colour "\x7d"
  Style.bold.paint colour s.name ++ fields ++ Style.dimmed.paint colour ":"

def fullLine (colour : Bool) (shown : List Scope) (n : Notice) : String :=
  let scopes := String.join (shown.map (fullScope colour))
  (Style.level n.level).paint colour n.level.padded ++ " " ++
    (if shown.isEmpty then "" else scopes ++ " ") ++ body colour n

def compactLine (colour : Bool) (shown : List Scope) (n : Notice) : String :=
  let scopes := String.intercalate ":" (shown.map fun s => Style.bold.paint colour s.name)
  let fields := (shown.filter fun s => !s.fields.isEmpty).map fun s =>
    " " ++ Style.dimmed.paint colour (plainFields colour s.fields)
  (Style.level n.level).paint colour n.level.padded ++ " " ++
    (if shown.isEmpty then "" else scopes ++ ": ") ++ body colour n ++ String.join fields

/-- A scope as JSON: its fields and its name. -/
def Scope.toJson (s : Scope) : Json :=
  .object (s.fields.map (fun f => (f.1, f.2.toJson)) ++ [("name", .text s.name)])

/-- A line in the JSON format, without its end. The innermost scope is written twice. -/
def jsonLine (time : String) (shown : List Scope) (n : Notice) : String :=
  let scopes := match shown.getLast? with
    | some inner => [("span", inner.toJson), ("spans", .list (shown.map Scope.toJson))]
    | none => []
  String.ofList (Json.object ([
    ("timestamp", .text time),
    ("level", .text n.level.name),
    ("fields", .object (("message", .text n.message) ::
      n.fields.map fun f => (f.1, f.2.toJson))),
    ("target", .text n.source)] ++ scopes)).compact

/-- A line of the log, without its end. -/
def line (format : Format) (colour : Bool) (time : String) (shown : List Scope) (n : Notice) :
    String :=
  match format with
  | .full => fullLine colour shown n
  | .compact => compactLine colour shown n
  | .json => jsonLine time shown n

end TableCatalog.Log
