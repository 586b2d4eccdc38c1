import TableCatalog.Log.Notice
import TableCatalog.Text.Blank

/-!
# Which notices are written

A filter is a list of directives separated by commas:

    level                      a threshold for everything
    source                     everything from the sources that begin so
    source=level               a threshold for those sources
    [scope{field=value}]       everything inside a scope
    source[scope{field}]=level and any combination

A level is a name in any case or a number from 0 (`off`) to 5 (`trace`). Of the directives on
sources the most specific one decides: the longest source, then the most fields, then the last
written. A directive that names a scope, or the value of a field, lets notices through while such a
scope is open, whatever the others say; the scope itself is then always shown. A filter without any
directive lets errors through. The value of a field is compared as it is written: a pattern in its
place is not read as one.

A scope that is not let through is not shown, and what happens inside it is judged as if it were
not there.
-/

set_option autoImplicit false

namespace TableCatalog.Log

/-- One directive. A field may come with the value it must have. -/
structure Directive where
  source : Option String
  scope : Option String
  fields : List (String × Option String)
  threshold : Nat
deriving DecidableEq

structure Filter where
  directives : List Directive
deriving DecidableEq

/-! ## Reading -/

def foldCase (cs : List Char) : List Char := cs.map Char.toLower

def everything : Nat := 5

/-- A number without sign, with any number of leading zeros. A plus sign may stand before it. -/
def thresholdNumber? (cs : List Char) : Option Nat :=
  let digits := match cs with
    | '+' :: rest => rest
    | _ => cs
  if digits.isEmpty || !digits.all Char.isDigit then none
  else
    let n := digits.foldl (fun n c => n * 10 + (c.toNat - 48)) 0
    if n ≤ everything then some n else none

def threshold? (cs : List Char) : Option Nat :=
  match thresholdNumber? cs with
  | some n => some n
  | none =>
    let name := foldCase cs
    if name = "off".toList then some 0
    else if name = "error".toList then some 1
    else if name = "warn".toList then some 2
    else if name = "info".toList then some 3
    else if name = "debug".toList then some 4
    else if name = "trace".toList then some 5
    else none

/-- The end of a directive: nothing, or an equals sign and perhaps a level. -/
def thresholdPart (d : Directive) : List Char → Option Directive
  | [] => some { d with threshold := everything }
  | '=' :: cs =>
    if cs.isEmpty then some { d with threshold := everything }
    else (threshold? cs).map fun n => { d with threshold := n }
  | _ => none

/-- A field name, perhaps with an equals sign and a value. -/
def fieldOf (cs : List Char) : String × Option String :=
  match cs.dropWhile (· ≠ '=') with
  | _ :: value =>
    (String.ofList (cs.takeWhile (· ≠ '=')), some (String.ofList (value.takeWhile (· ≠ '='))))
  | [] => (String.ofList cs, none)

/-- A scope behind its opening bracket, and the rest of the directive. -/
def scopePart (d : Directive) (cs : List Char) : Option Directive :=
  let name := cs.takeWhile fun c => c ≠ ']' && c ≠ '\x7b'
  match cs.dropWhile fun c => c ≠ ']' && c ≠ '\x7b' with
  | ']' :: rest => thresholdPart { d with scope := some (String.ofList name) } rest
  | '\x7b' :: rest =>
    let field := rest.takeWhile (· ≠ '\x7d')
    match rest.dropWhile (· ≠ '\x7d') with
    | '\x7d' :: ']' :: rest =>
      if field.isEmpty then none
      else
        thresholdPart
          { d with
            scope := if name.isEmpty then none else some (String.ofList name)
            fields := [fieldOf field] }
          rest
    | _ => none
  | _ => none

/-- Whether a source may begin with a character. A character outside ASCII may. -/
def startsSource (c : Char) : Bool :=
  c.isAlphanum || c = '-' || c = ':' || c = '_' || decide (0x80 ≤ c.toNat)

def Directive.parse? (cs : List Char) : Option Directive :=
  let blank : Directive := ⟨none, none, [], everything⟩
  match cs with
  | [] => none
  | '[' :: rest => scopePart blank rest
  | c :: _ =>
    if startsSource c then
      let head := cs.takeWhile fun c => c ≠ '=' && c ≠ '['
      match cs.dropWhile fun c => c ≠ '=' && c ≠ '[' with
      | [] =>
        match threshold? head with
        | some n => some { blank with threshold := n }
        | none => some { blank with source := some (String.ofList head) }
      | '[' :: rest => scopePart { blank with source := some (String.ofList head) } rest
      | rest => thresholdPart { blank with source := some (String.ofList head) } rest
    else none

/-- Read one directive that may have white space around it. Space behind a bracket is dropped; all
other space is a part of the word it stands at. No source has space in it, so such a word is a
source that meets nothing, and a level with space in it is none. -/
def Directive.read? (cs : List Char) : Option Directive :=
  let body := Text.trim cs
  if Text.trimStart cs = cs then Directive.parse? (if body.getLast? = some ']' then body else cs)
  else if body.contains '=' then none
  else (Directive.parse? body).map fun _ => ⟨some (String.ofList cs), none, [], everything⟩

/-- Read a filter; `none` if any directive is malformed. -/
def Filter.parse? (text : String) : Option Filter :=
  (((Text.pieces ',' text.toList).filter fun p => !p.isEmpty).mapM Directive.read?).map fun ds =>
    if ds.isEmpty then ⟨[⟨none, none, [], Level.error.verbosity⟩]⟩ else ⟨ds⟩

/-! ## Deciding -/

namespace Directive

/-- Whether a directive is about open scopes: it names one, or a field. -/
def isAboutScopes (d : Directive) : Bool := d.scope.isSome || !d.fields.isEmpty

/-- Whether a directive is about sources: it names no scope and no value. -/
def isAboutSources (d : Directive) : Bool :=
  d.scope.isNone && d.fields.all fun f => f.2.isNone

/-- Whether a source is one the directive is about. -/
def meets (d : Directive) (source : String) : Bool :=
  match d.source with
  | some start => start.toList.isPrefixOf source.toList
  | none => true

/-- Whether a scope is one the directive is about, values aside. -/
def concerns (d : Directive) (s : Scope) : Bool :=
  d.meets s.source && (d.scope.all fun name => name = s.name) &&
    d.fields.all fun f => s.fields.any fun g => g.1 = f.1

/-- Whether a scope's fields have the values that the directive asks for. -/
def agrees (d : Directive) (s : Scope) : Bool :=
  d.fields.all fun f =>
    match f.2 with
    | some value => s.fields.contains (f.1, .text value)
    | none => true

/-- How specific a directive on sources is: the length of the source, counted from one, and the
number of fields. -/
def rank (d : Directive) : Nat × Nat :=
  ((d.source.map fun start => start.utf8ByteSize + 1).getD 0, d.fields.length)

/-- Whether a directive yields to a later one: it is no more specific, and of two that are equally
specific the one with the greater field names, or the later one, wins. -/
def yieldsTo (d later : Directive) : Bool :=
  let a := d.rank
  let b := later.rank
  decide (a.1 < b.1) || (a.1 = b.1 && (decide (a.2 < b.2) || (a.2 = b.2 &&
    !decide (later.fields.map Prod.fst < d.fields.map Prod.fst))))

end Directive

namespace Filter

def onSources (f : Filter) : List Directive := f.directives.filter Directive.isAboutSources

def onScopes (f : Filter) : List Directive := f.directives.filter Directive.isAboutScopes

def greatest (ns : List Nat) : Nat := ns.foldl max 0

def scopeCeiling (f : Filter) : Nat := greatest (f.onScopes.map Directive.threshold)

/-- What no directive can let through: beyond the greatest threshold, unless a directive asks for
the value of a field. -/
def ceiling (f : Filter) : Nat :=
  if f.onScopes.any fun d => d.fields.any fun g => g.2.isSome then everything
  else max (greatest (f.onSources.map Directive.threshold)) f.scopeCeiling

/-- The directive that decides about a source. `fields` are the names of a notice's fields; a
scope is judged by its source alone. -/
def decisive? (f : Filter) (source : String) (fields : Option (List String)) : Option Directive :=
  (f.onSources.filter fun d => d.meets source && match fields with
      | some names => d.fields.all fun g => names.contains g.1
      | none => true).foldl
    (fun best d => match best with
      | some b => if b.yieldsTo d then some d else some b
      | none => some d)
    none

/-- Whether the directives on sources let something through. -/
def sourceAllows (f : Filter) (level : Level) (source : String) (fields : Option (List String)) :
    Bool :=
  match f.decisive? source fields with
  | some d => decide (level.verbosity ≤ d.threshold)
  | none => false

/-- Whether an open scope lets something through; `open_` are the thresholds of the open scopes
that a directive is about. -/
def scopeAllows (f : Filter) (level : Level) (open_ : List Nat) : Bool :=
  decide (level.verbosity ≤ f.scopeCeiling) && open_.any fun n => decide (level.verbosity ≤ n)

/-- The threshold that a scope sets while it is open, if a directive is about it. -/
def threshold? (f : Filter) (s : Scope) : Option Nat :=
  let ds := f.onScopes.filter fun d => d.concerns s
  if ds.isEmpty then none
  else some (greatest ((ds.filter fun d => d.agrees s).map Directive.threshold))

/-- Open the scopes one inside the other: those that are shown, and the thresholds they set. -/
def enter (f : Filter) (open_ : List Nat) : List Scope → List Scope × List Nat
  | [] => ([], open_)
  | s :: rest =>
    let shown :=
      decide (s.level.verbosity ≤ f.ceiling) &&
        ((f.threshold? s).isSome || f.sourceAllows s.level s.source none ||
          f.scopeAllows s.level open_)
    if shown then
      let (more, open_) := f.enter ((f.threshold? s).toList ++ open_) rest
      (s :: more, open_)
    else f.enter open_ rest

/-- The scopes of an entry that are shown, if the entry is let through. -/
def pass? (f : Filter) (e : Entry) : Option (List Scope) :=
  let (shown, open_) := f.enter [] e.scopes
  let level := e.notice.level
  if level.verbosity ≤ f.ceiling ∧
      (f.sourceAllows level e.notice.source (some ("message" :: e.notice.fields.map Prod.fst)) ∨
        f.scopeAllows level open_) then
    some shown
  else none

/-- The filter of a command line without directives of its own: one threshold for the parts of
this program, and warnings for everything else. -/
def ofThreshold (n : Nat) : Filter :=
  ⟨[⟨none, none, [], Level.warn.verbosity⟩, ⟨some "kql_schema", none, [], n⟩,
    ⟨some "kql_schema_cli", none, [], n⟩, ⟨some "get_schemas", none, [], n⟩]⟩

end Filter

end TableCatalog.Log
