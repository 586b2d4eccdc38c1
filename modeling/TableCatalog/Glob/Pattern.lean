import TableCatalog.Glob.Token

/-!
# Reading a file name pattern

    ?        one byte                     [abc] [a-z]   one byte of a class
    *        a run without a slash        [!ab] [^ab]   one byte not in the class
    **       directories, as a component  {a,b}         any of several patterns
    \c       the character c              other         itself

Two stars mean directories only when they fill a component of the pattern: at the beginning or
behind a slash (or, in a group, behind a brace or a comma), and before a slash or the end.
Elsewhere they are two single stars. A bracket that comes first in a class stands for itself, and
so does a dash that comes first or last. A comma outside braces is an ordinary character.

The reader is a fold over the characters. It keeps a `State`, which holds the tokens of the branch
being read and the groups that are open, and a `Mode`, which says what the next character may
complete; two stars are settled by the character behind them.
-/

set_option autoImplicit false

namespace TableCatalog.Glob

/-- Why a text is no pattern. -/
inductive Fault
  | unclosedClass
  | invalidRange (first last : Char)
  | unopenedGroup
  | unclosedGroup
  | danglingEscape
deriving DecidableEq

def Fault.words : Fault → String
  | .unclosedClass => "unclosed character class; missing ']'"
  | .invalidRange first last =>
    "invalid range; '" ++ first.toString ++ "' > '" ++ last.toString ++ "'"
  | .unopenedGroup =>
    "unopened alternate group; missing '\x7b' (maybe escape '\x7d' with '[\x7d]'?)"
  | .unclosedGroup =>
    "unclosed alternate group; missing '\x7d' (maybe escape '\x7b' with '[\x7b]'?)"
  | .danglingEscape => "dangling '\\'"

/-- An open group: its finished branches and what precedes it, both last one first. -/
structure OpenGroup where
  branches : List (List Token)
  before : List Token

/-- What has been read: the tokens of the current branch, last one first, the groups that are
open, innermost first, and the character before the next one. -/
structure State where
  branch : List Token
  groups : List OpenGroup
  previous : Option Char

/-- What has been read of a class. `range` says that a dash is waiting for the end of a range. -/
structure Class where
  negated : Bool
  ranges : List (Char × Char)
  first : Bool
  range : Bool

/-- What the reader is in the middle of. -/
inductive Mode
  | plain
  /-- Behind a backslash. -/
  | escape
  /-- Behind the bracket that opens a class. -/
  | classStart
  | inClass (c : Class)
  | star
  | twoStars

/-- The state after a token and the character it ended with. -/
def State.push (s : State) (t : Token) (c : Char) : State :=
  { s with branch := t :: s.branch, previous := some c }

/-- Whether two stars may begin a component here, given that the branch is not empty. -/
def State.componentStart (s : State) : Bool :=
  match s.previous with
  | some c => c = '/' || ((c = ',' || c = '\x7b') && !s.groups.isEmpty)
  | none => false

/-- Put a directories token in the place of the last one, which was the slash before it; another
directories token at the start or the end of a branch absorbs it. -/
def State.directories (s : State) (t : Token) (c : Char) : State :=
  match s.branch with
  | .leadingDirs :: _ => { s with previous := some c }
  | .trailingDirs :: _ => { s with previous := some c }
  | _ :: rest => { s with branch := t :: rest, previous := some c }
  | [] => { s with branch := [t], previous := some c }

def State.pushTwoStars (s : State) : State := (s.push .star '*').push .star '*'

def State.close (s : State) : Except Fault State :=
  match s.groups with
  | [] => .error .unopenedGroup
  | g :: gs =>
    .ok ⟨.group (s.branch.reverse :: g.branches).reverse :: g.before, gs, some '\x7d'⟩

/-- A comma: the next branch of the innermost group, or itself. -/
def State.comma (s : State) : State :=
  match s.groups with
  | [] => s.push (.ofChar ',') ','
  | g :: gs => ⟨[], { g with branches := s.branch.reverse :: g.branches } :: gs, some ','⟩

/-- Add a character to a class, which may end a range. -/
def Class.add (k : Class) (c : Char) : Except Fault Class :=
  match k.range, k.ranges with
  | true, (first, _) :: rest =>
    if c < first then .error (.invalidRange first c)
    else .ok { k with ranges := (first, c) :: rest, first := false, range := false }
  | _, ranges => .ok { k with ranges := (c, c) :: ranges, first := false, range := false }

/-- The token of a finished class. A dash that is still waiting stands for itself. -/
def Class.token (k : Class) : Token :=
  let all := (if k.range then ('-', '-') :: k.ranges else k.ranges).reverse
  let bytes := all.flatMap fun r => rangeBytes r.1 r.2
  if k.negated then .noneOf bytes else .oneOf bytes

/-! ## One character at a time -/

/-- A character outside classes and escapes, not behind a star. -/
def plainStep (s : State) (c : Char) : Except Fault (Mode × State) :=
  if c = '?' then .ok (.plain, s.push .anyByte c)
  else if c = '*' then .ok (.star, s)
  else if c = '[' then .ok (.classStart, s)
  else if c = '\x7b' then .ok (.plain, ⟨[], ⟨[], s.branch⟩ :: s.groups, some c⟩)
  else if c = '\x7d' then s.close.map (.plain, ·)
  else if c = ',' then .ok (.plain, s.comma)
  else if c = '\\' then .ok (.escape, s)
  else .ok (.plain, s.push (.ofChar c) c)

def classStep (s : State) (k : Class) (c : Char) : Except Fault (Mode × State) :=
  if c = ']' && !k.first then .ok (.plain, s.push k.token c)
  else if c = '-' && !k.first && !k.range then .ok (.inClass { k with range := true }, s)
  else (k.add c).map (.inClass ·, s)

def twoStarsStep (s : State) (c : Char) : Except Fault (Mode × State) :=
  if s.branch.isEmpty then
    if c = '/' then .ok (.plain, s.push .leadingDirs c) else plainStep s.pushTwoStars c
  else if s.componentStart then
    if c = '/' then .ok (.plain, s.directories .middleDirs c)
    else if (c = ',' || c = '\x7d') && !s.groups.isEmpty then
      plainStep (s.directories .trailingDirs '*') c
    else plainStep s.pushTwoStars c
  else plainStep s.pushTwoStars c

def step (m : Mode × State) (c : Char) : Except Fault (Mode × State) :=
  match m with
  | (.plain, s) => plainStep s c
  | (.escape, s) => .ok (.plain, s.push (.ofChar c) c)
  | (.classStart, s) =>
    if c = '!' || c = '^' then .ok (.inClass ⟨true, [], true, false⟩, s)
    else classStep s ⟨false, [], true, false⟩ c
  | (.inClass k, s) => classStep s k c
  | (.star, s) => if c = '*' then .ok (.twoStars, s) else plainStep (s.push .star '*') c
  | (.twoStars, s) => twoStarsStep s c

def finish (m : Mode × State) : Except Fault State :=
  match m with
  | (.plain, s) => .ok s
  | (.escape, _) => .error .danglingEscape
  | (.classStart, _) => .error .unclosedClass
  | (.inClass _, _) => .error .unclosedClass
  | (.star, s) => .ok (s.push .star '*')
  | (.twoStars, s) =>
    if s.branch.isEmpty then .ok (s.push .leadingDirs '*')
    else if s.componentStart then .ok (s.directories .trailingDirs '*')
    else .ok s.pushTwoStars

end TableCatalog.Glob

/-- A file name pattern: its tokens, in order. -/
structure TableCatalog.Glob where
  tokens : List TableCatalog.Glob.Token

namespace TableCatalog.Glob

def parse (pattern : String) : Except Fault Glob := do
  let s ← finish (← pattern.toList.foldlM step (.plain, ⟨[], [], none⟩))
  if s.groups.isEmpty then .ok ⟨s.branch.reverse⟩ else .error .unclosedGroup

end TableCatalog.Glob
