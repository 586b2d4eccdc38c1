import TableCatalog.CatalogError
import TableCatalog.Log.Layout

/-!
# Runs

A run works on a `World`: the file tree, what has been written to the error stream, and the entries
noted so far. It returns a result or a `CatalogError`, and the world after it. Nothing that a run
returns is read from the log; the one way in which noting an entry can matter to what follows is
that the log goes to a file, and a file can be read.

A `Logger` says which entries are written, how and where. It does not change during a run. The
entries themselves are kept in full, whatever the logger lets through, so that a run can be asked
what it noted.
-/

set_option autoImplicit false

namespace TableCatalog

namespace Log

/-- Where log lines go. -/
inductive Sink
  | nowhere
  | errorStream
  | file (place : Location)
deriving DecidableEq

/-- Which entries are written, how and where. -/
structure Logger where
  filter : Filter
  format : Format
  colour : Bool
  /-- The time that a JSON line tells. -/
  time : String
  sink : Sink
deriving DecidableEq

def Logger.silent : Logger := ⟨⟨[]⟩, .full, false, "", .nowhere⟩

/-- The line that a logger writes for an entry, with its end, if it writes one. -/
def Logger.line? (l : Logger) (e : Entry) : Option String :=
  (l.filter.pass? e).map fun shown => line l.format l.colour l.time shown e.notice ++ "\n"

end Log

/-- What a run works on. -/
structure World where
  files : FileTree
  logger : Log.Logger
  /-- What has been written to the error stream. -/
  errors : String
  /-- Everything that has been noted, in order. -/
  entries : List Log.Entry

namespace World

/-- A world in which nothing has been noted and nothing is written. -/
def quiet (files : FileTree) : World := ⟨files, .silent, "", []⟩

def writeLine (w : World) (text : String) : World :=
  match w.logger.sink with
  | .nowhere => w
  | .errorStream => { w with errors := w.errors ++ text }
  | .file place => { w with files := w.files.append place text }

def note (w : World) (e : Log.Entry) : World :=
  let w := { w with entries := w.entries ++ [e] }
  match w.logger.line? e with
  | some text => w.writeLine text
  | none => w

end World

/-- A computation on a world that may fail. -/
def Run (α : Type) : Type := World → Except CatalogError α × World

namespace Run

variable {α β : Type}

def pure (a : α) : Run α := fun w => (.ok a, w)

/-- Go on with the value of a run, unless it failed. -/
def bind (x : Run α) (f : α → Run β) : Run β := fun w =>
  match x w with
  | (.ok a, w) => f a w
  | (.error e, w) => (.error e, w)

instance : Monad Run where
  pure := Run.pure
  bind := Run.bind

/-- A result that does not depend on the world. -/
def ofExcept (r : Except CatalogError α) : Run α := fun w => (r, w)

/-- A result that depends on the files. -/
def look (f : FileTree → Except CatalogError α) : Run α := fun w => (f w.files, w)

def note (scopes : List Log.Scope) (n : Log.Notice) : Run Unit := fun w =>
  (.ok (), w.note ⟨scopes, n⟩)

def noteAll (scopes : List Log.Scope) : List Log.Notice → Run Unit
  | [] => pure ()
  | n :: ns => do
    note scopes n
    noteAll scopes ns

@[simp]
theorem pure_apply (a : α) (w : World) : (Pure.pure a : Run α) w = (.ok a, w) := rfl

theorem bind_apply (x : Run α) (f : α → Run β) (w : World) :
    (x >>= f) w = match x w with
      | (.ok a, w) => f a w
      | (.error e, w) => (.error e, w) := rfl

end Run

end TableCatalog
