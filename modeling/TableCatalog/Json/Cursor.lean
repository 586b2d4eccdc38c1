/-!
# Where a reader stands in a JSON text

A cursor is the text that is left and the place it begins at. Places are counted as a reader of
bytes counts them: lines from one, and within a line the number of bytes consumed, so the place
before the first byte of a line has column zero. A character moves the place by the length of its
UTF-8 form.

A complaint is reported at one of two places: where the cursor stands, or one byte further
(`Cursor.ahead`) when the byte that gave offence was looked at and not yet consumed.
-/

set_option autoImplicit false

namespace TableCatalog.Json

/-- A line, from one, and the number of bytes consumed on it. -/
structure Place where
  line : Nat
  column : Nat
deriving DecidableEq, Repr

def Place.start : Place := ⟨1, 0⟩

def Place.after (p : Place) (c : Char) : Place :=
  if c = '\n' then ⟨p.line + 1, 0⟩ else ⟨p.line, p.column + c.utf8Size⟩

/-- The place after the first `n` bytes of a character. -/
def Place.into (p : Place) (c : Char) (n : Nat) : Place :=
  if c = '\n' then ⟨p.line + 1, 0⟩ else ⟨p.line, p.column + n⟩

/-- The text that is left and the place it begins at. -/
structure Cursor where
  rest : List Char
  place : Place

def Cursor.ofText (cs : List Char) : Cursor := ⟨cs, .start⟩

/-- One byte beyond the cursor, or the cursor's own place at the end of the text. -/
def Cursor.ahead (k : Cursor) : Place :=
  match k.rest with
  | [] => k.place
  | c :: _ => k.place.into c 1

/-- Step over one character; at the end of the text, stay. -/
def Cursor.next (k : Cursor) : Cursor :=
  match k.rest with
  | [] => k
  | c :: cs => ⟨cs, k.place.after c⟩

/-- The four characters that may stand between the tokens of a JSON text. -/
def isSpace (c : Char) : Bool := c == ' ' || c == '\n' || c == '\t' || c == '\r'

/-- Step over the space at `cs`, which begins at `p`. -/
def skipFrom (p : Place) : List Char → Cursor
  | [] => ⟨[], p⟩
  | c :: cs => if isSpace c then skipFrom (p.after c) cs else ⟨c :: cs, p⟩

def Cursor.skipSpace (k : Cursor) : Cursor := skipFrom k.place k.rest

end TableCatalog.Json
