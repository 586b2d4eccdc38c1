import TableCatalog.Json.Literal
import TableCatalog.Json.Number
import TableCatalog.OrderedMap.Basic

/-!
# Reading nested objects of texts

The catalog reads one shape of JSON: objects within objects, with texts at the bottom. A `Reader`
takes a cursor and returns a value and the cursor behind it, or a complaint. There are two of
them, `text` and `object`; an object is read by giving the reader of its members' values, so the
shape of a file is a term such as `object (object (object text))`.

A key that comes again replaces the earlier value and keeps the earlier place, as `insert` does.

An object's members are read one after the other with as much fuel as there are characters left,
and every member consumes some, so the fuel never runs out.
-/

set_option autoImplicit false

namespace TableCatalog.Json

/-- Reads one value at the cursor. -/
abbrev Reader (α : Type) := Cursor → Except Complaint (α × Cursor)

/-- Consume the letters of a literal name such as the `ull` of `null`. -/
def word : List Char → Cursor → Except Complaint Cursor
  | [], k => .ok k
  | w :: ws, k =>
    match k.rest with
    | [] => .error ⟨.endInValue, k.place⟩
    | c :: _ => if c = w then word ws k.next else .error ⟨.expectedLiteral, k.ahead⟩

/-- What kind of value begins at the cursor, read far enough to name it. -/
def identify (k : Cursor) : Except Complaint (Found × Cursor) :=
  match k.rest with
  | [] => .error ⟨.expectedValue, k.ahead⟩
  | c :: _ =>
    if c = 'n' then (word ['u', 'l', 'l'] k.next).map (.null, ·)
    else if c = 't' then (word ['r', 'u', 'e'] k.next).map (.boolean true, ·)
    else if c = 'f' then (word ['a', 'l', 's', 'e'] k.next).map (.boolean false, ·)
    else if c = '-' then k.next.number false
    else if (digitValue? c).isSome then k.number true
    else if c = '"' then k.next.literal.map fun (cs, k) => (.text cs, k)
    else if c = '[' then .ok (.list, k)
    else if c = '\x7b' then .ok (.object, k)
    else .error ⟨.expectedValue, k.ahead⟩

/-- The complaint about a value of another kind than the wanted one. -/
def refuse (wanted : Wanted) (k : Cursor) : Complaint :=
  match identify k with
  | .ok (found, k) => ⟨.mismatch found wanted, k.place⟩
  | .error e => e

def Reader.text : Reader String := fun k =>
  let k := k.skipSpace
  match k.rest with
  | [] => .error ⟨.endInValue, k.place⟩
  | '"' :: _ => k.next.literal.map fun (cs, k) => (String.ofList cs, k)
  | _ => .error (refuse .text k)

def colon (k : Cursor) : Except Complaint Cursor :=
  let k := k.skipSpace
  match k.rest with
  | [] => .error ⟨.endInObject, k.place⟩
  | ':' :: _ => .ok k.next
  | _ => .error ⟨.expectedColon, k.ahead⟩

/-- Read a key whose opening quote is at the cursor, the colon and the value. -/
def member {α : Type} (value : Reader α) (k : Cursor) :
    Except Complaint (String × α × Cursor) := do
  let (key, k) ← k.next.literal
  let k ← colon k
  let (a, k) ← value k
  return (String.ofList key, a, k)

/-- Where the key of a further member stands: at the cursor, which is behind space. -/
def keyAt (k : Cursor) : Except Complaint Cursor :=
  match k.rest with
  | [] => .error ⟨.endInValue, k.place⟩
  | '"' :: _ => .ok k
  | '\x7d' :: _ => .error ⟨.trailingComma, k.ahead⟩
  | _ => .error ⟨.keyNotText, k.ahead⟩

/-- Read members up to the closing brace and write them into `done`. -/
def members {α : Type} (value : Reader α) :
    Nat → Bool → OrderedMap String α → Cursor → Except Complaint (OrderedMap String α × Cursor)
  | 0, _, _, k => .error ⟨.endInObject, k.place⟩
  | fuel + 1, first, done, k => do
    let k := k.skipSpace
    match k.rest with
    | [] => .error ⟨.endInObject, k.place⟩
    | c :: _ =>
      if c = '\x7d' then .ok (done, k.next)
      else
        let k ←
          if first then keyAt k
          else if c = ',' then keyAt k.next.skipSpace
          else .error ⟨.expectedCommaOrBrace, k.ahead⟩
        let (key, a, k) ← member value k
        members value fuel false (done.insert key a) k

/-- Read an object whose members' values are read by `value`. -/
def Reader.object {α : Type} (value : Reader α) : Reader (OrderedMap String α) := fun k =>
  let k := k.skipSpace
  match k.rest with
  | [] => .error ⟨.endInValue, k.place⟩
  | '\x7b' :: rest => members value (rest.length + 1) true .empty k.next
  | _ => .error (refuse .object k)

/-- Read a whole text: one value and nothing behind it but space. -/
def Reader.whole {α : Type} (value : Reader α) (cs : List Char) : Except Complaint α := do
  let (a, k) ← value (.ofText cs)
  let k := k.skipSpace
  match k.rest with
  | [] => .ok a
  | _ => .error ⟨.trailingCharacters, k.ahead⟩

end TableCatalog.Json
