import TableCatalog.Json.Complaint

/-!
# Text literals

Writing a text as a JSON literal and reading one back. The writer escapes the quote, the
backslash and the characters below U+0020, seven of them with a letter and the others as `\u00`
and two lower-case hexadecimal digits; nothing else is escaped.

The reader accepts every literal of the JSON grammar. It goes through the text one character at a
time and keeps a `Mode`: between characters, behind a backslash, or inside a `\u` escape. An
escape names a 16-bit unit, and a unit in the first half of the surrogates must be followed at
once by an escape that names the second half. The four digits of a unit are four *bytes*: a longer
character among them is refused at the byte where the fourth digit would have ended.
-/

set_option autoImplicit false

namespace TableCatalog.Json

/-! ## Writing -/

/-- A hexadecimal digit, in lower case. -/
def hexDigit (n : Nat) : Char := if n < 10 then Char.ofNat (48 + n) else Char.ofNat (87 + n)

def escapeChar (c : Char) : List Char :=
  if c = '"' then ['\\', '"']
  else if c = '\\' then ['\\', '\\']
  else if c = '\n' then ['\\', 'n']
  else if c = '\r' then ['\\', 'r']
  else if c = '\t' then ['\\', 't']
  else if c = '\x08' then ['\\', 'b']
  else if c = '\x0c' then ['\\', 'f']
  else if c.toNat < 0x20 then
    ['\\', 'u', '0', '0', hexDigit (c.toNat / 16), hexDigit (c.toNat % 16)]
  else [c]

def literal (cs : List Char) : List Char := ['"'] ++ cs.flatMap escapeChar ++ ['"']

/-! ## Reading -/

def hexValue? (c : Char) : Option Nat :=
  let n := c.toNat
  if 48 ≤ n ∧ n ≤ 57 then some (n - 48)
  else if 65 ≤ n ∧ n ≤ 70 then some (n - 55)
  else if 97 ≤ n ∧ n ≤ 102 then some (n - 87)
  else none

/-- What a reader of a literal is in the middle of. -/
inductive Mode
  | plain
  | escape
  /-- Inside a `\u` escape: how many bytes are still to come, the value so far (`none` after a
  character that is no digit), and the first half of a pair if there was one. -/
  | unit (left : Nat) (value : Option Nat) (lead : Option Nat)
  /-- Behind the first half of a pair: a backslash must come. -/
  | pairBackslash (lead : Nat)
  /-- Behind that backslash: a `u` must come. -/
  | pairLetter (lead : Nat)

def shortEscape? (c : Char) : Option Char :=
  if c = '"' then some '"'
  else if c = '\\' then some '\\'
  else if c = '/' then some '/'
  else if c = 'b' then some '\x08'
  else if c = 'f' then some '\x0c'
  else if c = 'n' then some '\n'
  else if c = 'r' then some '\r'
  else if c = 't' then some '\t'
  else none

/-- What a finished unit means: a character, the first half of a pair, or nothing allowed. -/
inductive UnitMeaning
  | char (c : Char)
  | lead (n : Nat)
  | refused

/-- The meaning of a unit, given the first half of a pair if there was one. -/
def unitMeaning (lead : Option Nat) (n : Nat) : UnitMeaning :=
  match lead with
  | none =>
    if 0xDC00 ≤ n ∧ n ≤ 0xDFFF then .refused
    else if 0xD800 ≤ n ∧ n ≤ 0xDBFF then .lead n
    else .char (Char.ofNat n)
  | some h =>
    if 0xDC00 ≤ n ∧ n ≤ 0xDFFF then
      .char (Char.ofNat ((h - 0xD800) * 0x400 + (n - 0xDC00) + 0x10000))
    else .refused

/-- Read the rest of a literal. `done` holds the characters read so far, last one first, and `p`
is the place before `cs`. -/
def literalFrom (mode : Mode) (done : List Char) (p : Place) :
    List Char → Except Complaint (List Char × Cursor)
  | [] => .error ⟨.endInText, p⟩
  | c :: cs =>
    match mode with
    | .plain =>
      if c = '"' then .ok (done.reverse, ⟨cs, p.after c⟩)
      else if c = '\\' then literalFrom .escape done (p.after c) cs
      else if c.toNat < 0x20 then .error ⟨.controlCharacter, p.into c 1⟩
      else literalFrom .plain (c :: done) (p.after c) cs
    | .escape =>
      if c = 'u' then literalFrom (.unit 4 (some 0) none) done (p.after c) cs
      else
        match shortEscape? c with
        | some d => literalFrom .plain (d :: done) (p.after c) cs
        | none => .error ⟨.invalidEscape, p.into c 1⟩
    | .unit left value lead =>
      let value := (value.bind fun v => (hexValue? c).map fun d => v * 16 + d)
      if c.utf8Size < left then literalFrom (.unit (left - c.utf8Size) value lead) done (p.after c) cs
      else
        match value with
        | none => .error ⟨.invalidEscape, p.into c left⟩
        | some n =>
          match unitMeaning lead n with
          | .char d => literalFrom .plain (d :: done) (p.after c) cs
          | .lead h => literalFrom (.pairBackslash h) done (p.after c) cs
          | .refused => .error ⟨.loneSurrogate, p.after c⟩
    | .pairBackslash h =>
      if c = '\\' then literalFrom (.pairLetter h) done (p.after c) cs
      else .error ⟨.brokenSurrogatePair, p.into c 1⟩
    | .pairLetter h =>
      if c = 'u' then literalFrom (.unit 4 (some 0) (some h)) done (p.after c) cs
      else .error ⟨.brokenSurrogatePair, p.into c 1⟩

/-- Read a literal whose opening quote has been consumed. -/
def Cursor.literal (k : Cursor) : Except Complaint (List Char × Cursor) :=
  literalFrom .plain [] k.place k.rest

end TableCatalog.Json
