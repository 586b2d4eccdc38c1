import TableCatalog.Text.Width.Table

/-!
# How many places a text takes

In a drawing made of characters every character takes no place, one or two. Most of it is a
matter of the single character (`charWidth`); what is left depends on what stands behind it, so a
text is measured from its end: `widthStep` gets a character and a `Behind`, the part of what
follows that matters, and returns the places of the character and the `Behind` it is itself.

Escape sequences are counted like any text. A terminal that obeys them shows nothing of them, so a
text that sets its own colours is measured too wide here.

The rules that look behind: a carriage return and a line feed take one place together. A selector
turns a text symbol into a picture, or a picture into a text symbol. A picture with a modifier, or
pictures bound by joiners, take the two places of one picture. The letters lam and alef are drawn
as one.
-/

set_option autoImplicit false

namespace TableCatalog.Text

/-- What stands behind a character, as far as it matters for its width. -/
inductive Behind
  | nothing
  | lineFeed
  /-- A picture. -/
  | picture
  /-- A joiner and then a picture. -/
  | joiner
  /-- A selector for pictures, and whether a joiner and a picture follow it. -/
  | asPicture (joined : Bool)
  /-- A selector for text. -/
  | asText
  /-- A modifier of a picture. -/
  | modifier
  | alef
deriving DecidableEq

/-- Whether a character is the letter alef, alone or with a mark. -/
def isAlef (c : Char) : Bool :=
  let n := c.toNat
  n == 0x622 || n == 0x623 || n == 0x625 || n == 0x627 || (decide (0x671 ≤ n) && decide (n ≤ 0x673))
    || n == 0x675 || n == 0x773 || n == 0x774 || (decide (0x870 ≤ n) && decide (n ≤ 0x882))

/-- Whether a character is the letter lam, alone or with a mark. -/
def isLam (c : Char) : Bool :=
  let n := c.toNat
  n == 0x644 || (decide (0x6B5 ≤ n) && decide (n ≤ 0x6B8)) || n == 0x76A || n == 0x8A6 || n == 0x8C7

/-- Whether a character modifies a picture before it. -/
def isModifier (c : Char) : Bool := decide (0x1F3FB ≤ c.toNat) && decide (c.toNat ≤ 0x1F3FF)

/-- Whether a selector for text has an effect on a picture. -/
def hasTextForm (c : Char) : Bool :=
  pictureRanges.has c && !(decide (0x1F200 ≤ c.toNat) && decide (c.toNat ≤ 0x1F2FF))

/-- The places that a character takes by itself. Up to U+00A0 every character takes one, control
characters among them. -/
def charWidth (c : Char) : Nat :=
  if c.toNat ≤ 0xA0 then 1
  else if widthlessRanges.has c then 0
  else if wideRanges.has c then 2
  else 1

/-- What a character is to the one before it, when nothing behind it matters. -/
def Behind.ofChar (c : Char) : Behind :=
  if c = '\n' then .lineFeed
  else if c.toNat ≤ 0xA0 then .nothing
  else if c.toNat = 0xFE0F then .asPicture false
  else if c.toNat = 0xFE0E then .asText
  else if isModifier c then .modifier
  else if pictureRanges.has c then .picture
  else if isAlef c then .alef
  else .nothing

/-- The places of a character by itself. -/
def plainStep (c : Char) : Nat × Behind := (charWidth c, .ofChar c)

/-- The places that a character takes before `b`, and what it is to the character before it. -/
def widthStep (c : Char) (b : Behind) : Nat × Behind :=
  match b with
  | .nothing => plainStep c
  | .lineFeed => if c = '\r' then (0, .nothing) else plainStep c
  | .picture => if c.toNat = 0x200D then (0, .joiner) else plainStep c
  | .joiner =>
    if c.toNat = 0xFE0F then (0, .asPicture true)
    else if isModifier c then (0, .modifier)
    else if pictureRanges.has c then (0, .picture)
    else plainStep c
  | .asPicture joined =>
    if hiddenPictureRanges.has c || pictureRanges.has c then (if joined then 0 else 2, .picture)
    else plainStep c
  | .asText => if hasTextForm c then (1, .nothing) else plainStep c
  | .modifier => if modifiableRanges.has c then (0, .picture) else plainStep c
  | .alef =>
    if isLam c then (0, .nothing)
    else if charWidth c = 0 then (0, .alef)
    else plainStep c

/-- The places of a text, and what it is to a character before it. -/
def measure : List Char → Nat × Behind
  | [] => (0, .nothing)
  | c :: cs =>
    let (n, b) := measure cs
    let (k, b) := widthStep c b
    (k + n, b)

/-- The number of places that a text takes. -/
def width (cs : List Char) : Nat := (measure cs).1

@[simp]
theorem width_nil : width [] = 0 := rfl

end TableCatalog.Text
