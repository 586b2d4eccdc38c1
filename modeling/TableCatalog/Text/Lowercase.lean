import TableCatalog.Text.Lowercase.Table

/-!
# Lower-casing a text

The full lower-case mapping of the Unicode standard, without language-specific rules. Every
character has a lower case of its own, one character long, with two exceptions:

* `İ` (U+0130) becomes `i` followed by the combining dot U+0307;
* a capital sigma becomes `ς` at the end of a word and `σ` elsewhere.

A sigma ends a word when a cased letter comes before it and none comes after it, where
case-ignorable characters (accents, apostrophes, joiners) are passed over on both sides. So the
mapping of a text is not the mapping of its characters side by side; `lowerFrom` carries what
stands before.
-/

set_option autoImplicit false

namespace TableCatalog.Text

def CaseRun.image? (r : CaseRun) (n : Nat) : Option Nat :=
  if r.first ≤ n ∧ n ≤ r.last ∧ (n - r.first) % r.step = 0 then some (n - r.first + r.target)
  else none

/-- The lower case of one character, outside the two exceptions. -/
def lowerSimple (c : Char) : Char :=
  if c.toNat < 0x80 then c.toLower
  else
    match lowercaseRuns.findSome? (·.image? c.toNat) with
    | some n => Char.ofNat n
    | none => c

/-- Whether the first character that is not case-ignorable is there and cased. -/
def meetsCased (cs : List Char) : Bool :=
  match cs.dropWhile caseIgnorableRanges.has with
  | [] => false
  | c :: _ => casedRanges.has c

/-- The lower case of a capital sigma with `before` (nearest character first) on its left and
`after` on its right. -/
def lowerSigma (before after : List Char) : Char :=
  if meetsCased before && !meetsCased after then 'ς' else 'σ'

/-- The lower case of a character in its surroundings. -/
def lowerChar (before : List Char) (c : Char) (after : List Char) : List Char :=
  if c = 'Σ' then [lowerSigma before after]
  else if c = 'İ' then ['i', '\u0307']
  else [lowerSimple c]

/-- The lower case of a text that follows `before` (nearest character first). -/
def lowerFrom (before : List Char) : List Char → List Char
  | [] => []
  | c :: cs => lowerChar before c cs ++ lowerFrom (c :: before) cs

def lower (cs : List Char) : List Char := lowerFrom [] cs

end TableCatalog.Text
