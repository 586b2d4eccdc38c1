/-!
# White space: trimming, words and lines

White space is the Unicode property `White_Space`: twenty-five code points, among them the tab,
the line and paragraph separators, U+0085 and the no-break space. The zero-width space U+200B,
the byte-order mark U+FEFF and the separators U+001C to U+001F are not in it.

The operations work on lists of characters. `words` never returns an empty word, and a word
holds no white space; `pieces` cuts at every occurrence of one character and keeps empty pieces.
-/

set_option autoImplicit false

namespace TableCatalog.Text

/-- The property `White_Space`. -/
def isBlank (c : Char) : Bool :=
  let n := c.toNat
  (decide (9 ≤ n) && decide (n ≤ 13)) || n == 0x20 || n == 0x85 || n == 0xA0 || n == 0x1680 ||
    (decide (0x2000 ≤ n) && decide (n ≤ 0x200A)) || n == 0x2028 || n == 0x2029 ||
    n == 0x202F || n == 0x205F || n == 0x3000

def trimStart (cs : List Char) : List Char := cs.dropWhile isBlank

def trimEnd (cs : List Char) : List Char := (cs.reverse.dropWhile isBlank).reverse

def trim (cs : List Char) : List Char := trimEnd (trimStart cs)

/-- Cut at every `sep`; there is always one piece more than there are separators. -/
def pieces (sep : Char) : List Char → List (List Char)
  | [] => [[]]
  | c :: cs =>
    if c = sep then [] :: pieces sep cs
    else
      match pieces sep cs with
      | [] => [[c]]
      | p :: ps => (c :: p) :: ps

/-- The number of pieces is one more than the number of separators. -/
theorem length_pieces (sep : Char) (cs : List Char) :
    (pieces sep cs).length = cs.count sep + 1 := by
  induction cs with
  | nil => rfl
  | cons c cs ih =>
    by_cases h : c = sep
    · simp [pieces, h, ih]
    · rw [List.count_cons_of_ne h, ← ih, pieces, if_neg h]
      generalize hp : pieces sep cs = ps
      cases ps with
      | nil => simp [hp] at ih
      | cons p ps => rfl

/-- The words: maximal runs of characters other than white space. The accumulator holds the
word being read, last character first. -/
def wordsFrom (word : List Char) : List Char → List (List Char)
  | [] => if word.isEmpty then [] else [word.reverse]
  | c :: cs =>
    if isBlank c then
      if word.isEmpty then wordsFrom [] cs else word.reverse :: wordsFrom [] cs
    else wordsFrom (c :: word) cs

def words (cs : List Char) : List (List Char) := wordsFrom [] cs

def startsWith (lead : String) (cs : List Char) : Bool := lead.toList.isPrefixOf cs

end TableCatalog.Text
