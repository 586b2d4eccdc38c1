import TableCatalog.Json.Literal

/-!
# Writing JSON

The values that the catalog writes: texts, counts, lists and objects. `pretty` spreads a value over
lines, two spaces a level, with nothing between the brackets of an empty list or object; `compact`
puts it on one line without any space. An object is a list of members and may write the same key
twice, as a line of the log does.
-/

set_option autoImplicit false

namespace TableCatalog

inductive Json where
  | text (s : String)
  | count (n : Nat)
  | list (items : List Json)
  | object (members : List (String × Json))

namespace Json

/-- A line break and the indentation of a level. -/
def newline (level : Nat) : List Char := '\n' :: List.replicate (2 * level) ' '

mutual

/-- A value at a level of indentation, over several lines. -/
def prettyAt (level : Nat) : Json → List Char
  | .text s => literal s.toList
  | .count n => Nat.toDigits 10 n
  | .list [] => ['[', ']']
  | .list (x :: xs) =>
    ['['] ++ newline (level + 1) ++ prettyAt (level + 1) x ++ prettyItems (level + 1) xs ++
      newline level ++ [']']
  | .object [] => ['\x7b', '\x7d']
  | .object (m :: ms) =>
    ['\x7b'] ++ newline (level + 1) ++ prettyMember (level + 1) m ++
      prettyMembers (level + 1) ms ++ newline level ++ ['\x7d']

def prettyItems (level : Nat) : List Json → List Char
  | [] => []
  | x :: xs => [','] ++ newline level ++ prettyAt level x ++ prettyItems level xs

def prettyMember (level : Nat) : String × Json → List Char
  | (key, x) => literal key.toList ++ [':', ' '] ++ prettyAt level x

def prettyMembers (level : Nat) : List (String × Json) → List Char
  | [] => []
  | m :: ms => [','] ++ newline level ++ prettyMember level m ++ prettyMembers level ms

end

/-- A value over several lines, beginning at the left margin. -/
def pretty (x : Json) : List Char := prettyAt 0 x

mutual

def compact : Json → List Char
  | .text s => literal s.toList
  | .count n => Nat.toDigits 10 n
  | .list [] => ['[', ']']
  | .list (x :: xs) => ['['] ++ compact x ++ compactItems xs ++ [']']
  | .object [] => ['\x7b', '\x7d']
  | .object (m :: ms) => ['\x7b'] ++ compactMember m ++ compactMembers ms ++ ['\x7d']

def compactItems : List Json → List Char
  | [] => []
  | x :: xs => [','] ++ compact x ++ compactItems xs

def compactMember : String × Json → List Char
  | (key, x) => literal key.toList ++ [':'] ++ compact x

def compactMembers : List (String × Json) → List Char
  | [] => []
  | m :: ms => [','] ++ compactMember m ++ compactMembers ms

end

end Json

end TableCatalog
