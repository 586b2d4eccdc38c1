import TableCatalog.Glob.Pattern

/-!
# Matching a name

Each token takes a name to what may be left of it: `Token.rests` lists the remainders after the
token has consumed a part of the front. A list of tokens passes a *set* of remainders along, and
after every token each remainder is kept once, so the work is bounded by the number of suffixes
of the name whatever the pattern. A name matches when the empty remainder is reached.

Two rules concern what is written and not what is matched: a group's branch that describes nothing
but the empty text is dropped, and a group without branches describes the empty text; a pattern
that is a single leading-directories token matches every name.
-/

set_option autoImplicit false

namespace TableCatalog.Glob

/-- What may be left after a run without a slash. -/
def afterRun : List UInt8 → List (List UInt8)
  | [] => [[]]
  | b :: bs => (b :: bs) :: if b = slash then [] else afterRun bs

/-- What may be left after anything that ends in a slash. -/
def afterSlashes : List UInt8 → List (List UInt8)
  | [] => []
  | b :: bs => if b = slash then bs :: afterSlashes bs else afterSlashes bs

def afterAnything : List UInt8 → List (List UInt8)
  | [] => [[]]
  | b :: bs => (b :: bs) :: afterAnything bs

def afterByte (p : UInt8 → Bool) : List UInt8 → List (List UInt8)
  | [] => []
  | b :: bs => if p b then [bs] else []

def afterBytes : List UInt8 → List UInt8 → List (List UInt8)
  | [], name => [name]
  | _ :: _, [] => []
  | a :: as, b :: bs => if a = b then afterBytes as bs else []

/-- Apply a step to every remainder and keep each result once. -/
def spread (f : List UInt8 → List (List UInt8)) (rests : List (List UInt8)) : List (List UInt8) :=
  (rests.flatMap f).eraseDups

mutual

/-- Whether a token describes the empty text and is written as nothing. -/
def Token.isVoid : Token → Bool
  | .group branches => allVoid branches
  | _ => false

def branchVoid : List Token → Bool
  | [] => true
  | t :: ts => t.isVoid && branchVoid ts

def allVoid : List (List Token) → Bool
  | [] => true
  | b :: bs => branchVoid b && allVoid bs

end

mutual

/-- What may be left of any of some names after a token. -/
def Token.rests (t : Token) (names : List (List UInt8)) : List (List UInt8) :=
  match t with
  | .literal bytes => spread (afterBytes bytes) names
  | .anyByte => spread (afterByte fun b => b != slash) names
  | .star => spread afterRun names
  | .leadingDirs => spread (fun name => name :: afterSlashes name) names
  | .middleDirs =>
    spread (fun name => (afterByte (· == slash) name).flatMap fun r => r :: afterSlashes r) names
  | .trailingDirs =>
    spread (fun name => (afterByte (· == slash) name).flatMap afterAnything) names
  | .oneOf ranges => spread (afterByte ranges.has) names
  | .noneOf ranges => spread (afterByte fun b => !ranges.has b) names
  | .group branches =>
    if allVoid branches then names else (restsOfAny branches names).eraseDups

def restsOfAll : List Token → List (List UInt8) → List (List UInt8)
  | [], names => names
  | t :: ts, names => restsOfAll ts (t.rests names)

/-- What may be left after one of the branches that are not void. -/
def restsOfAny : List (List Token) → List (List UInt8) → List (List UInt8)
  | [], _ => []
  | b :: bs, names => (if branchVoid b then [] else restsOfAll b names) ++ restsOfAny bs names

end

/-- Whether a pattern is a single leading-directories token. -/
def isEverything (g : Glob) : Bool :=
  match g.tokens with
  | [.leadingDirs] => true
  | _ => false

def accepts (g : Glob) (name : String) : Bool :=
  g.isEverything || (restsOfAll g.tokens [bytesOf name.toList]).contains []

end TableCatalog.Glob
