import TableCatalog.Text.Cluster.Table

/-!
# User-perceived characters

A cluster is a piece of text that a reader takes for one character: a letter with its marks, a
Hangul syllable, a flag, pictographs bound together. A text is cut into clusters from left to
right; whether a character goes on with the cluster before it depends on a `ClusterEnd`, the part
of that cluster that matters. No cluster is empty, and the clusters together are the text.
-/

set_option autoImplicit false

namespace TableCatalog.Text

/-- What the end of a cluster is, as far as it matters for what can follow in it. -/
inductive ClusterEnd
  | ordinary
  | solitary
  | leading
  | hangulLead
  | hangulVowel
  | hangulTail
  | pictograph
  /-- A pictograph and a joiner. -/
  | bound
  /-- One letter of a flag. -/
  | halfFlag
deriving DecidableEq

def between (a b n : Nat) : Bool := decide (a ≤ n) && decide (n ≤ b)

/-- What a character is at the end of a cluster that it begins. -/
def ClusterEnd.ofChar (c : Char) : ClusterEnd :=
  let n := c.toNat
  if n < 0x20 || n == 0x7F then .solitary
  else if n < 0x7F then .ordinary
  else if between 0x1100 0x115F n || between 0xA960 0xA97C n then .hangulLead
  else if between 0x1160 0x11A7 n || between 0xD7B0 0xD7C6 n then .hangulVowel
  else if between 0x11A8 0x11FF n || between 0xD7CB 0xD7FB n then .hangulTail
  else if between 0xAC00 0xD7A3 n then
    if (n - 0xAC00) % 28 = 0 then .hangulVowel else .hangulTail
  else if between 0x1F1E6 0x1F1FF n then .halfFlag
  else if pictographRanges.has c then .pictograph
  else if leadingRanges.has c then .leading
  else if solitaryRanges.has c then .solitary
  else .ordinary

def isSyllable (c : Char) : Bool := between 0xAC00 0xD7A3 c.toNat

/-- The end of a cluster with one more character, if that character goes on with it. -/
def ClusterEnd.extend? (e : ClusterEnd) (c : Char) : Option ClusterEnd :=
  if e = .solitary then none
  else if 0x7F ≤ c.toNat && clingingRanges.has c then
    if e = .pictograph then
      if c.toNat = 0x200D then some .bound else some .pictograph
    else some .ordinary
  else
    let next := ClusterEnd.ofChar c
    match e, next with
    | _, .solitary => none
    | .leading, _ => some next
    | .hangulLead, .hangulLead => some next
    | .hangulLead, .hangulVowel => some next
    | .hangulLead, .hangulTail => if isSyllable c then some next else none
    | .hangulVowel, .hangulVowel => if isSyllable c then none else some next
    | .hangulVowel, .hangulTail => if isSyllable c then none else some next
    | .hangulTail, .hangulTail => if isSyllable c then none else some next
    | .bound, .pictograph => some next
    | .halfFlag, .halfFlag => some .ordinary
    | _, _ => none

/-- Go on with a cluster; `cluster` holds its characters, last one first. -/
def clustersFrom (cluster : List Char) (e : ClusterEnd) : List Char → List (List Char)
  | [] => [cluster.reverse]
  | c :: cs =>
    match e.extend? c with
    | some e => clustersFrom (c :: cluster) e cs
    | none => cluster.reverse :: clustersFrom [c] (.ofChar c) cs

def clusters : List Char → List (List Char)
  | [] => []
  | c :: cs => clustersFrom [c] (.ofChar c) cs

theorem flatten_clustersFrom (cluster : List Char) (e : ClusterEnd) (cs : List Char) :
    (clustersFrom cluster e cs).flatten = cluster.reverse ++ cs := by
  induction cs generalizing cluster e with
  | nil => simp [clustersFrom]
  | cons c cs ih =>
    unfold clustersFrom
    split <;> simp [ih]

theorem flatten_clusters (cs : List Char) : (clusters cs).flatten = cs := by
  cases cs with
  | nil => rfl
  | cons c cs => simp [clusters, flatten_clustersFrom]

end TableCatalog.Text
