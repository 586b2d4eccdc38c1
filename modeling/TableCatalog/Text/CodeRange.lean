/-!
# Sets of characters given by code point ranges

The character classes of the Unicode standard are listed in this library as closed ranges of
code points, in ascending order. Membership scans the list: a class is asked about characters
outside ASCII only, so the scan is rare.
-/

set_option autoImplicit false

namespace TableCatalog.Text

/-- Closed ranges of code points, `(first, last)`. -/
abbrev CodeRanges := List (Nat × Nat)

def CodeRanges.has (rs : CodeRanges) (c : Char) : Bool :=
  rs.any fun r => decide (r.1 ≤ c.toNat) && decide (c.toNat ≤ r.2)

theorem CodeRanges.has_iff {rs : CodeRanges} {c : Char} :
    rs.has c = true ↔ ∃ r ∈ rs, r.1 ≤ c.toNat ∧ c.toNat ≤ r.2 := by
  simp [CodeRanges.has]

end TableCatalog.Text
