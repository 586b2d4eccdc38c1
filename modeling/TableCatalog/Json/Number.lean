import TableCatalog.Json.Complaint

/-!
# Numbers

The catalog wants no numbers, but a number that stands where an object or a text is wanted is
named in the complaint, so it has to be read. An integer from `-2^63` to `2^64 - 1` is exact.
Anything else is floating point: digits are gathered into a significand as long as it stays below
`2^64`, later digits only move the exponent, and the value is the significand multiplied or
divided by a power of ten, in steps of at most `10^308`. Minus zero is floating point too.

`scan` functions take the place before `cs` and return what is left; a digit run is structural on
the text, so no step needs a bound.
-/

set_option autoImplicit false

namespace TableCatalog.Json

/-- The greatest significand that is kept exactly. -/
def significandMax : Nat := Nat.pow 2 64 - 1

/-- The greatest exponent that is read as a number. -/
def exponentMax : Nat := Nat.pow 2 31 - 1

def digitValue? (c : Char) : Option Nat :=
  if 48 ≤ c.toNat ∧ c.toNat ≤ 57 then some (c.toNat - 48) else none

def powerOfTen (n : Nat) : Float := Float.ofScientific 1 false n

/-- `x · 10 ^ e`, in steps of at most `10 ^ 308`; `none` when that is out of range. -/
def scaleFloat (x : Float) (e : Int) : Option Float :=
  if e.natAbs ≤ 308 then
    if 0 ≤ e then
      let y := x * powerOfTen e.natAbs
      if y.isInf then none else some y
    else some (x / powerOfTen e.natAbs)
  else if x == 0.0 then some x
  else if 0 ≤ e then none
  else scaleFloat (x / powerOfTen 308) (e + 308)
termination_by (-e).toNat
decreasing_by omega

/-- Drop the digits at the front, counting them. -/
def skipDigits (p : Place) (n : Nat) : List Char → Nat × Cursor
  | [] => (n, ⟨[], p⟩)
  | c :: cs =>
    match digitValue? c with
    | some _ => skipDigits (p.after c) (n + 1) cs
    | none => (n, ⟨c :: cs, p⟩)

/-- Gather digits into `value` as long as it stays at most `limit`; returns the value, the number
of digits taken and whether a digit was left because of the limit. -/
def gatherDigits (limit value taken : Nat) (p : Place) : List Char → Nat × Nat × Bool × Cursor
  | [] => (value, taken, false, ⟨[], p⟩)
  | c :: cs =>
    match digitValue? c with
    | some d =>
      if limit < value * 10 + d then (value, taken, true, ⟨c :: cs, p⟩)
      else gatherDigits limit (value * 10 + d) (taken + 1) (p.after c) cs
    | none => (value, taken, false, ⟨c :: cs, p⟩)

/-- Put sign, significand and exponent together. -/
def assemble (positive : Bool) (significand : Nat) (exponent : Int) (k : Cursor) :
    Except Complaint (Found × Cursor) :=
  match scaleFloat (Float.ofNat significand) exponent with
  | some x => .ok (.float (if positive then x else -x), k)
  | none => .error ⟨.numberOutOfRange, k.place⟩

/-- Gather the digits of an exponent. A digit that would exceed the limit is consumed and ends
the gathering. -/
def gatherExponent (value : Nat) (p : Place) : List Char → Nat × Bool × Cursor
  | [] => (value, false, ⟨[], p⟩)
  | c :: cs =>
    match digitValue? c with
    | some d =>
      if exponentMax < value * 10 + d then (value, true, ⟨cs, p.after c⟩)
      else gatherExponent (value * 10 + d) (p.after c) cs
    | none => (value, false, ⟨c :: cs, p⟩)

/-- Read an exponent; the cursor stands on its letter. -/
def exponentPart (positive : Bool) (significand : Nat) (start : Int) (k : Cursor) :
    Except Complaint (Found × Cursor) :=
  let k := k.next
  let (up, k) := match k.rest with
    | '+' :: _ => (true, k.next)
    | '-' :: _ => (false, k.next)
    | _ => (true, k)
  match k.rest with
  | [] => .error ⟨.endInValue, k.place⟩
  | c :: _ =>
    match digitValue? c with
    | none => .error ⟨.invalidNumber, k.ahead⟩
    | some d =>
      let k := k.next
      let (e, exceeded, k) := gatherExponent d k.place k.rest
      if exceeded then
        if significand ≠ 0 ∧ up then .error ⟨.numberOutOfRange, k.place⟩
        else
          let (_, k) := skipDigits k.place 0 k.rest
          .ok (.float (if positive then 0.0 else -0.0), k)
      else assemble positive significand (if up then start + e else start - e) k

/-- What follows the digits of a number: an exponent or nothing. -/
def numberEnd (positive : Bool) (significand : Nat) (exponent : Int) (k : Cursor) :
    Except Complaint (Found × Cursor) :=
  match k.rest with
  | 'e' :: _ => exponentPart positive significand exponent k
  | 'E' :: _ => exponentPart positive significand exponent k
  | _ => assemble positive significand exponent k

/-- Read a fraction; the cursor stands on the point. -/
def fractionPart (positive : Bool) (significand : Nat) (exponent : Int) (k : Cursor) :
    Except Complaint (Found × Cursor) :=
  let k := k.next
  let (value, taken, exceeded, k) := gatherDigits significandMax significand 0 k.place k.rest
  if exceeded then
    let (_, k) := skipDigits k.place 0 k.rest
    numberEnd positive value (exponent - taken) k
  else if taken = 0 then
    match k.rest with
    | [] => .error ⟨.endInValue, k.place⟩
    | _ => .error ⟨.invalidNumber, k.ahead⟩
  else numberEnd positive value (exponent - taken) k

def afterInteger (positive : Bool) (significand : Nat) (k : Cursor) :
    Except Complaint (Found × Cursor) :=
  match k.rest with
  | '.' :: _ => fractionPart positive significand 0 k
  | 'e' :: _ => exponentPart positive significand 0 k
  | 'E' :: _ => exponentPart positive significand 0 k
  | _ =>
    if positive then .ok (.integer significand, k)
    else if significand = 0 ∨ Nat.pow 2 63 < significand then
      .ok (.float (-(Float.ofNat significand)), k)
    else .ok (.integer (-significand), k)

/-- What follows an integer part that is too long to be kept: `skipped` digits and the rest. -/
def afterLongInteger (positive : Bool) (significand : Nat) (k : Cursor) :
    Except Complaint (Found × Cursor) :=
  let (skipped, k) := skipDigits k.place 0 k.rest
  match k.rest with
  | '.' :: _ => fractionPart positive significand skipped k
  | _ => numberEnd positive significand skipped k

/-- Read a number whose sign, if any, has been consumed. -/
def Cursor.number (k : Cursor) (positive : Bool) : Except Complaint (Found × Cursor) :=
  match k.rest with
  | [] => .error ⟨.endInValue, k.place⟩
  | c :: _ =>
    match digitValue? c with
    | none => .error ⟨.invalidNumber, k.ahead⟩
    | some 0 =>
      let k := k.next
      match k.rest with
      | [] => afterInteger positive 0 k
      | d :: _ =>
        if (digitValue? d).isSome then .error ⟨.invalidNumber, k.ahead⟩
        else afterInteger positive 0 k
    | some d =>
      let k := k.next
      let (value, _, exceeded, k) := gatherDigits significandMax d 0 k.place k.rest
      if exceeded then afterLongInteger positive value k else afterInteger positive value k

end TableCatalog.Json
