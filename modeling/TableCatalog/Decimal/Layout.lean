import TableCatalog.Decimal.Shortest

/-!
# Laying out a floating-point number

Which digits to write is settled in `Decimal.Shortest`; how they are written is a handful of
choices, and a `Layout` value names each of them. A number whose decimal point falls within the
range of the layout is written positionally, always with a fraction; any other is written with
one digit before the point and an exponent whose sign is always present.
-/

set_option autoImplicit false

namespace TableCatalog.Decimal

structure Layout where
  /-- Positional notation begins with this many places before the point. -/
  leastPoint : Int
  /-- Positional notation ends with this many places before the point. -/
  greatestPoint : Int
  /-- What introduces an exponent that is not negative. -/
  up : List Char
  /-- What introduces a negative exponent. -/
  down : List Char

/-- Positional from `0.00001` up to sixteen digits before the point; exponents are written
`e+16` and `e-7`. -/
def Layout.plain : Layout := ⟨-4, 16, ['e', '+'], ['e', '-']⟩

def digitChar (d : Nat) : Char := Char.ofNat (48 + d)

def Layout.write (l : Layout) (d : Digits) : List Char :=
  let cs := d.digits.map digitChar
  let n : Int := cs.length
  if l.leastPoint ≤ d.point ∧ d.point ≤ l.greatestPoint then
    if d.point ≤ 0 then
      ['0', '.'] ++ List.replicate (-d.point).toNat '0' ++ cs
    else if n ≤ d.point then
      cs ++ List.replicate (d.point - n).toNat '0' ++ ['.', '0']
    else
      cs.take d.point.toNat ++ ['.'] ++ cs.drop d.point.toNat
  else
    let lead := match cs with
      | [] => []
      | c :: [] => [c]
      | c :: rest => c :: '.' :: rest
    let exponent := d.point - 1
    lead ++ (if exponent < 0 then l.down else l.up) ++ Nat.toDigits 10 exponent.natAbs

/-- Write a finite double, with a minus sign in front of every negative one, zero included. -/
def Layout.writeFloat (l : Layout) (x : Float) : List Char :=
  let bits := x.toBits
  let sign := if bits.toNat < Nat.pow 2 63 then [] else ['-']
  let magnitude := UInt64.ofNat (bits.toNat % Nat.pow 2 63)
  if magnitude = 0 then sign ++ ['0', '.', '0']
  else sign ++ l.write (Binary.ofBits magnitude).shortest

end TableCatalog.Decimal
