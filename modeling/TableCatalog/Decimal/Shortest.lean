/-!
# The shortest decimal that reads back

A binary floating-point number stands for every real that rounds to it: an interval around the
number, half a step to each side, whose ends belong to it when the mantissa is even (a tie goes
to the even mantissa). Of the decimals in that interval we want one with the fewest digits, and
among those the one nearest to the number.

A decimal of `n` digits near the number is a multiple of a power of ten, and if any multiple
lies in the interval then one of the number's two neighbours among the multiples does. So the
search tries `n = 1, 2, …, 17` and looks at two candidates each time, in exact arithmetic on
naturals. Seventeen digits always suffice.
-/

set_option autoImplicit false

namespace TableCatalog.Decimal

/-- The positive number `mantissa · 2 ^ exponent`. `narrow` says that the next number below is
only half a step away, which happens where the exponent changes. -/
structure Binary where
  mantissa : Nat
  exponent : Int
  narrow : Bool

/-- The digits `digits` with the decimal point `point` places from their left end:
`0.d₁d₂d₃… · 10 ^ point`. -/
structure Digits where
  digits : List Nat
  point : Int
deriving DecidableEq

/-- Decode the bits of a positive finite double. -/
def Binary.ofBits (bits : UInt64) : Binary :=
  let n : Nat := bits.toNat
  let fraction : Nat := n % Nat.pow 2 52
  let biased : Nat := n / Nat.pow 2 52 % Nat.pow 2 11
  if biased = 0 then ⟨fraction, -1074, false⟩
  else ⟨fraction + Nat.pow 2 52, (biased : Int) - 1075, fraction = 0 && biased != 1⟩

/-- A number and the two ends of its rounding interval, over one denominator. -/
structure Interval where
  low : Nat
  value : Nat
  high : Nat
  denominator : Nat
  closed : Bool

/-- The interval of reals that round to a number, in quarters of a step. -/
def Binary.interval (b : Binary) : Interval :=
  let scale := b.exponent - 2
  let up := Nat.pow 2 scale.toNat
  { low := (4 * b.mantissa - (if b.narrow then 1 else 2)) * up
    value := 4 * b.mantissa * up
    high := (4 * b.mantissa + 2) * up
    denominator := Nat.pow 2 (-scale).toNat
    closed := b.mantissa % 2 == 0 }

/-- Whether `d · 10 ^ k` lies in the interval. -/
def Interval.holds (i : Interval) (d : Nat) (k : Int) : Bool :=
  let x := d * Nat.pow 10 k.toNat * i.denominator
  let y := Nat.pow 10 (-k).toNat
  if i.closed then decide (i.low * y ≤ x) && decide (x ≤ i.high * y)
  else decide (i.low * y < x) && decide (x < i.high * y)

/-- Twice the distance from `d · 10 ^ k` to the value, on a common scale, with the side. -/
def Interval.distance (i : Interval) (d : Nat) (k : Int) : Nat :=
  let x := d * Nat.pow 10 k.toNat * i.denominator
  let y := i.value * Nat.pow 10 (-k).toNat
  if x ≤ y then y - x else x - y

/-- The greatest multiple of `10 ^ k` that is not above the value, as its factor. -/
def Interval.floor (i : Interval) (k : Int) : Nat :=
  i.value * Nat.pow 10 (-k).toNat / (Nat.pow 10 k.toNat * i.denominator)

/-- The nearer neighbour of the value among the multiples of `10 ^ k` in the interval; of two
equally near ones the even factor. -/
def Interval.nearest? (i : Interval) (k : Int) : Option Nat :=
  let d := i.floor k
  match i.holds d k, i.holds (d + 1) k with
  | true, true =>
    let below := i.distance d k
    let above := i.distance (d + 1) k
    if below < above then some d
    else if above < below then some (d + 1)
    else if d % 2 = 0 then some d else some (d + 1)
  | true, false => some d
  | false, true => some (d + 1)
  | false, false => none

/-- Digits of a natural, most significant first. -/
def digitsOf (n : Nat) : List Nat := (Nat.toDigits 10 n).map fun c => c.toNat - 48

/-- The number of digits before the decimal point (negative or zero for small numbers): the
least `p` with `value < 10 ^ p`, searched downward from a bound. -/
def Interval.pointFrom (i : Interval) : Nat → Int → Int
  | 0, p => p
  | fuel + 1, p => if 0 < i.floor (p - 1) then p else i.pointFrom fuel (p - 1)

/-- Drop zeros at the right end. -/
def dropZeros (ds : List Nat) : List Nat := (ds.reverse.dropWhile (· == 0)).reverse

/-- Try one digit, then two, up to seventeen. -/
def Interval.search (i : Interval) (point : Int) : Nat → Nat → Digits
  | 0, n => ⟨digitsOf (i.floor (point - n)), point⟩
  | fuel + 1, n =>
    match i.nearest? (point - n) with
    | some d =>
      let ds := digitsOf d
      ⟨dropZeros ds, point + (ds.length : Int) - n⟩
    | none => i.search point fuel (n + 1)

/-- The shortest decimal that reads back as a positive number; of those the nearest. -/
def Binary.shortest (b : Binary) : Digits :=
  let i := b.interval
  i.search (i.pointFrom 700 310) 17 1

end TableCatalog.Decimal
