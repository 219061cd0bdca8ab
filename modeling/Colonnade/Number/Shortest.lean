import Colonnade.Number.Double

/-!
# The fewest digits that read back

A double is written with the **fewest decimal digits** whose reading gives the same
double, and of those with the digits nearest to its value.

The reals that round to `m · 2^e` form an interval around it, ends included exactly
if `m` is even (`Interval.of`). On the grid of decimals with `n` significant digits
only the two neighbours of the value can be the nearest point inside the interval
(`Interval.onGrid?`), so the grids with 1, 2, … 17 digits are tried in turn; seventeen
digits always suffice.

`Double.text` writes the digits positionally, never with an exponent, and without a
point for a whole number.
-/

namespace Colonnade.Number

/-- The reals that round to one double, times a common denominator. -/
structure Interval where
  /-- The value itself. -/
  value : Nat
  /-- The least real of the interval. -/
  low : Nat
  /-- The greatest real of the interval. -/
  high : Nat
  /-- The denominator of all three. -/
  den : Nat
  /-- Both ends belong to the interval. -/
  closed : Bool

namespace Interval

/-- The interval of `m · 2^e`: half a unit in the last place to either side, a quarter
below a power of two. -/
def of (m : Nat) (e : Int) : Interval :=
  let below := if m = Double.implicitBit ∧ Double.minExponent < e then 1 else 2
  let (unit, den) := Double.ratio 1 (e - 2)
  { value := 4 * m * unit
    low := (4 * m - below) * unit
    high := (4 * m + 2) * unit
    den := den
    closed := m % 2 == 0 }

/-- The fraction `c / d` lies in the interval. -/
def contains (i : Interval) (c d : Nat) : Bool :=
  if i.closed then decide (i.low * d ≤ c * i.den) && decide (c * i.den ≤ i.high * d)
  else decide (i.low * d < c * i.den) && decide (c * i.den < i.high * d)

/-- The power of ten `10^p` with `10^p ≤ value < 10^(p+1)`, found near an estimate. -/
def leadingPower (i : Interval) : Int :=
  let atMost (p : Int) : Bool :=
    if p < 0 then decide (i.den ≤ i.value * Nat.pow 10 p.natAbs)
    else decide (i.den * Nat.pow 10 p.natAbs ≤ i.value)
  let estimate : Int := ((i.value.log2 : Int) - i.den.log2) * 30103 / 100000
  if atMost (estimate + 1) then estimate + 1
  else if atMost estimate then estimate
  else estimate - 1

/-- The multiple of `10^x` inside the interval that is nearest to the value, if there is
one; of two equally near the greater. -/
def onGrid? (i : Interval) (x : Int) : Option Nat :=
  let (num, den) :=
    if x < 0 then (i.value * Nat.pow 10 x.natAbs, i.den) else (i.value, i.den * Nat.pow 10 x.natAbs)
  let inside (c : Nat) : Bool :=
    if x < 0 then i.contains c (Nat.pow 10 x.natAbs) else i.contains (c * Nat.pow 10 x.natAbs) 1
  let c := num / den
  let twice := 2 * (num % den)
  match inside c, inside (c + 1) with
  | true, true => some (if twice < den then c else c + 1)
  | true, false => some c
  | false, true => some (c + 1)
  | false, false => none

/-- The shortest digits: the nearest multiple of the coarsest power of ten, with that
power. -/
def shortest (i : Interval) : Nat × Int :=
  let p := i.leadingPower
  let grids := (List.range 17).map fun (n : Nat) => p - n
  match grids.findSome? fun x => (i.onGrid? x).map fun c => (c, x) with
  | some found => found
  | none => (i.value / i.den, 0)

end Interval

/-- Strips the zeros at the end of `m · 10^x`, for at most `fuel` places. -/
def stripZeros : Nat → Nat → Int → Nat × Int
  | 0, m, x => (m, x)
  | fuel + 1, m, x => if m % 10 = 0 ∧ m ≠ 0 then stripZeros fuel (m / 10) (x + 1) else (m, x)

/-- The positional digits of `m · 10^x`. -/
def positional (m : Nat) (x : Int) : List Char :=
  if x < 0 then placePoint m x.natAbs else digitsOf (m * Nat.pow 10 x.natAbs)

end Colonnade.Number

namespace Colonnade.Double

open Number

/-- The shortest decimal `c · 10^x` that reads back as the finite number `m · 2^e`. -/
def shortest (m : Nat) (e : Int) : Nat × Int :=
  if m = 0 then (0, 0)
  else
    let (c, x) := (Interval.of m e).shortest
    stripZeros 20 c x

/-- **The text of a double**: the shortest digits in positional notation, `NaN`, `inf`
or `-inf`; a negative zero keeps its sign. -/
def text : Double → String
  | nan => "NaN"
  | infinite negative => if negative then "-inf" else "inf"
  | finite negative m e =>
    let (c, x) := shortest m e
    let digits := positional c x
    String.ofList (if negative then '-' :: digits else digits)

end Colonnade.Double
