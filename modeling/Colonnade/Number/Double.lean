import Colonnade.Number.Digits
import Colonnade.Number.Rounding

/-!
# Binary floating point, exactly

A `Double` is a binary64 number kept as a sign, a mantissa and a power of two, so
that its value is a fraction of natural numbers and every operation is exact
arithmetic followed by **one rounding**, `Double.ofRatio`, to the nearest number,
a half to the even mantissa.

| | |
|---|---|
| `Double.ofRatio` | the nearest number to a quotient |
| `Double.ofInt` | the nearest number to an integer |
| `Double.ofDecimal` | the nearest number to `m · 10^e` |
| `Double.mul`, `Double.div` | the nearest number to a product or a quotient of two |

A finite number is *canonical* (`Double.Canonical`) if its mantissa has 53 bits or
its exponent is the least one; all numbers built here are.
-/

namespace Colonnade

open Number

/-- **A binary64 number**: not a number, an infinity, or `± mantissa · 2^exponent`. -/
inductive Double where
  | nan
  | infinite (negative : Bool)
  | finite (negative : Bool) (mantissa : Nat) (exponent : Int)
deriving DecidableEq, Inhabited

namespace Double

/-- The exponent of the numbers nearest to zero. -/
def minExponent : Int := -1074

/-- The exponent of the greatest numbers. -/
def maxExponent : Int := 971

/-- One more than the greatest mantissa. -/
def mantissaBound : Nat := Nat.pow 2 53

/-- The least mantissa of full width. -/
def implicitBit : Nat := Nat.pow 2 52

/-- A finite number has the one mantissa and exponent that the format gives it. -/
def Canonical : Double → Prop
  | finite _ m e =>
    m < mantissaBound ∧ minExponent ≤ e ∧ e ≤ maxExponent ∧
      (implicitBit ≤ m ∨ e = minExponent)
  | _ => True

/-- Zero with a sign. -/
def zero (negative : Bool) : Double :=
  finite negative 0 minExponent

/-- The fraction `num / (den · 2^e)` as a numerator and a denominator. -/
def scaleDown (num den : Nat) (e : Int) : Nat × Nat :=
  if e < 0 then (num * Nat.pow 2 e.natAbs, den) else (num, den * Nat.pow 2 e.natAbs)

/-- The power of two whose multiple by a 53-bit number `num / den` is nearest to,
before the least exponent is taken into account. -/
def lastPlace (num den : Nat) : Int :=
  let e : Int := (num.log2 : Int) - den.log2 - 52
  let (n, d) := scaleDown num den e
  if n / d < implicitBit then e - 1 else e

/-- Puts a rounded mantissa of at most `2^53` into canonical form; past the greatest
exponent the number is infinite. -/
def ofRounded (negative : Bool) (m : Nat) (e : Int) : Double :=
  let (m, e) := if m < mantissaBound then (m, e) else (implicitBit, e + 1)
  if maxExponent < e then infinite negative else finite negative m e

/-- **Rounding to binary64**: the number nearest to `± num / den`, a half to the even
mantissa. -/
def ofRatio (negative : Bool) (num den : Nat) : Double :=
  if num = 0 then zero negative
  else
    let e := max (lastPlace num den) minExponent
    let (n, d) := scaleDown num den e
    ofRounded negative (roundHalfEven n d) e

/-- The number nearest to an integer. -/
def ofInt (i : Int) : Double :=
  ofRatio (decide (i < 0)) i.natAbs 1

/-- The number nearest to `± m · 10^e`.

A power of ten far outside the range of the format is decided by the number of digits
alone: from `10^310` on everything is infinite, below `10^-330` everything is zero. -/
def ofDecimal (negative : Bool) (m : Nat) (e : Int) : Double :=
  let magnitude : Int := (digitsOf m).length + e
  if m = 0 then zero negative
  else if 310 < magnitude then infinite negative
  else if magnitude < -330 then zero negative
  else if e < 0 then ofRatio negative m (Nat.pow 10 e.natAbs)
  else ofRatio negative (m * Nat.pow 10 e.natAbs) 1

/-- The sign is negative, also that of a zero. -/
def isNegative : Double → Bool
  | nan => false
  | infinite negative => negative
  | finite negative _ _ => negative

/-- The number with the other sign. -/
def neg : Double → Double
  | nan => nan
  | infinite negative => infinite !negative
  | finite negative m e => finite (!negative) m e

/-- The magnitude of a finite number as a numerator and a denominator. -/
def ratio (m : Nat) (e : Int) : Nat × Nat :=
  scaleDown m 1 (-e)

/-- The product, rounded once. -/
def mul : Double → Double → Double
  | finite s m e, finite t n f =>
    let (a, b) := ratio m e
    let (c, d) := ratio n f
    ofRatio (s != t) (a * c) (b * d)
  | infinite s, infinite t => infinite (s != t)
  | infinite s, finite t n _ => if n = 0 then nan else infinite (s != t)
  | finite s m _, infinite t => if m = 0 then nan else infinite (s != t)
  | _, _ => nan

/-- The quotient, rounded once. -/
def div : Double → Double → Double
  | finite s m e, finite t n f =>
    if n = 0 then (if m = 0 then nan else infinite (s != t))
    else
      let (a, b) := ratio m e
      let (c, d) := ratio n f
      ofRatio (s != t) (a * d) (b * c)
  | infinite s, finite t _ _ => infinite (s != t)
  | finite s _ _, infinite t => zero (s != t)
  | _, _ => nan

instance : Mul Double := ⟨mul⟩

instance : Div Double := ⟨div⟩

instance : Neg Double := ⟨neg⟩

/-- The number is neither an infinity nor undefined. -/
def isFinite : Double → Bool
  | finite _ _ _ => true
  | _ => false

end Double

end Colonnade
