import Colonnade.Number.Double
import Colonnade.Text.Letter

/-!
# Decimals of 96 bits

A `Decimal` is `± mantissa · 10^-scale` with a mantissa below `2^96` and at most 28
places. The scale belongs to the number: `12.50` keeps its zero.

* `Decimal.read?` – reading positional text. Digits may be separated by underscores
  once there is a digit before them. A fraction with more digits than fit is rounded
  at the first digit that does not, a five upwards; a whole part that does not fit is
  refused.
* `Decimal.readScientific?` – a positional text, `e` or `E` and a power of ten.
* `Decimal.ofDouble?` – the decimal of a double with the 15 to 16 digits that the
  double determines, without trailing zeros.
* `Decimal.text` – positional writing with all places of the scale.
-/

namespace Colonnade

open Number

/-- One more than the greatest mantissa of a decimal. -/
def Decimal.mantissaBound : Nat := Nat.pow 2 96

/-- The greatest number of places of a decimal. -/
def Decimal.maxScale : Nat := 28

/-- **A decimal**: `± mantissa · 10^-scale`. -/
structure Decimal where
  negative : Bool
  mantissa : Nat
  scale : Nat
  mantissa_lt : mantissa < Decimal.mantissaBound
  scale_le : scale ≤ Decimal.maxScale
deriving DecidableEq

namespace Decimal

instance : Inhabited Decimal := ⟨⟨false, 0, 0, by decide, by decide⟩⟩

/-- The decimal with these parts, if they are in range. -/
def make? (negative : Bool) (mantissa scale : Nat) : Option Decimal :=
  if h : mantissa < mantissaBound ∧ scale ≤ maxScale then
    some ⟨negative, mantissa, scale, h.1, h.2⟩
  else none

/-- The decimal of an integer, if it fits. -/
def ofInt? (i : Int) : Option Decimal :=
  make? (decide (i < 0)) i.natAbs 0

/-- **The text of a decimal**: its sign, and its mantissa with `scale` places. -/
def text (d : Decimal) : String :=
  let digits := placePoint d.mantissa d.scale
  String.ofList (if d.negative then '-' :: digits else digits)

/-! ### Positional text -/

/-- The digits read so far. -/
structure Scan where
  mantissa : Nat
  scale : Nat
  /-- The point has been read. -/
  fraction : Bool
  /-- A digit has been read. -/
  started : Bool

/-- Rounds at the first digit that does not fit. A mantissa that is full to the last bit
gives up one more place. -/
def roundAt (s : Scan) (digit : Nat) : Option (Nat × Nat) :=
  if digit < 5 then some (s.mantissa, s.scale)
  else if s.mantissa + 1 < mantissaBound then some (s.mantissa + 1, s.scale)
  else if s.scale = 0 then none
  else some ((s.mantissa + 5) / 10, s.scale - 1)

/-- What may follow the digit that was rounded away. -/
def isFiller (c : Char) : Bool :=
  c.isDigit || c == '_'

/-- The mantissa and the scale of a text without its sign. -/
def scan (s : Scan) : List Char → Option (Nat × Nat)
  | [] => if s.started then some (s.mantissa, s.scale) else none
  | c :: cs =>
    if s.fraction && s.scale == maxScale && isFiller c then
      if cs.all isFiller then roundAt s (if c == '_' then 0 else digitValue c) else none
    else if c.isDigit then
      let m := 10 * s.mantissa + digitValue c
      if mantissaBound ≤ m then
        if s.fraction && cs.all isFiller then roundAt s (digitValue c) else none
      else scan ⟨m, if s.fraction then s.scale + 1 else 0, s.fraction, true⟩ cs
    else if c == '.' && !s.fraction then scan { s with fraction := true } cs
    else if c == '_' && s.started then scan s cs
    else none

/-- Reads positional text; a zero has no sign. -/
def read? (cs : List Char) : Option Decimal :=
  let (negative, body) :=
    match cs with
    | '-' :: rest => (true, rest)
    | '+' :: rest => (false, rest)
    | rest => (false, rest)
  (scan ⟨0, 0, false, false⟩ body).bind fun (m, k) => make? (negative && m != 0) m k

/-! ### Scientific text -/

/-- Reads an exponent without a minus: digits after an optional plus, at most 28. -/
def readExponent? (cs : List Char) : Option Nat :=
  let digits :=
    match cs with
    | '+' :: rest => rest
    | rest => rest
  (readNat? digits).filter (· ≤ maxScale)

/-- Divides by `10^e`: the point moves left, and past 28 places the rest is rounded,
a five upwards. -/
def shiftLeft? (d : Decimal) (e : Nat) : Option Decimal :=
  let scale := d.scale + e
  if scale ≤ maxScale then make? d.negative d.mantissa scale
  else
    let m := roundHalfUp d.mantissa (Nat.pow 10 (scale - maxScale))
    make? d.negative m maxScale

/-- Multiplies by `10^e`: the point moves right, and past the last place the mantissa
grows, if it can. -/
def shiftRight? (d : Decimal) (e : Nat) : Option Decimal :=
  if e ≤ d.scale then make? d.negative d.mantissa (d.scale - e)
  else make? d.negative (d.mantissa * Nat.pow 10 (e - d.scale)) 0

/-- The parts before and after the first `e` or `E`. -/
def splitExponent? : List Char → Option (List Char × List Char)
  | [] => none
  | c :: cs =>
    if c == 'e' || c == 'E' then some ([], cs)
    else (splitExponent? cs).map fun (base, e) => (c :: base, e)

/-- Reads a positional text times a power of ten. -/
def readScientific? (cs : List Char) : Option Decimal := do
  let (base, exponent) ← splitExponent? cs
  let d ← read? base
  match exponent with
  | '-' :: digits => (readExponent? digits).bind d.shiftLeft?
  | digits => (readExponent? digits).bind d.shiftRight?

/-- **Reading a decimal**: positional text, else scientific text. -/
def ofText? (cs : List Char) : Option Decimal :=
  (read? cs).or (readScientific? cs)

/-! ### The decimal of a double -/

/-- Multiplies or divides `m` until the factor `5^k` of `m · 5^k · 10^x` is used up,
staying below `2^96`: first halving even mantissas, then multiplying by five, and
halving again where a multiplication does not fit. -/
def clearFives : Nat → Nat → Int → Nat × Int
  | 0, m, x => (m, x)
  | k + 1, m, x =>
    if m % 2 = 0 then clearFives k (m / 2) (x + 1)
    else if m * 5 < mantissaBound then clearFives k (m * 5) x
    else clearFives k (m / 2) (x + 1)

/-- The same for a negative power of five: doubling, and dividing by five where a
doubling does not fit. -/
def clearFifths : Nat → Nat → Int → Nat × Int
  | 0, m, x => (m, x)
  | k + 1, m, x =>
    if m * 2 < mantissaBound then clearFifths k (m * 2) (x - 1)
    else clearFifths k (m / 5) x

/-- Multiplies by ten `k` times, if the mantissa can take it. -/
def raise? : Nat → Nat → Option Nat
  | 0, m => some m
  | k + 1, m => if m * 10 < mantissaBound then raise? k (m * 10) else none

/-- Drops `k` places, each rounded with a five upwards; a mantissa that runs out is zero
without places. -/
def dropPlaces : Nat → Nat → Nat → Nat × Nat
  | 0, m, places => (m, places)
  | k + 1, m, places =>
    if m / 10 = 0 then (0, 0) else dropPlaces k (roundHalfUp m 10) (places - 1)

/-- Drops places while the mantissa has more than the 52 bits that a double determines. -/
def dropExcess : Nat → Nat → Nat × Nat
  | m, 0 => (m, 0)
  | m, places + 1 =>
    if Double.implicitBit ≤ m then dropExcess (roundHalfUp m 10) places else (m, places + 1)

/-- Drops the zeros at the end of the places. -/
def dropZeros : Nat → Nat → Nat × Nat
  | m, 0 => (m, 0)
  | m, places + 1 => if m % 10 = 0 then dropZeros (m / 10) places else (m, places + 1)

/-- The decimal of a double with the digits that the double determines; none for a number
that is not finite or has more than 96 bits before the point. -/
def ofDouble? : Double → Option Decimal
  | .finite negative m e =>
    if m = 0 then make? negative 0 0
    else
      let (m, x) := if e < 0 then clearFives e.natAbs m e else clearFifths e.natAbs m e
      if 0 < x then (raise? x.natAbs m).bind fun m => make? negative m 0
      else
        let places := x.natAbs
        let (m, places) := dropPlaces (places - maxScale) m places
        let (m, places) := dropExcess m places
        let (m, places) := dropZeros m places
        make? (negative && m != 0) m places
  | _ => none

end Decimal

end Colonnade
