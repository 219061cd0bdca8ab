import Colonnade.Number.Digits
import Colonnade.Text.Blank
import Colonnade.Text.Letter

/-!
# Durations

A `Duration` is a signed number of nanoseconds of 64 bits. Two forms are read:

* **the ISO form** `[+-]? P (n D)? (T (n H)? (n M)? (n(.f)? S)?)?` with at least one
  component, and at least one after a `T`;
* **the unit form**, an optional minus and words such as `1h 30m`, each a number with an
  optional fraction and one of the units `d h m s ms us ns`, the units strictly
  decreasing; after a minus the words may stand in parentheses.

Either way a text is first split into components (`Component`), whose nanoseconds are then
added up: a component is rounded down to whole nanoseconds after the first 18 digits of its
fraction. The sums are computed in 128 bits, and a number on the way that does not fit makes
the text no duration. `Duration.text` writes the ISO form in seconds alone.
-/

namespace Colonnade

open Number

/-- **A duration** in nanoseconds. -/
structure Duration where
  nanoseconds : Int64
deriving DecidableEq, Inhabited

namespace Duration

/-- The units of a duration, from the greatest to the least. -/
inductive Timescale where
  | day | hour | minute | second | milli | micro | nano
deriving DecidableEq, Inhabited

namespace Timescale

/-- The nanoseconds of a unit. -/
def nanoseconds : Timescale → Nat
  | day => 86400000000000
  | hour => 3600000000000
  | minute => 60000000000
  | second => 1000000000
  | milli => 1000000
  | micro => 1000
  | nano => 1

/-- The unit that a symbol names. -/
def ofSymbol? : List Char → Option Timescale
  | ['d'] => some day
  | ['h'] => some hour
  | ['m'] => some minute
  | ['s'] => some second
  | ['m', 's'] => some milli
  | ['u', 's'] => some micro
  | ['n', 's'] => some nano
  | _ => none

end Timescale

/-- **A component**: whole digits, the digits of a fraction if it has one, and a unit. -/
structure Component where
  whole : List Char
  fraction : List Char
  unit : Timescale
deriving DecidableEq

/-- The greatest integer of 128 bits. -/
def maxInt128 : Nat := Nat.pow 2 127 - 1

/-- **A magnitude in 128 bits**; none if it does not fit. -/
def fit? (n : Nat) : Option Nat :=
  if n ≤ maxInt128 then some n else none

namespace Component

/-- **The nanoseconds of a component**, computed in 128 bits: the whole part, and the fraction
rounded down after its first 18 digits. -/
def nanoseconds? (c : Component) : Option Nat := do
  let whole ← fit? (valueOf c.whole)
  let n ← fit? (whole * c.unit.nanoseconds)
  if c.fraction.isEmpty then some n
  else
    let kept := c.fraction.take 18
    let numerator ← fit? (valueOf kept)
    let denominator ← fit? (Nat.pow 10 kept.length)
    let scaled ← fit? (numerator * c.unit.nanoseconds)
    fit? (n + scaled / denominator)

/-- Reads a component of the unit form. -/
def ofWord? (word : List Char) : Option Component :=
  let whole := word.takeWhile Char.isDigit
  let rest := word.dropWhile Char.isDigit
  if whole.isEmpty then none
  else
    match rest with
    | '.' :: cs =>
      let fraction := cs.takeWhile Char.isDigit
      if fraction.isEmpty then none
      else (Timescale.ofSymbol? (cs.dropWhile Char.isDigit)).map fun u => ⟨whole, fraction, u⟩
    | symbol => (Timescale.ofSymbol? symbol).map fun u => ⟨whole, [], u⟩

end Component

/-- **The nanoseconds of components**, added up in 128 bits from the first one on. -/
def magnitude? (cs : List Component) : Option Nat :=
  cs.foldlM (fun n c => c.nanoseconds?.bind fun m => fit? (n + m)) 0

/-! ### The ISO form -/

/-- A component with this letter at the start of a text, and what follows; without digits
before the letter there is none, and nothing is taken. -/
def lettered (letter : Char) (unit : Timescale) (cs : List Char) :
    Option Component × List Char :=
  let whole := cs.takeWhile Char.isDigit
  match cs.dropWhile Char.isDigit with
  | c :: rest => if c = letter ∧ whole ≠ [] then (some ⟨whole, [], unit⟩, rest) else (none, cs)
  | [] => (none, cs)

/-- The seconds at the end of a text: digits, optionally one to nine digits after a point,
and `S`. -/
def seconds? (cs : List Char) : Option Component :=
  let whole := cs.takeWhile Char.isDigit
  if whole.isEmpty then none
  else
    match cs.dropWhile Char.isDigit with
    | ['S'] => some ⟨whole, [], .second⟩
    | '.' :: rest =>
      let fraction := rest.takeWhile Char.isDigit
      if rest.dropWhile Char.isDigit = ['S'] ∧ 1 ≤ fraction.length ∧ fraction.length ≤ 9 then
        some ⟨whole, fraction, .second⟩
      else none
    | _ => none

/-- The components after a `T`, at least one and nothing else. -/
def clockComponents? (cs : List Char) : Option (List Component) :=
  let (hours, afterHours) := lettered 'H' .hour cs
  let (minutes, rest) := lettered 'M' .minute afterHours
  let found := hours.toList ++ minutes.toList
  if rest.isEmpty then (if found.isEmpty then none else some found)
  else (seconds? rest).map fun s => found ++ [s]

/-- The components of the ISO form after its `P`. -/
def isoComponents? (cs : List Char) : Option (List Component) :=
  let (days, rest) := lettered 'D' .day cs
  match rest with
  | [] => if days.isNone then none else some days.toList
  | 'T' :: clock => (clockComponents? clock).map fun found => days.toList ++ found
  | _ => none

/-- The signed components of the ISO form. -/
def iso? : List Char → Option (Bool × List Component)
  | '-' :: 'P' :: cs => (isoComponents? cs).map fun found => (true, found)
  | '+' :: 'P' :: cs => (isoComponents? cs).map fun found => (false, found)
  | 'P' :: cs => (isoComponents? cs).map fun found => (false, found)
  | _ => none

/-! ### The unit form -/

/-- Every unit is smaller than the one before it. -/
def decreasing : List Component → Bool
  | c :: d :: cs => decide (d.unit.nanoseconds < c.unit.nanoseconds) && decreasing (d :: cs)
  | _ => true

/-- The components of words, at least one and with decreasing units. -/
def unitComponents? (cs : List Char) : Option (List Component) :=
  ((Text.words cs).mapM Component.ofWord?).filter fun found =>
    !found.isEmpty && decreasing found

/-- The signed components of the unit form. -/
def units? : List Char → Option (Bool × List Component)
  | '-' :: '(' :: cs =>
    ((Text.dropTail? [')'] cs).bind unitComponents?).map fun found => (true, found)
  | '-' :: cs => (unitComponents? cs).map fun found => (true, found)
  | '(' :: _ => none
  | cs => (unitComponents? cs).map fun found => (false, found)

/-! ### Reading and writing -/

/-- The form of a text is decided by its first character and the presence of a `P`. -/
def looksIso (cs : List Char) : Bool :=
  (match cs with
    | c :: _ => c == 'P' || c == '-' || c == '+'
    | [] => false) && cs.contains 'P'

/-- The signed components of a text. -/
def components? (cs : List Char) : Option (Bool × List Component) :=
  if looksIso cs then iso? cs else units? cs

/-- **Reading a duration**, in either form, if its total has at most 64 bits. -/
def ofText? (cs : List Char) : Option Duration := do
  let (negative, found) ← components? cs
  let n ← magnitude? found
  let signed : Int := if negative then -n else n
  if within int64Range signed then some ⟨Int64.ofInt signed⟩ else none

/-- The digits of a fraction of nine places without the zeros at their end. -/
def fractionDigits (nanosecond : Nat) : List Char :=
  ((padZeros 9 (digitsOf nanosecond)).reverse.dropWhile (· == '0')).reverse

/-- The characters of a magnitude: `P0D` for zero, else the seconds and their fraction. -/
def magnitudeChars (n : Nat) : List Char :=
  if n = 0 then ['P', '0', 'D']
  else
    let fraction := n % 1000000000
    'P' :: 'T' :: digitsOf (n / 1000000000) ++
      (if fraction = 0 then [] else '.' :: fractionDigits fraction) ++ ['S']

/-- **The text of a duration.** -/
def text (d : Duration) : String :=
  let n := d.nanoseconds.toInt
  String.ofList (if n < 0 then '-' :: magnitudeChars n.natAbs else magnitudeChars n.natAbs)

end Duration

end Colonnade
