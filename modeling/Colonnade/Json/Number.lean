import Colonnade.Json.Basic
import Colonnade.Number.Digits

/-!
# Numbers of a JSON text

A number without fraction and exponent that fits into 64 bits is an integer; the integer zero
with a minus sign is the double `-0`. Any other number is a double, and it is **not** the
double nearest to the text. Its digits are gathered in 64 bits: from the digit on that would
not fit, a digit of the fraction is dropped, and a digit of the whole part raises the
exponent by one. The digits so far, as a double, are then multiplied or divided once by a
power of ten.

A number too large for a double is a fault.
-/

namespace Colonnade.Json

open Number

/-- One more than the greatest number that digits are gathered in. -/
def gatherBound : Nat := Nat.pow 2 64

/-- The largest exponent of ten that is a double. -/
def largestPower : Nat := 308

/-- The power of ten as a double. -/
def tenTo (n : Nat) : Double :=
  .ofDecimal false 1 n

/-- A double that is not infinite. -/
def checked (x : Double) : Except Fault Double :=
  if x.isFinite then .ok x else .error .malformed

/-- A double times a power of ten; a power that is itself too small is applied in steps, of which
`steps` are enough. -/
def scaleByTen : (steps : Nat) → Double → Int → Except Fault Double
  | 0, x, _ => .ok x
  | steps + 1, x, e =>
    if e.natAbs ≤ largestPower then
      if 0 ≤ e then checked (x * tenTo e.natAbs) else .ok (x / tenTo e.natAbs)
    else if x = .zero false then .ok x
    else if 0 ≤ e then .error .malformed
    else scaleByTen steps (x / tenTo largestPower) (e + largestPower)

/-- The steps from any 64-bit number down to zero. -/
def enoughSteps : Nat := 3

/-- **The double of gathered digits** and an exponent of ten. -/
def assemble (negative : Bool) (digits : Nat) (e : Int) : Except Fault Json :=
  (scaleByTen enoughSteps (.ofInt digits) e).map fun x => .double (if negative then -x else x)

/-- A digit still fits. -/
def fits (digits : Nat) (c : Char) : Bool :=
  10 * digits + digitValue c < gatherBound

/-- Gathers digits of the whole part; the answer is the digits, how many more there were, and
the rest of the text. -/
def gatherWhole (digits : Nat) : List Char → Nat × Nat × List Char
  | [] => (digits, 0, [])
  | c :: cs =>
    if c.isDigit then
      if fits digits c then gatherWhole (10 * digits + digitValue c) cs
      else
        let more := (c :: cs).takeWhile Char.isDigit
        (digits, more.length, (c :: cs).drop more.length)
    else (digits, 0, c :: cs)

/-- Gathers digits of the fraction; the answer is the digits, how many were gathered, and the
rest of the text. -/
def gatherFraction (digits gathered : Nat) : List Char → Nat × Nat × List Char
  | [] => (digits, gathered, [])
  | c :: cs =>
    if c.isDigit then
      if fits digits c then gatherFraction (10 * digits + digitValue c) (gathered + 1) cs
      else (digits, gathered, (c :: cs).dropWhile Char.isDigit)
    else (digits, gathered, c :: cs)

/-- The fault of a text that lacks a digit. -/
def digitFault (cs : List Char) : Fault :=
  if cs.isEmpty then .unfinished else .malformed

/-- Reads an exponent after its letter. An exponent beyond 32 bits makes anything but zero too
large or zero. -/
def readPower (negative : Bool) (digits : Nat) (e : Int) (cs : List Char) :
    Except Fault (Json × List Char) :=
  let (down, cs) := match cs with
    | '+' :: cs => (false, cs)
    | '-' :: cs => (true, cs)
    | cs => (false, cs)
  let ds := cs.takeWhile Char.isDigit
  let rest := cs.drop ds.length
  if ds.isEmpty then .error (digitFault cs)
  else
    let power := valueOf ds
    if int32Range.2 < power then
      if digits ≠ 0 ∧ !down then .error .malformed
      else .ok (.double (.zero negative), rest)
    else
      (assemble negative digits (if down then e - power else e + power)).map (·, rest)

/-- Reads what may follow the digits of a double. -/
def readTail (negative : Bool) (digits : Nat) (e : Int) :
    List Char → Except Fault (Json × List Char)
  | 'e' :: cs => readPower negative digits e cs
  | 'E' :: cs => readPower negative digits e cs
  | cs => (assemble negative digits e).map (·, cs)

/-- Reads a fraction after its point. -/
def readFraction (negative : Bool) (digits : Nat) (e : Int) (cs : List Char) :
    Except Fault (Json × List Char) :=
  match cs with
  | c :: _ =>
    if c.isDigit then
      let (digits, gathered, rest) := gatherFraction digits 0 cs
      readTail negative digits (e - gathered) rest
    else .error .malformed
  | [] => .error .unfinished

/-- A number that is written without fraction and exponent. -/
def whole (negative : Bool) (digits : Nat) : Json :=
  if !negative then .integer digits
  else if digits = 0 ∨ Nat.pow 2 63 < digits then .double (-.ofInt digits)
  else .integer (-digits)

/-- **Reading a number** after its sign. -/
def readNumber (negative : Bool) : List Char → Except Fault (Json × List Char)
  | [] => .error .unfinished
  | c :: cs =>
    if !c.isDigit then .error .malformed
    else if c = '0' ∧ (cs.head?.map Char.isDigit) = some true then .error .malformed
    else
      let (digits, more, rest) := gatherWhole 0 (c :: cs)
      match rest with
      | '.' :: rest => readFraction negative digits more rest
      | _ =>
        if more = 0 ∧ rest.head? ≠ some 'e' ∧ rest.head? ≠ some 'E' then
          .ok (whole negative digits, rest)
        else readTail negative digits more rest

end Colonnade.Json
