import Colonnade.Text.Blank

/-!
# Texts in 16-bit units

A text in UTF-16 is a sequence of 16-bit units, each of them two bytes. A unit is a character,
or it is one of a pair of surrogates, the high one first. Bytes that are not of this form are
no text: an odd byte at the end, or a surrogate that is not one of a pair.
-/

namespace Colonnade.Utf16

/-- The units of bytes, the first byte of a unit being the higher one if `bigEndian`. -/
def units? (bigEndian : Bool) : List UInt8 → Option (List Nat)
  | [] => some []
  | [_] => none
  | a :: b :: bytes =>
    let unit := if bigEndian then 256 * a.toNat + b.toNat else 256 * b.toNat + a.toNat
    (units? bigEndian bytes).map (unit :: ·)

/-- The unit is the first of a pair. -/
def isHigh (unit : Nat) : Bool := 0xD800 ≤ unit && unit < 0xDC00

/-- The unit is the second of a pair. -/
def isLow (unit : Nat) : Bool := 0xDC00 ≤ unit && unit < 0xE000

/-- The characters of units. -/
def chars? : List Nat → Option (List Char)
  | [] => some []
  | [unit] => if isHigh unit || isLow unit then none else some [Char.ofNat unit]
  | unit :: next :: rest =>
    if isLow unit then none
    else if isHigh unit then
      if isLow next then
        (chars? rest).map
          (Char.ofNat ((unit - 0xD800) * 0x400 + (next - 0xDC00) + 0x10000) :: ·)
      else none
    else (chars? (next :: rest)).map (Char.ofNat unit :: ·)

/-- **Decoding bytes.** -/
def decode? (bigEndian : Bool) (bytes : List UInt8) : Option (List Char) :=
  (units? bigEndian bytes).bind chars?

end Colonnade.Utf16
