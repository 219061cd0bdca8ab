/-!
# Digit strings

A number is written with the ASCII digits, most significant first. The value of a
digit string is a fold (`valueOf`); `digitsOf` writes the shortest string of a value.
Reading an integer adds an optional sign and a range:

* `readNat?` – digits only, at least one;
* `readInt?` – an optional `+` or `-` before them;
* `readInt32?`, `readInt64?` – the same within 32 and 64 bits.

`placePoint` is the positional writing of `m · 10^-k`: the digits of `m` with the
decimal point `k` places from the right.
-/

namespace Colonnade.Number

/-- The value of one ASCII digit. -/
def digitValue (c : Char) : Nat :=
  c.toNat - '0'.toNat

/-- The number that a digit string denotes. -/
def valueOf (ds : List Char) : Nat :=
  ds.foldl (fun n c => 10 * n + digitValue c) 0

/-- The decimal digits of a number, without leading zeros. -/
def digitsOf (n : Nat) : List Char :=
  Nat.toDigits 10 n

/-- Reads a non-empty string of digits. -/
def readNat? (cs : List Char) : Option Nat :=
  if !cs.isEmpty && cs.all Char.isDigit then some (valueOf cs) else none

/-- Reads digits after an optional sign. -/
def readInt? : List Char → Option Int
  | '+' :: cs => (readNat? cs).map Int.ofNat
  | '-' :: cs => (readNat? cs).map fun n => -Int.ofNat n
  | cs => (readNat? cs).map Int.ofNat

/-- The least and the greatest 32-bit integer. -/
def int32Range : Int × Int := (-2147483648, 2147483647)

/-- The least and the greatest 64-bit integer. -/
def int64Range : Int × Int := (-9223372036854775808, 9223372036854775807)

/-- `i` lies between two bounds, both included. -/
def within (range : Int × Int) (i : Int) : Bool :=
  decide (range.1 ≤ i) && decide (i ≤ range.2)

/-- Reads an integer of at most 32 bits. -/
def readInt32? (cs : List Char) : Option Int32 :=
  ((readInt? cs).filter (within int32Range)).map Int32.ofInt

/-- Reads an integer of at most 64 bits. -/
def readInt64? (cs : List Char) : Option Int64 :=
  ((readInt? cs).filter (within int64Range)).map Int64.ofInt

/-- The text of an integer: a sign only if it is negative. -/
def integerText (i : Int) : String :=
  String.ofList (if i < 0 then '-' :: digitsOf i.natAbs else digitsOf i.natAbs)

/-- The digits `ds` filled up with zeros on the left to `width` places. -/
def padZeros (width : Nat) (ds : List Char) : List Char :=
  List.replicate (width - ds.length) '0' ++ ds

/-- **Positional writing**: the digits of `m` with `places` of them after the point;
without a point if there is none. -/
def placePoint (m places : Nat) : List Char :=
  if places = 0 then digitsOf m
  else
    let ds := padZeros (places + 1) (digitsOf m)
    let k := ds.length - places
    ds.take k ++ '.' :: ds.drop k

end Colonnade.Number
