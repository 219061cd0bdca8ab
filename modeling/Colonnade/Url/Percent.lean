import Colonnade.Number.Digits

/-!
# Percent-encoding

A character that a part of a URL cannot hold is replaced by its UTF-8 bytes, each written
`%` and two upper-case hexadecimal digits. Which characters these are depends on the part:
every part encodes controls and everything that is not ASCII (`isControl`), and each adds
characters of its own (`fragmentSet` and its companions).

A `%` is never encoded, so text that is encoded already stays as it is.
-/

namespace Colonnade.Url

/-- A control character or one outside ASCII: encoded in every part. -/
def isControl (c : Char) : Bool :=
  c.toNat < 0x20 || 0x7E < c.toNat

/-- What the parts kept as written encode. -/
def controlSet (c : Char) : Bool :=
  isControl c

/-- What a fragment encodes. -/
def fragmentSet (c : Char) : Bool :=
  isControl c || [' ', '"', '<', '>', '\x60'].contains c

/-- What a query encodes; in a special scheme also the apostrophe. -/
def querySet (special : Bool) (c : Char) : Bool :=
  isControl c || [' ', '"', '#', '<', '>'].contains c || (special && c == '\'')

/-- What a path encodes. -/
def pathSet (c : Char) : Bool :=
  fragmentSet c || ['#', '?', '\x7b', '\x7d'].contains c

/-- What a user name or a password encodes. -/
def userSet (c : Char) : Bool :=
  pathSet c || ['/', ':', ';', '=', '@', '[', '\\', ']', '^', '|'].contains c

/-- A hexadecimal digit in upper case. -/
def hexDigit (n : Nat) : Char :=
  if n < 10 then Char.ofNat ('0'.toNat + n) else Char.ofNat ('A'.toNat + (n - 10))

/-- The value of a hexadecimal digit of either case. -/
def hexValue? (c : Char) : Option Nat :=
  if c.isDigit then some (Number.digitValue c)
  else if 'a' ≤ c ∧ c ≤ 'f' then some (c.toNat - 'a'.toNat + 10)
  else if 'A' ≤ c ∧ c ≤ 'F' then some (c.toNat - 'A'.toNat + 10)
  else none

/-- The UTF-8 bytes of a character. -/
def utf8 (c : Char) : List UInt8 :=
  String.utf8EncodeChar c

/-- `%` and two hexadecimal digits for each byte of a character. -/
def encodeChar (c : Char) : List Char :=
  (utf8 c).flatMap fun b => ['%', hexDigit (b.toNat / 16), hexDigit (b.toNat % 16)]

/-- **Encoding**: the characters of a set are replaced. -/
def encode (set : Char → Bool) (cs : List Char) : List Char :=
  cs.flatMap fun c => if set c then encodeChar c else [c]

/-- **Decoding** to bytes: `%` with two hexadecimal digits is one byte, every other character
stands for its own bytes. -/
def decode : List Char → List UInt8
  | '%' :: a :: b :: cs =>
    match hexValue? a, hexValue? b with
    | some x, some y => UInt8.ofNat (16 * x + y) :: decode cs
    | _, _ => UInt8.ofNat 0x25 :: decode (a :: b :: cs)
  | c :: cs => utf8 c ++ decode cs
  | [] => []

end Colonnade.Url
