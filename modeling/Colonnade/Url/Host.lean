import Colonnade.Text.Letter
import Colonnade.Url.Percent
import Colonnade.Url.Punycode

/-!
# Hosts

The host of a URL with a special scheme is a domain, an IPv4 address or, in brackets, an
IPv6 address; other schemes keep the host as it is written. `Host.special?` and
`Host.verbatim?` read a host and give its one written form:

* a domain is decoded, mapped to lower case, and each label that is not ASCII is written
  in Punycode;
* a domain whose last label is a number must be an IPv4 address, of one to four numbers
  in decimal, octal or hexadecimal, and is written with four decimal ones;
* an IPv6 address is written with its longest run of two or more zero pieces left out.
-/

namespace Colonnade.Url.Host

open Number

/-- What no host may hold. -/
def isForbidden (c : Char) : Bool :=
  c.toNat = 0 || ['\t', '\n', '\r', ' ', '#', '/', ':', '<', '>', '?', '@', '[', '\\', ']',
    '^', '|'].contains c

/-- What no domain may hold. -/
def isForbiddenInDomain (c : Char) : Bool :=
  isForbidden c || c.toNat ≤ 0x1F || c == '%' || c.toNat = 0x7F

/-! ### IPv4 -/

/-- The value of digits to a base, none for a digit that the base does not have. -/
def valueInBase? (base : Nat) (cs : List Char) : Option Nat :=
  cs.foldlM (fun n c => (hexValue? c).bind fun d => if d < base then some (base * n + d) else none) 0

/-- A number of an IPv4 address: hexadecimal after `0x`, octal after `0`, else decimal. -/
def number? : List Char → Option Nat
  | [] => none
  | '0' :: 'x' :: cs => valueInBase? 16 cs
  | '0' :: 'X' :: cs => valueInBase? 16 cs
  | '0' :: cs => valueInBase? 8 cs
  | cs => valueInBase? 10 cs

/-- The labels of a domain, without an empty one at the end. -/
def labels (cs : List Char) : List (List Char) :=
  let parts := cs.splitOn '.'
  if 1 < parts.length ∧ parts.getLast? = some [] then parts.dropLast else parts

/-- The last label makes the domain an IPv4 address. -/
def endsInNumber (cs : List Char) : Bool :=
  match (labels cs).getLast? with
  | some last => (!last.isEmpty && last.all Char.isDigit) || (number? last).isSome
  | none => false

/-- The address of the numbers of its labels: each but the last is one byte, the last fills
the rest. -/
def ipv4Value? : List Nat → Nat → Option Nat
  | [], _ => none
  | [last], places => if last < Nat.pow 256 places then some last else none
  | n :: ns, places =>
    if n < 256 then (ipv4Value? ns (places - 1)).map fun rest => n * Nat.pow 256 (places - 1) + rest
    else none

/-- The bytes of an IPv4 address in decimal. -/
def ipv4Text (n : Nat) : List Char :=
  digitsOf (n / 16777216) ++ '.' :: digitsOf (n / 65536 % 256) ++
    '.' :: digitsOf (n / 256 % 256) ++ '.' :: digitsOf (n % 256)

/-- Reads an IPv4 address. -/
def ipv4? (cs : List Char) : Option (List Char) := do
  let parts := labels cs
  if 4 < parts.length then none
  else
    let numbers ← parts.mapM number?
    (ipv4Value? numbers 4).map ipv4Text

/-! ### IPv6 -/

/-- A piece of an IPv6 address: one to four hexadecimal digits. -/
def piece? (cs : List Char) : Option Nat :=
  if 1 ≤ cs.length ∧ cs.length ≤ 4 then valueInBase? 16 cs else none

/-- Four decimal bytes, without leading zeros, as two pieces. -/
def dottedPieces? (cs : List Char) : Option (List Nat) := do
  let bytes ← (cs.splitOn '.').mapM fun part =>
    (readNat? part).filter fun n => n < 256 && (part.length == 1 || part.head? != some '0')
  match bytes with
  | [a, b, c, d] => some [256 * a + b, 256 * c + d]
  | _ => none

/-- The pieces between colons; the last one may be an IPv4 address. -/
def pieces? : List (List Char) → Option (List Nat)
  | [] => some []
  | [last] =>
    if last.contains '.' then dottedPieces? last else (piece? last).map fun n => [n]
  | p :: ps => do
    let n ← piece? p
    let ns ← pieces? ps
    some (n :: ns)

/-- The pieces of a part of an address; no pieces for no text. -/
def side? (cs : List Char) : Option (List Nat) :=
  if cs.isEmpty then some [] else pieces? (cs.splitOn ':')

/-- The parts before and after the first double colon. -/
def splitDouble? : List Char → Option (List Char × List Char)
  | ':' :: ':' :: cs => some ([], cs)
  | c :: cs => (splitDouble? cs).map fun (a, b) => (c :: a, b)
  | [] => none

/-- The eight pieces of an IPv6 address. -/
def ipv6Pieces? (cs : List Char) : Option (List Nat) :=
  match splitDouble? cs with
  | some (before, after) => do
    let a ← if before.contains '.' then none else side? before
    let b ← side? after
    if a.length + b.length < 8 then
      some (a ++ List.replicate (8 - a.length - b.length) 0 ++ b)
    else none
  | none => (side? cs).filter fun ps => ps.length == 8

/-- The length of the run of zeros at the start of a list. -/
def zeroRun (ps : List Nat) : Nat :=
  (ps.takeWhile (· == 0)).length

/-- The place and the length of the longest run of zeros, the first of several. -/
def longestZeroRun (ps : List Nat) : Nat × Nat :=
  (List.range ps.length).foldl
    (fun best i => let n := zeroRun (ps.drop i); if best.2 < n then (i, n) else best) (0, 0)

/-- A piece in lower-case hexadecimal. -/
def hexPiece (n : Nat) : List Char :=
  Nat.toDigits 16 n

/-- Pieces with colons between them. -/
def joinPieces (ps : List Nat) : List Char :=
  [':'].intercalate (ps.map hexPiece)

/-- An IPv6 address in brackets. -/
def ipv6Text (ps : List Nat) : List Char :=
  let (i, n) := longestZeroRun ps
  let body :=
    if 2 ≤ n then joinPieces (ps.take i) ++ [':', ':'] ++ joinPieces (ps.drop (i + n))
    else joinPieces ps
  '[' :: body ++ [']']

/-- Reads the text between brackets. -/
def ipv6? (cs : List Char) : Option (List Char) :=
  (ipv6Pieces? cs).map ipv6Text

/-! ### Domains -/

/-- The Latin letters and signs that stand for others in a domain. -/
def compatible : List (Nat × String) :=
  [(0xAA, "a"), (0xB2, "2"), (0xB3, "3"), (0xB5, "\u03bc"), (0xB9, "1"), (0xBA, "o"),
    (0xBC, "1\u20444"), (0xBD, "1\u20442"), (0xBE, "3\u20444"), (0x130, "i\u0307"),
    (0x132, "ij"), (0x133, "ij"), (0x13F, "l\u00b7"), (0x140, "l\u00b7"), (0x149, "\u02bcn"),
    (0x178, "\u00ff"), (0x17F, "s")]

/-- The signs that would need a blank of their own, which no domain has. -/
def spacing : List Nat := [0xA0, 0xA8, 0xAF, 0xB4, 0xB8]

/-- A character of a domain in the form that is looked up: lower case, full stops and
full-width letters in their plain form, invisible characters dropped. -/
def mapChar (c : Char) : List Char :=
  let n := c.toNat
  let plain (k : Nat) : List Char := [Char.ofNat k]
  if n < 0x80 then [c.toLower]
  else if let some (_, text) := compatible.find? fun (code, _) => code == n then text.toList
  else if n = 0xAD ∨ n = 0x200B ∨ n = 0x2060 ∨ n = 0xFEFF then []
  else if n = 0x3002 ∨ n = 0xFF0E ∨ n = 0xFF61 then ['.']
  else if 0xFF01 ≤ n ∧ n ≤ 0xFF5E then [(Char.ofNat (n - 0xFEE0)).toLower]
  else if 0xC0 ≤ n ∧ n ≤ 0xDE ∧ n ≠ 0xD7 then plain (n + 32)
  else if (0x100 ≤ n ∧ n ≤ 0x137 ∧ n % 2 = 0) ∨ (0x14A ≤ n ∧ n ≤ 0x177 ∧ n % 2 = 0) then
    plain (n + 1)
  else if (0x139 ≤ n ∧ n ≤ 0x148 ∧ n % 2 = 1) ∨ (0x179 ≤ n ∧ n ≤ 0x17E ∧ n % 2 = 1) then
    plain (n + 1)
  else if 0x391 ≤ n ∧ n ≤ 0x3A9 ∧ n ≠ 0x3A2 then plain (n + 32)
  else if 0x400 ≤ n ∧ n ≤ 0x40F then plain (n + 80)
  else if 0x410 ≤ n ∧ n ≤ 0x42F then plain (n + 32)
  else [c]

/-- A character that a domain in that form may have. -/
def isMapped (c : Char) : Bool :=
  mapChar c == [c] && !(0x80 ≤ c.toNat && c.toNat ≤ 0x9F) && !spacing.contains c.toNat &&
    c.toNat != 0xFFFD

/-- A label in ASCII; a label in Punycode has to decode to one that is not ASCII, and whose
characters need not be mapped. -/
def asciiLabel? (label : List Char) : Option (List Char) :=
  if label.all fun c => c.toNat < 0x80 then
    match Text.dropLead? ['x', 'n', '-', '-'] label with
    | some code =>
      match Punycode.decode? code with
      | some decoded =>
        if (decoded.any fun c => 0x80 ≤ c.toNat) && decoded.all isMapped then some label else none
      | none => none
    | none => some label
  else if label.all isMapped then some (['x', 'n', '-', '-'] ++ Punycode.encode label)
  else none

/-- A domain in ASCII. -/
def asciiDomain? (cs : List Char) : Option (List Char) := do
  let labels ← ((cs.flatMap mapChar).splitOn '.').mapM asciiLabel?
  let domain := ['.'].intercalate labels
  if domain.isEmpty || domain.any isForbiddenInDomain then none else some domain

/-- Reads the UTF-8 text that bytes encode. -/
def fromUtf8? (bytes : List UInt8) : Option (List Char) :=
  (String.fromUTF8? (ByteArray.mk bytes.toArray)).map String.toList

/-- **The host of a special scheme.** -/
def special? (cs : List Char) : Option (List Char) :=
  match cs with
  | '[' :: rest => (Text.dropTail? [']'] rest).bind ipv6?
  | _ => do
    let decoded ← fromUtf8? (decode cs)
    let domain ← asciiDomain? decoded
    if endsInNumber domain then ipv4? domain else some domain

/-- **The host of any other scheme.** -/
def verbatim? (cs : List Char) : Option (List Char) :=
  match cs with
  | '[' :: rest => (Text.dropTail? [']'] rest).bind ipv6?
  | _ => if cs.any isForbidden then none else some (encode controlSet cs)

end Colonnade.Url.Host
