import Colonnade.Number.Digits

/-!
# Punycode

A label of a domain that is not ASCII is written with letters, digits and hyphens: its
ASCII characters, a hyphen, and then a list of insertions. The other characters are
inserted in ascending order, each as the distance from the last insertion, a number of
variable length to the base 36 whose digits have thresholds that adapt to the distances
seen so far.
-/

namespace Colonnade.Url.Punycode

/-- The digit of a value below 36. -/
def digit (n : Nat) : Char :=
  if n < 26 then Char.ofNat ('a'.toNat + n) else Char.ofNat ('0'.toNat + (n - 26))

/-- The value of a digit. -/
def digitValue? (c : Char) : Option Nat :=
  if c.isDigit then some (Number.digitValue c + 26)
  else if 'a' ≤ c ∧ c ≤ 'z' then some (c.toNat - 'a'.toNat)
  else if 'A' ≤ c ∧ c ≤ 'Z' then some (c.toNat - 'A'.toNat)
  else none

/-- The least value of a digit, at place `k` counted in steps of 36, that is not the last. -/
def threshold (bias k : Nat) : Nat :=
  if k ≤ bias then 1 else min 26 (k - bias)

/-- Divides a distance by 35 until it is at most 455, counting the steps. -/
def damp : (fuel delta k : Nat) → Nat
  | 0, delta, k => k + 36 * delta / (delta + 38)
  | fuel + 1, delta, k =>
    if 455 < delta then damp fuel (delta / 35) (k + 36) else k + 36 * delta / (delta + 38)

/-- The bias after an insertion at a distance `delta` into a text of now `count`
characters. -/
def adapt (delta count : Nat) (first : Bool) : Nat :=
  let delta := if first then delta / 700 else delta / 2
  damp 64 (delta + delta / count) 0

/-- The digits of a distance, from place `k` on. -/
def distanceDigits (bias : Nat) : (fuel k q : Nat) → List Char
  | 0, _, _ => []
  | fuel + 1, k, q =>
    let t := threshold bias k
    if q < t then [digit q]
    else digit (t + (q - t) % (36 - t)) :: distanceDigits bias fuel (k + 36) ((q - t) / (36 - t))

/-- The state of the encoding: what is written, the distance, the bias and the number of
characters written. -/
structure Encoding where
  out : List Char
  delta : Nat
  bias : Nat
  count : Nat

/-- Looks at one character of the label while the characters of code `n` are inserted. -/
def encodeStep (basic n : Nat) (s : Encoding) (c : Char) : Encoding :=
  if c.toNat < n then { s with delta := s.delta + 1 }
  else if c.toNat = n then
    { out := s.out ++ distanceDigits s.bias 64 36 s.delta
      delta := 0
      bias := adapt s.delta (s.count + 1) (s.count == basic)
      count := s.count + 1 }
  else s

/-- Inserts the characters of the codes in a list, from the code `last` on. -/
def encodeCodes (label : List Char) (basic : Nat) : List Nat → Nat → Encoding → Encoding
  | [], _, s => s
  | n :: codes, last, s =>
    let s := { s with delta := s.delta + (n - last) * (s.count + 1) }
    let s := label.foldl (encodeStep basic n) s
    encodeCodes label basic codes (n + 1) { s with delta := s.delta + 1 }

/-- **Encoding a label.** -/
def encode (label : List Char) : List Char :=
  let basic := label.filter fun c => c.toNat < 0x80
  let codes := ((label.filter fun c => 0x80 ≤ c.toNat).map Char.toNat).mergeSort.eraseDups
  let start := if basic.isEmpty then [] else basic ++ ['-']
  (encodeCodes label basic.length codes 0x80 ⟨start, 0, 72, basic.length⟩).out

/-- Reads the digits of a distance: the new position and what follows. -/
def decodeDistance? (bias : Nat) : (k weight i : Nat) → List Char → Option (Nat × List Char)
  | _, _, _, [] => none
  | k, weight, i, c :: cs => do
    let d ← digitValue? c
    let t := threshold bias k
    let i := i + d * weight
    if d < t then some (i, cs) else decodeDistance? bias (k + 36) (weight * (36 - t)) i cs

/-- Reads the insertions into a label. -/
def decodeInsertions? : (fuel n i bias : Nat) → List Char → List Char → Option (List Char)
  | _, _, _, _, out, [] => some out
  | 0, _, _, _, _, _ => none
  | fuel + 1, n, i, bias, out, cs => do
    let (j, rest) ← decodeDistance? bias 36 1 i cs
    let count := out.length + 1
    let bias := adapt (j - i) count (i == 0)
    let n := n + j / count
    if n < 0x110000 ∧ Nat.isValidChar n then
      let place := j % count
      decodeInsertions? fuel n (place + 1) bias
        (out.take place ++ Char.ofNat n :: out.drop place) rest
    else none

/-- **Decoding a label.** -/
def decode? (label : List Char) : Option (List Char) :=
  let tail := (label.reverse.takeWhile (· ≠ '-')).reverse
  let basic := label.take (label.length - tail.length - 1)
  if tail.length = label.length then decodeInsertions? label.length 0x80 0 72 [] label
  else decodeInsertions? label.length 0x80 0 72 basic tail

end Colonnade.Url.Punycode
