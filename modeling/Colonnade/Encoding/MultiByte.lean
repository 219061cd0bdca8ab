import Colonnade.Encoding.CharSet.Big5
import Colonnade.Encoding.CharSet.Gb18030
import Colonnade.Encoding.CharSet.Jis0208
import Colonnade.Encoding.CharSet.Jis0212
import Colonnade.Encoding.CharSet.Uhc

/-!
# Encodings with several bytes for a character

In the encodings of East Asia a character of ASCII is one byte, and most others are two: the
first byte tells the row of a character set, and the second one the place in the row.

| encoding | character sets |
| --- | --- |
| `decodeGb18030?` | GB 18030, with four bytes for what has no place in a row |
| `decodeBig5?` | Big5; four numbers stand for a letter and an accent |
| `decodeEucKr?` | the unified Hangul code |
| `decodeEucJp?` | JIS X 0208 and, after a mark, JIS X 0212 |
| `decodeShiftJis?` | JIS X 0208 in longer rows, and single bytes for katakana |
| `decodeIso2022Jp?` | JIS X 0208 between escape sequences |

Bytes that stand for nothing make the whole text impossible.
-/

namespace Colonnade.Encoding

open CharSet

/-- The next characters of bytes, and the bytes after them. -/
abbrev Step := List UInt8 → Option (List Char × List UInt8)

/-- **Decoding step by step**; every step takes a byte. -/
def decodeBy (step : Step) : (steps : Nat) → List UInt8 → Option (List Char)
  | _, [] => some []
  | 0, _ => none
  | steps + 1, bytes => do
    let (cs, rest) ← step bytes
    let more ← decodeBy step steps rest
    return cs ++ more

/-- Decodes all bytes. -/
def decodeAll (step : Step) (bytes : List UInt8) : Option (List Char) :=
  decodeBy step bytes.length bytes

/-- The byte is in a range. -/
def within (first last b : UInt8) : Bool :=
  first ≤ b && b ≤ last

/-- The character of a byte of ASCII. -/
def asciiChar (b : UInt8) : Char :=
  Char.ofNat b.toNat

/-- The place of a byte in a row whose bytes are in two ranges; none for other bytes. -/
def placeIn? (first last first' last' b : UInt8) : Option Nat :=
  if within first last b then some (b.toNat - first.toNat)
  else if within first' last' b then
    some (b.toNat - first'.toNat + (last.toNat - first.toNat + 1))
  else none

/-! ### Chinese -/

/-- The character of a number among those of four bytes. -/
def gb18030Ranged? (number : Nat) : Option Char :=
  if (39419 < number ∧ number < 189000) ∨ 1237575 < number then none
  else if number = 7457 then some (Char.ofNat 0xE7C7)
  else
    (gb18030Ranges.reverse.find? fun (first, _) => first ≤ number).map
      fun (first, code) => Char.ofNat (code + (number - first))

/-- The character at a place in a row. -/
def gb18030Char? (number : Nat) : Option Char :=
  match gb18030.char? number with
  | some c => some c
  | none =>
    (gb18030PrivateRuns.find? fun (first, _, length) =>
      first ≤ number && number < first + length).map
      fun (first, code, _) => Char.ofNat (code + (number - first))

/-- A character of GB 18030. -/
def gb18030Step : Step
  | [] => none
  | lead :: rest =>
    if lead < 0x80 then some ([asciiChar lead], rest)
    else if lead = 0x80 then some (['€'], rest)
    else if lead = 0xFF then none
    else
      match rest with
      | [] => none
      | second :: rest =>
        if within 0x30 0x39 second then
          match rest with
          | third :: fourth :: rest =>
            if within 0x81 0xFE third && within 0x30 0x39 fourth then
              (gb18030Ranged? ((lead.toNat - 0x81) * 12600 + (second.toNat - 0x30) * 1260 +
                (third.toNat - 0x81) * 10 + (fourth.toNat - 0x30))).map fun c => ([c], rest)
            else none
          | _ => none
        else do
          let place ← placeIn? 0x40 0x7E 0x80 0xFE second
          let c ← gb18030Char? ((lead.toNat - 0x81) * 190 + place)
          return ([c], rest)

/-- **Decoding GB 18030**. -/
def decodeGb18030? (bytes : List UInt8) : Option (List Char) :=
  decodeAll gb18030Step bytes

/-- The numbers that stand for a letter and an accent. -/
def big5Pairs : List (Nat × Char × Char) :=
  [(1133, '\u00ca', '\u0304'), (1135, '\u00ca', '\u030c'), (1164, '\u00ea', '\u0304'),
    (1166, '\u00ea', '\u030c')]

/-- The characters with a number of Big5. -/
def big5Chars? (number : Nat) : Option (List Char) :=
  match big5Pairs.find? fun (n, _) => n == number with
  | some (_, letter, accent) => some [letter, accent]
  | none => (big5.char? number).map fun c => [c]

/-- A character of Big5. -/
def big5Step : Step
  | [] => none
  | lead :: rest =>
    if lead < 0x80 then some ([asciiChar lead], rest)
    else if !within 0x81 0xFE lead then none
    else
      match rest with
      | [] => none
      | trail :: rest => do
        let place ← placeIn? 0x40 0x7E 0xA1 0xFE trail
        let cs ← big5Chars? ((lead.toNat - 0x81) * 157 + place)
        return (cs, rest)

/-- **Decoding Big5**. -/
def decodeBig5? (bytes : List UInt8) : Option (List Char) :=
  decodeAll big5Step bytes

/-! ### Korean -/

/-- A character of the Korean encoding. -/
def eucKrStep : Step
  | [] => none
  | lead :: rest =>
    if lead < 0x80 then some ([asciiChar lead], rest)
    else if !within 0x81 0xFE lead then none
    else
      match rest with
      | [] => none
      | trail :: rest =>
        if within 0x41 0xFE trail then
          (uhc.char? ((lead.toNat - 0x81) * 190 + (trail.toNat - 0x41))).map fun c => ([c], rest)
        else none

/-- **Decoding the Korean encoding**. -/
def decodeEucKr? (bytes : List UInt8) : Option (List Char) :=
  decodeAll eucKrStep bytes

/-! ### Japanese -/

/-- The katakana of half width with a place. -/
def halfKatakana (place : Nat) : Char :=
  Char.ofNat (0xFF61 + place)

/-- The character of two bytes that count from `first` on. -/
def jisChar? (set : CharSet) (first lead trail : UInt8) : Option Char :=
  set.char? ((lead.toNat - first.toNat) * 94 + (trail.toNat - first.toNat))

/-- A character of EUC-JP. -/
def eucJpStep : Step
  | [] => none
  | lead :: rest =>
    if lead < 0x80 then some ([asciiChar lead], rest)
    else
      match rest with
      | [] => none
      | second :: rest =>
        if lead = 0x8E then
          if within 0xA1 0xDF second then some ([halfKatakana (second.toNat - 0xA1)], rest)
          else none
        else if lead = 0x8F then
          match rest with
          | [] => none
          | third :: rest =>
            if within 0xA1 0xFE second && within 0xA1 0xFE third then
              (jisChar? jis0212 0xA1 second third).map fun c => ([c], rest)
            else none
        else if within 0xA1 0xFE lead && within 0xA1 0xFE second then
          (jisChar? jis0208 0xA1 lead second).map fun c => ([c], rest)
        else none

/-- **Decoding EUC-JP**. -/
def decodeEucJp? (bytes : List UInt8) : Option (List Char) :=
  decodeAll eucJpStep bytes

/-- The character with a number of Shift_JIS; some rows are private characters. -/
def shiftJisChar? (number : Nat) : Option Char :=
  if 8836 ≤ number ∧ number ≤ 10715 then some (Char.ofNat (0xE000 + (number - 8836)))
  else jis0208.char? number

/-- A character of Shift_JIS. -/
def shiftJisStep : Step
  | [] => none
  | lead :: rest =>
    if lead ≤ 0x80 then some ([asciiChar lead], rest)
    else if within 0xA1 0xDF lead then some ([halfKatakana (lead.toNat - 0xA1)], rest)
    else do
      let row ← placeIn? 0x81 0x9F 0xE0 0xFC lead
      let trail ← rest.head?
      let place ← placeIn? 0x40 0x7E 0x80 0xFC trail
      let c ← shiftJisChar? (row * 188 + place)
      return ([c], rest.drop 1)

/-- **Decoding Shift_JIS**. -/
def decodeShiftJis? (bytes : List UInt8) : Option (List Char) :=
  decodeAll shiftJisStep bytes

/-- What bytes mean between escape sequences. -/
inductive JisMode where
  | ascii
  /-- ASCII, but for a yen sign and an overline. -/
  | roman
  | katakana
  | kanji
deriving DecidableEq, Inhabited

/-- The mode that an escape sequence begins, given what follows the escape character. -/
def JisMode.ofEscape? : UInt8 → UInt8 → Option JisMode
  | 0x28, 0x42 => some ascii
  | 0x28, 0x4A => some roman
  | 0x28, 0x49 => some katakana
  | 0x24, 0x40 => some kanji
  | 0x24, 0x42 => some kanji
  | _, _ => none

/-- The next character in a mode. -/
def JisMode.step (mode : JisMode) : Step
  | [] => none
  | b :: rest =>
    match mode with
    | .ascii => if b < 0x80 && !within 0x0E 0x0F b then some ([asciiChar b], rest) else none
    | .roman =>
      if b = 0x5C then some (['¥'], rest)
      else if b = 0x7E then some (['\u203e'], rest)
      else if b < 0x80 && !within 0x0E 0x0F b then some ([asciiChar b], rest)
      else none
    | .katakana =>
      if within 0x21 0x5F b then some ([halfKatakana (b.toNat - 0x21)], rest) else none
    | .kanji => do
      let trail ← rest.head?
      if within 0x21 0x7E b && within 0x21 0x7E trail then
        let c ← jisChar? jis0208 0x21 b trail
        some ([c], rest.drop 1)
      else none

/-- Decodes bytes in a mode; there has to be a character between escape sequences. -/
def decodeJis (mode : JisMode) (afterEscape : Bool) :
    (steps : Nat) → List UInt8 → Option (List Char)
  | _, [] => some []
  | 0, _ => none
  | steps + 1, b :: bytes =>
    if b = 0x1B then
      match bytes with
      | second :: third :: rest => do
        let mode ← JisMode.ofEscape? second third
        if afterEscape then none else decodeJis mode true steps rest
      | _ => none
    else do
      let (cs, rest) ← mode.step (b :: bytes)
      let more ← decodeJis mode false steps rest
      return cs ++ more

/-- **Decoding ISO-2022-JP**. -/
def decodeIso2022Jp? (bytes : List UInt8) : Option (List Char) :=
  decodeJis .ascii false bytes.length bytes

end Colonnade.Encoding
