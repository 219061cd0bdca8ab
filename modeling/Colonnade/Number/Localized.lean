import Colonnade.Locale
import Colonnade.Number.Literal

/-!
# Numbers in a locale

The text of a double is a sentinel (`NaN`, an infinity) or a number in the writing of a
locale:

> `[+-]? whole? (separator fraction?)? ([eE] [+-]? digits)?`

where `whole` is digits with single grouping separators, each between two digits, at
least one digit stands before the exponent and nothing follows. `Localized.literal?` rewrites
such a text as a float literal, without the grouping and with a point for the separator, and
`readDouble?` reads the literal.
-/

namespace Colonnade.Number

namespace Localized

/-- The digits of the whole part and what follows; none if a grouping separator after a
digit has no digit behind it. -/
def readWhole? (l : Locale) (afterDigit : Bool) : List Char → Option (List Char × List Char)
  | [] => some ([], [])
  | c :: cs =>
    if c.isDigit then (readWhole? l true cs).map fun (ds, rest) => (c :: ds, rest)
    else if c = l.decimalSeparator then some ([], c :: cs)
    else if afterDigit && l.isGrouping c then
      match cs with
      | d :: _ => if d.isDigit then readWhole? l afterDigit cs else none
      | [] => none
    else some ([], c :: cs)

/-- The fraction as a literal has it, with a point, and what follows. -/
def readFraction (l : Locale) : List Char → List Char × List Char
  | c :: cs =>
    if c = l.decimalSeparator then ('.' :: cs.takeWhile Char.isDigit, cs.dropWhile Char.isDigit)
    else ([], c :: cs)
  | [] => ([], [])

/-- The exponent as a literal has it, which must make up the rest of the text. -/
def readExponent? : List Char → Option (List Char)
  | [] => some []
  | c :: cs =>
    if Double.isExponentMark c && (readInt? cs).isSome then some ('e' :: cs) else none

/-- **The float literal of a number** in the writing of a locale. -/
def literal? (l : Locale) (cs : List Char) : Option (List Char) := do
  let (sign, body) := Double.splitSign cs
  let (whole, afterWhole) ← readWhole? l false body
  let (fraction, rest) := readFraction l afterWhole
  if whole.isEmpty && fraction.tail.isEmpty then none
  else
    let exponent ← readExponent? rest
    some (sign ++ whole ++ fraction ++ exponent)

end Localized

/-- The texts that stand for no number or an infinity, without regard to case. -/
def sentinel? (s : String) : Option Double :=
  match Text.upper s with
  | "NAN" => some .nan
  | "INF" => some (.infinite false)
  | "INFINITY" => some (.infinite false)
  | "+INF" => some (.infinite false)
  | "+INFINITY" => some (.infinite false)
  | "-INF" => some (.infinite true)
  | "-INFINITY" => some (.infinite true)
  | _ => none

/-- **Reading a double** in a locale: a sentinel, or else a number. -/
def readDouble? (l : Locale) (s : String) : Option Double :=
  (sentinel? s).or ((Localized.literal? l s.toList).bind Double.ofLiteral?)

end Colonnade.Number
