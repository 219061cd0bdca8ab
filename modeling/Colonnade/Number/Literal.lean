import Colonnade.Number.Double
import Colonnade.Text.Letter

/-!
# Float literals

The texts of doubles that no locale has a say in:

> `[+-]? (inf | infinity | nan | number)`
>
> `number = (digits | digits '.' digits? | digits? '.' digits) ([eE] [+-]? digits)?`

The case of letters is of no account. `Double.ofLiteral?` reads such a text as the nearest
double to the number that it denotes, and refuses every other text.
-/

namespace Colonnade

open Number

namespace Double

/-- An optional sign at the start of a text, and what follows it. -/
def splitSign : List Char → List Char × List Char
  | '-' :: cs => (['-'], cs)
  | '+' :: cs => (['+'], cs)
  | cs => ([], cs)

/-- The mark of an exponent. -/
def isExponentMark (c : Char) : Bool :=
  c == 'e' || c == 'E'

/-- The power of ten that makes up the rest of a literal: zero for no rest. -/
def exponent? : List Char → Option Int
  | [] => some 0
  | c :: cs => if isExponentMark c then readInt? cs else none

/-- The digits of a fraction at the start of a text, if a point stands there, and what follows. -/
def splitFraction : List Char → List Char × List Char
  | '.' :: cs => (cs.takeWhile Char.isDigit, cs.dropWhile Char.isDigit)
  | cs => ([], cs)

/-- The double of a number without its sign. -/
def ofUnsigned? (negative : Bool) (cs : List Char) : Option Double :=
  let whole := cs.takeWhile Char.isDigit
  let (fraction, rest) := splitFraction (cs.dropWhile Char.isDigit)
  if whole.isEmpty && fraction.isEmpty then none
  else
    (exponent? rest).map fun e =>
      ofDecimal negative (valueOf (whole ++ fraction)) (e - fraction.length)

/-- **Reading a float literal.** -/
def ofLiteral? (cs : List Char) : Option Double :=
  let (sign, body) := splitSign cs
  let negative := sign == ['-']
  if Text.sameLetters body ['i', 'n', 'f'] then some (infinite negative)
  else if Text.sameLetters body ['i', 'n', 'f', 'i', 'n', 'i', 't', 'y'] then
    some (infinite negative)
  else if Text.sameLetters body ['n', 'a', 'n'] then some nan
  else ofUnsigned? negative body

end Double

end Colonnade
