import Colonnade.Text.Blank
import Colonnade.Text.Letter

/-!
# Locales

A locale says how a number is written: which character separates the whole part from
the fraction, and which one groups the digits of the whole part.

`Locale.ofTag?` resolves a language tag with an optional region, such as `de-DE`; an
underscore may stand for the hyphen. The empty tag and `root` mean the neutral locale
`Locale.root`, whose own tag is empty and whose text is `root`.
-/

namespace Colonnade

/-- **A locale**: a tag and the two separators of a number. -/
structure Locale where
  tag : String
  decimalSeparator : Char
  groupingSeparator : Char
deriving DecidableEq, Inhabited

namespace Locale

/-- The neutral locale: a point before the fraction, a comma between groups. -/
def root : Locale := ⟨"", '.', ','⟩

/-- The no-break space, which groups digits in many locales. -/
def noBreakSpace : Char := '\u00a0'

/-- Languages that write `1,234.5`. -/
def pointLanguages : List String := ["en", "ja", "zh", "ko", "he", "th"]

/-- Languages that write `1.234,5`. -/
def commaLanguages : List String := ["de", "it", "es", "nl", "pt", "da", "id", "tr", "el"]

/-- Languages that write `1 234,5`. -/
def spaceLanguages : List String :=
  ["fr", "ru", "pl", "sv", "cs", "fi", "nb", "no", "uk", "sk", "hu"]

/-- The separators of a language in a region, both in lower case. German and Italian
follow Swiss usage in Switzerland. -/
def separators? (language : String) (region : Option String) : Option (Char × Char) :=
  if region = some "ch" ∧ (language = "de" ∨ language = "it") then some ('.', '\'')
  else if language ∈ pointLanguages then some ('.', ',')
  else if language ∈ commaLanguages then some (',', '.')
  else if language ∈ spaceLanguages then some (',', noBreakSpace)
  else none

/-- The tag with hyphens, without white space around it. -/
def normalTag (tag : String) : String :=
  String.ofList ((Text.trimChars tag.toList).map fun c => if c = '_' then '-' else c)

/-- The part before the first hyphen and, if there is one, the part after it. -/
def splitTag (tag : List Char) : String × Option String :=
  let language := tag.takeWhile (· ≠ '-')
  (String.ofList language,
    match tag.drop language.length with
    | [] => none
    | _ :: region => some (String.ofList region))

/-- **Resolving a tag**; a language that is not in the tables has no locale. -/
def ofTag? (tag : String) : Option Locale :=
  let normal := normalTag tag
  if normal.isEmpty || Text.lower normal == "root" then some root
  else
    let (language, region) := splitTag (Text.lower normal).toList
    (separators? language region).map fun (d, g) => ⟨normal, d, g⟩

/-- The message about a tag without a locale. -/
def unsupportedMessage (tag : String) : String :=
  "Unsupported locale '" ++ tag ++ "'"

/-- The tag, or `root` for the neutral locale. -/
def text (l : Locale) : String :=
  if l.tag.isEmpty then "root" else l.tag

/-- The character stands between groups of digits: in a locale with the no-break space
also the plain and the narrow space. -/
def isGrouping (l : Locale) (c : Char) : Bool :=
  c == l.groupingSeparator ||
    (l.groupingSeparator == noBreakSpace && (c == ' ' || c == '\u202f'))

end Locale

end Colonnade
