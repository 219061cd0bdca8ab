import Colonnade.Ascending
import Colonnade.Options
import Colonnade.Parser

/-!
# The registry of parsers

A `Registry` is what inference goes by: the parsers in the order in which they are tried, the
patterns it adds for dates and times, the texts that mean null, and the locale.

A new parser takes its place in front of the last parser of texts, which refuses nothing and
so has to stay last. A pattern is added once, and only if it is valid.
-/

namespace Colonnade

/-- **A registry of parsers.** -/
structure Registry where
  parsers : List Parser
  patterns : List String
  /-- The texts that mean null, in ascending order. -/
  nullStrings : List String
  locale : Locale

namespace Registry

/-- The texts that mean null unless something else is said. -/
def defaultNullStrings : List String := ["null", "NULL", "NA", "N/A"]

/-- **The registry of the built-in parsers.** -/
def default : Registry where
  parsers := Parser.defaults
  patterns := []
  nullStrings := inOrder defaultNullStrings
  locale := .root

instance : Inhabited Registry := ⟨default⟩

/-- The parsers from the last one for texts on. -/
def fromFallback (parsers : List Parser) : List Parser :=
  let after := (parsers.reverse.takeWhile fun p => p.type != .string).length
  if after = parsers.length then [] else parsers.drop (parsers.length - after - 1)

/-- **Adding a parser**, in front of the last one for texts or at the end. -/
def register (r : Registry) (parser : Parser) : Registry :=
  let tail := fromFallback r.parsers
  { r with parsers := r.parsers.take (r.parsers.length - tail.length) ++ parser :: tail }

/-- Removing the parsers of a type. -/
def unregister (r : Registry) (type : ColumnType) : Registry :=
  { r with parsers := r.parsers.filter fun p => p.type != type }

/-- **Adding a pattern** for date-times, dates and times. -/
def addPattern (r : Registry) (pattern : String) : Except FrameError Registry :=
  if !Pattern.isValid pattern then .error (.invalidPattern pattern)
  else if pattern ∈ r.patterns then .ok r
  else .ok { r with patterns := r.patterns ++ [pattern] }

/-- Replacing the texts that mean null. -/
def withNullStrings (r : Registry) (texts : List String) : Registry :=
  { r with nullStrings := inOrder texts }

/-- Replacing the locale. -/
def withLocale (r : Registry) (locale : Locale) : Registry :=
  { r with locale }

/-- The first parser of a type. -/
def parserFor? (r : Registry) (type : ColumnType) : Option Parser :=
  r.parsers.find? fun p => p.type == type

/-- **The context of a call**; a pattern that the call asks for has to be valid. -/
def context (r : Registry) (o : Options) : Except FrameError Parser.Context :=
  match o.pattern with
  | some pattern =>
    if Pattern.isValid pattern then
      .ok ⟨o.locale.getD r.locale, some pattern, r.patterns⟩
    else .error (.invalidPattern pattern)
  | none => .ok ⟨o.locale.getD r.locale, none, r.patterns⟩

end Registry

end Colonnade
