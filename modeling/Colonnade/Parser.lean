import Colonnade.Frame.OfJson
import Colonnade.Locale
import Colonnade.Number.Localized
import Colonnade.Time.Reading

/-!
# Parsers of cells

A `Parser` makes values of one type out of the texts of cells, or refuses a text. What a
parser may depend on besides the text is its `Context`: the locale, and the patterns of dates
and times.

`Parser.defaults` lists the built-in parsers in the order in which a column tries them. The
parser of texts comes last and refuses nothing.

A parser may be *covered* by types: while a parser of one of them is considered for a column,
it is not.
-/

namespace Colonnade

open Number

/-- **What a parser may depend on.** -/
structure Parser.Context where
  locale : Locale
  /-- The pattern that the call asks for. -/
  pattern : Option String
  /-- The patterns that the registry adds. -/
  registered : List String
deriving Inhabited

/-- The patterns to try: the one asked for or else the default ones, and the registered ones. -/
def Parser.Context.patterns (context : Parser.Context) (defaults : List String) : List String :=
  (match context.pattern with
    | some pattern => [pattern]
    | none => defaults) ++ context.registered

/-- **A parser** of texts into values of a type. -/
structure Parser where
  type : ColumnType
  convert : Parser.Context → String → Option Value
  /-- The types that cover the parser, in ascending order. -/
  coveredBy : List ColumnType := []

namespace Parser

instance : Inhabited Parser := ⟨{ type := .string, convert := fun _ s => some (.ofText s) }⟩

/-- The schemes of the URLs that a column may hold. -/
def urlSchemes : List String := ["http", "https", "ftp", "file", "mailto", "jar"]

/-- A parser of scalars. -/
def ofScalar (type : ColumnType) (read : Context → String → Option Scalar) : Parser where
  type := type
  convert := fun context s => (read context s).map .scalar

/-- A truth value: a word for yes or no, or its first letter, whatever the case. -/
def readBoolean? (s : String) : Option Bool :=
  match Text.lower s with
  | "t" => some true
  | "true" => some true
  | "yes" => some true
  | "f" => some false
  | "false" => some false
  | "no" => some false
  | _ => none

/-- A URL with one of the schemes. -/
def readUrl? (s : String) : Option Url :=
  (Url.ofText? s).filter fun u => urlSchemes.contains u.scheme

/-- A frame written as a JSON document that begins with a character. -/
def readJson? (first : Char) (s : String) : Option Frame :=
  if s.toList.head? = some first then (Frame.ofJsonText s).toOption else none

/-- 32-bit integers. -/
def int : Parser := ofScalar .int fun _ s => (readInt32? s.toList).map .int

/-- 64-bit integers. -/
def long : Parser := ofScalar .long fun _ s => (readInt64? s.toList).map .long

/-- Instants. -/
def instant : Parser := ofScalar .instant fun _ s => (Instant.ofText? s.toList).map .instant

/-- Date-times. -/
def dateTime : Parser := ofScalar .dateTime fun context s =>
  (DateTime.ofText? (context.patterns DateTime.defaultPatterns) s.toList).map .dateTime

/-- Dates. -/
def date : Parser := ofScalar .date fun context s =>
  (Date.ofText? (context.patterns Date.defaultPatterns) s.toList).map .date

/-- Durations. -/
def duration : Parser := ofScalar .duration fun _ s =>
  (Duration.ofText? s.toList).map .duration

/-- Times of day. -/
def time : Parser := ofScalar .time fun context s =>
  (TimeOfDay.ofText? (context.patterns TimeOfDay.defaultPatterns) s.toList).map .time

/-- URLs. -/
def url : Parser := ofScalar .url fun _ s => (readUrl? s).map .url

/-- Doubles as the locale writes them. -/
def localDouble : Parser := ofScalar .double fun context s =>
  (readDouble? context.locale s).map .double

/-- Doubles as the neutral locale writes them. -/
def rootDouble : Parser := ofScalar .double fun _ s => (readDouble? .root s).map .double

/-- Truth values. -/
def boolean : Parser := ofScalar .boolean fun _ s => (readBoolean? s).map .boolean

/-- Decimals. -/
def decimal : Parser := ofScalar .decimal fun _ s => (Decimal.ofText? s.toList).map .decimal

/-- Frames, written as arrays. -/
def frame : Parser where
  type := .frame
  convert := fun _ s => (readJson? '[' s).map .frame

/-- Rows, written as objects. -/
def row : Parser where
  type := .row
  convert := fun _ s => (readJson? '\x7b' s).map .row

/-- Texts, just as they are. -/
def text : Parser := ofScalar .string fun _ s => some (.string s)

/-- **The built-in parsers**, in the order in which a column tries them. -/
def defaults : List Parser :=
  [int, long, instant, dateTime, date, duration, time, url, localDouble, rootDouble, boolean,
    decimal, frame, row, text]

end Parser

end Colonnade
