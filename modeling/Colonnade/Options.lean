import Colonnade.Ascending
import Colonnade.ColumnType
import Colonnade.Json.Basic
import Colonnade.Locale
import Colonnade.Number.Shortest
import Colonnade.Text.Quoted

/-!
# Options of one call

`Options` override what a registry of parsers says, for one column or one frame. A field that
is not set leaves the registry as it is; the types to skip are only ever added.

* `Options.overriddenBy` – options on top of others;
* `Options.ofJson` – options written as a JSON object, and what is wrong with one;
* `Options.toJson` – the written form again, without what is not set.
-/

namespace Colonnade

open Number

/-- **Options**: what a call asks to be different. -/
structure Options where
  locale : Option Locale := none
  /-- The pattern of date-times, dates and times. -/
  pattern : Option String := none
  /-- The texts that mean null, in ascending order. -/
  nullStrings : Option (List String) := none
  /-- The types that are not to be found, in ascending order. -/
  skipTypes : List ColumnType := []
deriving DecidableEq, Inhabited

namespace Options

/-- **Options on top of others.** -/
def overriddenBy (o p : Options) : Options where
  locale := p.locale.or o.locale
  pattern := p.pattern.or o.pattern
  nullStrings := p.nullStrings.or o.nullStrings
  skipTypes := unionInOrder o.skipTypes p.skipTypes

/-! ### Written options -/

/-- The names under which options are written, in the order of their fields. -/
def localeKey : String := "locale"
def patternKey : String := "date_time_pattern"
def nullStringsKey : String := "null_strings"
def skipTypesKey : String := "skip_types"

/-- Another name for the pattern. -/
def patternAlias : String := "date_time_format"

/-- What is wrong with written options. -/
inductive ReadError where
  /-- A value of another kind than the one that is expected. -/
  | unexpected (found : Json) (expected : String)
  /-- An array with more items than there are fields. -/
  | tooLong (length : Nat)
  /-- Two names for one field. -/
  | duplicate (key : String)
  | locale (tag : String)
  | type (error : ColumnType.ReadError)
deriving Inhabited

/-- The kind of a JSON value, with its text if it is short. -/
def describe : Json → String
  | .null => "null"
  | .bool b => "boolean \x60" ++ (if b then "true" else "false") ++ "\x60"
  | .integer n => "integer \x60" ++ integerText n ++ "\x60"
  | .double x =>
    let text := x.text
    "floating point \x60" ++ (if text.toList.all fun c => c.isDigit || c == '-'
      then text ++ ".0" else text) ++ "\x60"
  | .string s => "string " ++ Text.quoted s
  | .array _ => "sequence"
  | .object _ => "map"

/-- The message of a failed reading. -/
def ReadError.message : ReadError → String
  | unexpected found expected => "invalid type: " ++ describe found ++ ", expected " ++ expected
  | tooLong length =>
    "invalid length " ++ String.ofList (digitsOf length) ++ ", expected fewer elements in array"
  | duplicate key => "duplicate field \x60" ++ key ++ "\x60"
  | locale tag => Locale.unsupportedMessage tag
  | type error => error.message

/-- A text. -/
def readText : Json → Except ReadError String
  | .string s => .ok s
  | found => .error (.unexpected found "a string")

/-- The items of a sequence. -/
def readItems : Json → Except ReadError (List Json)
  | .array items => .ok items
  | found => .error (.unexpected found "a sequence")

/-- The locale of a tag. -/
def readLocale (tag : String) : Except ReadError Locale :=
  match Locale.ofTag? tag with
  | some locale => .ok locale
  | none => .error (.locale tag)

/-- The type of a token. -/
def readType (token : String) : Except ReadError ColumnType :=
  (ColumnType.ofText? token).mapError .type

/-- A value that may be null. -/
def readUnlessNull {α : Type} (read : Json → Except ReadError α) :
    Json → Except ReadError (Option α)
  | .null => .ok none
  | value => (read value).map some

/-- A sequence of texts as a set. -/
def readSet {α : Type} [Ord α] (read : String → Except ReadError α) (value : Json) :
    Except ReadError (List α) := do
  let members ← (← readItems value).mapM fun item => do read (← readText item)
  return inOrder members

/-- The fields of options. -/
inductive Field where
  | locale
  | pattern
  | nullStrings
  | skipTypes
deriving DecidableEq

/-- The field with this name. -/
def field? (key : String) : Option Field :=
  if key = localeKey then some .locale
  else if key = patternKey ∨ key = patternAlias then some .pattern
  else if key = nullStringsKey then some .nullStrings
  else if key = skipTypesKey then some .skipTypes
  else none

/-- Sets a field to a written value. -/
def setField (o : Options) (value : Json) : Field → Except ReadError Options
  | .locale => do
    let locale ← readUnlessNull (fun v => do readLocale (← readText v)) value
    return { o with locale }
  | .pattern => do
    let pattern ← readUnlessNull readText value
    return { o with pattern }
  | .nullStrings => do
    let nullStrings ← readUnlessNull (readSet fun s => .ok s) value
    return { o with nullStrings }
  | .skipTypes => do
    let skipTypes ← readSet readType value
    return { o with skipTypes }

/-- Reads members from left to right; `seen` holds the fields so far. Other names than those of
fields are passed over. -/
def readMembers (o : Options) : (seen : List Field) → List (String × Json) →
    Except ReadError Options
  | _, [] => .ok o
  | seen, (key, value) :: members =>
    match field? key with
    | none => readMembers o seen members
    | some field =>
      if field ∈ seen then
        .error (.duplicate (if field = .pattern then patternKey else key))
      else
        match o.setField value field with
        | .ok o => readMembers o (field :: seen) members
        | .error e => .error e

/-- The fields in the order in which an array gives their values. -/
def fields : List Field := [.locale, .pattern, .nullStrings, .skipTypes]

/-- **Reading options** from an object, or from an array of the values of the fields. -/
def ofJson : Json → Except ReadError Options
  | .object members => readMembers {} [] members
  | .array items =>
    if fields.length < items.length then .error (.tooLong items.length)
    else (fields.zip items).foldlM (fun o (field, value) => o.setField value field) {}
  | found => .error (.unexpected found "struct ParserOptions")

/-- **The written form of options.** -/
def toJson (o : Options) : Json :=
  .ofMembers <|
    (o.locale.map fun l => (localeKey, Json.string l.text)).toList ++
      (o.pattern.map fun p => (patternKey, Json.string p)).toList ++
      (o.nullStrings.map fun ss => (nullStringsKey, Json.array (ss.map .string))).toList ++
      if o.skipTypes.isEmpty then []
      else [(skipTypesKey, .array (o.skipTypes.map fun t => .string t.token))]

end Options

end Colonnade
