import Colonnade.Text.Blank
import Colonnade.Text.Letter

/-!
# Types of columns

A column has a `ColumnType`: one of fifteen built-in types, or a custom type with a name of
its own. Each type has a *token*, which `ColumnType.ofText?` reads back; several built-in
types have other spellings too, and the case of letters is of no account in them.

* `ColumnType.text` – what a message shows: the name of a custom type stands alone;
* `ColumnType.token` – the form that reads back: a custom type is marked as such;
* `ColumnType.ofText?` – reads a token, and says what is wrong with any other text.

The order of types is the order in which they are listed here; custom types come last,
by their names.
-/

namespace Colonnade

/-- **The type of a column.** -/
inductive ColumnType where
  | int
  | long
  | instant
  | dateTime
  | date
  | duration
  | time
  | url
  | double
  | boolean
  | decimal
  /-- Every cell is a frame. -/
  | frame
  /-- Every cell is a row of one nested frame. -/
  | row
  | string
  /-- Cells of several types, or none. -/
  | any
  /-- The type of a parser that was registered under a name. -/
  | custom (name : String)
deriving DecidableEq, Inhabited, Ord

namespace ColumnType

/-- What a text has to start with to name a custom type. -/
def customLead : String := "custom:"

/-- The name of a type, as messages show it. -/
def text : ColumnType → String
  | int => "int"
  | long => "long"
  | instant => "instant"
  | dateTime => "datetime"
  | date => "date"
  | duration => "duration"
  | time => "time"
  | url => "url"
  | double => "double"
  | boolean => "boolean"
  | decimal => "decimal"
  | frame => "frame"
  | row => "row"
  | string => "string"
  | any => "any"
  | custom name => name

/-- **The token of a type**, which `ofText?` reads back. -/
def token : ColumnType → String
  | custom name => customLead ++ name
  | type => type.text

/-- The tokens there are, with a pattern for the custom ones. -/
def tokens : List String :=
  [int, long, instant, dateTime, date, duration, time, url, double, boolean, decimal, frame,
    row, string, any].map token ++ ["custom:<name>"]

/-- The cells are frames or rows of one. -/
def isNested : ColumnType → Bool
  | frame => true
  | row => true
  | _ => false

/-! ### Reading -/

/-- Why a text is not a type. -/
inductive ReadError where
  /-- A custom type without a name. -/
  | unnamed
  /-- A text that is no token. -/
  | unknown (text : String)
deriving DecidableEq

/-- The message of a failed reading. -/
def ReadError.message : ReadError → String
  | unnamed => "Custom column type requires a name, e.g. custom:percent"
  | unknown text =>
    "Unknown column type '" ++ text ++ "'. Supported types: " ++ ", ".intercalate tokens

/-- The built-in types by their spellings in lower case. -/
def spellings : List (String × ColumnType) :=
  [("int", int), ("integer", int), ("i32", int), ("long", long), ("i64", long),
    ("instant", instant), ("timestamp", instant), ("datetime", dateTime),
    ("date-time", dateTime), ("localdatetime", dateTime), ("date", date), ("localdate", date),
    ("duration", duration), ("time", time), ("localtime", time), ("url", url),
    ("double", double), ("float", double), ("f64", double), ("boolean", boolean),
    ("bool", boolean), ("decimal", decimal), ("frame", frame), ("row", row),
    ("string", string), ("any", any)]

/-- The built-in type with this spelling. -/
def builtIn? (spelling : String) : Option ColumnType :=
  (spellings.find? fun (s, _) => s == spelling).map Prod.snd

/-- **Reading a type.** The mark of a custom type is case-sensitive, a built-in type is not. -/
def ofText? (s : String) : Except ReadError ColumnType :=
  let trimmed := Text.trimChars s.toList
  match Text.dropLead? customLead.toList trimmed with
  | some rest =>
    let name := Text.trimChars rest
    if name.isEmpty then .error .unnamed else .ok (custom (String.ofList name))
  | none =>
    match builtIn? (Text.lower (String.ofList trimmed)) with
    | some type => .ok type
    | none => .error (.unknown s)

end ColumnType

end Colonnade
