import Colonnade.ColumnType
import Colonnade.Json.Basic
import Colonnade.Path

/-!
# What can go wrong with a frame

Every operation on frames that can fail gives a `FrameError`: a constructor is a cause, with
what the message about it shows, and `FrameError.message` is the wording.
-/

namespace Colonnade

/-- **The causes of failure.** -/
inductive FrameError where
  /-- A path without segments. -/
  | emptyPath
  /-- Two columns side by side have one name. -/
  | duplicateColumn (name : String)
  /-- A column is not as long as its frame. -/
  | lengthMismatch (name : String) (expected actual : Nat)
  /-- No column has this path. -/
  | columnNotFound (path : Path)
  /-- The column at this path is not a group, and a path leads through it. -/
  | notAColumnGroup (path : Path)
  /-- A column is to be inserted where there is one. -/
  | pathAlreadyExists (path : Path)
  /-- Two columns are to be inserted in one place. -/
  | multipleColumnsAtPath (path : Path)
  /-- No parser accepts all cells of a column. -/
  | parserCascadeExhausted (column : String)
  /-- No parser is registered for a type. -/
  | noParserForType (type : ColumnType)
  /-- A cell cannot be converted to the type that was asked for. -/
  | typeConversion (value : String) (source target : ColumnType)
  /-- A cell is not of the type of a checked column. -/
  | typeMismatch (value : String) (actual expected : ColumnType)
  /-- A text is not a pattern of dates and times. -/
  | invalidPattern (pattern : String)
  /-- A text is not a JSON document. -/
  | json (fault : Json.Fault)
deriving DecidableEq, Inhabited

namespace FrameError

/-- A text between single quotation marks. -/
def quoted (s : String) : String :=
  "'" ++ s ++ "'"

/-- A natural number in decimal digits. -/
def count (n : Nat) : String :=
  String.ofList (Number.digitsOf n)

/-- **The wording of an error.** -/
def message : FrameError → String
  | emptyPath => "column path must not be empty"
  | duplicateColumn name => "duplicate column name " ++ quoted name
  | lengthMismatch name expected actual =>
    "column " ++ quoted name ++ " has " ++ count actual ++ " row(s) but the frame has " ++
      count expected
  | columnNotFound path => "column " ++ quoted path.text ++ " not found"
  | notAColumnGroup path =>
    "can not insert columns under " ++ quoted path.text ++
      " because it is not a column group"
  | pathAlreadyExists path =>
    "can not insert column " ++ quoted path.text ++
      " because a column with this path already exists"
  | multipleColumnsAtPath path =>
    "can not insert more than one column into path " ++ quoted path.text
  | parserCascadeExhausted column => "no valid parser found for column " ++ quoted column
  | noParserForType type => "no parser registered for type " ++ type.text
  | typeConversion value source target =>
    "failed to convert " ++ quoted value ++ " from " ++ source.text ++ " to " ++ target.text
  | typeMismatch value actual expected =>
    "value " ++ quoted value ++ " of type " ++ actual.text ++ " is not assignable to " ++
      expected.text
  | invalidPattern pattern => "invalid date-time pattern " ++ quoted pattern
  | json fault => "json error: " ++ fault.word

end FrameError

/-- Reading a path, with the error for a text that has no segment. -/
def Path.read (separator : Char) (s : String) : Except FrameError Path :=
  match Path.ofText? separator s with
  | some path => .ok path
  | none => .error .emptyPath

/-- The path with these segments, with the error for none. -/
def Path.ofSegments (segments : List String) : Except FrameError Path :=
  match Path.ofSegments? segments with
  | some path => .ok path
  | none => .error .emptyPath

end Colonnade
