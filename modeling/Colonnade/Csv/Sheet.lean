import Colonnade.Csv.Delimiter
import Colonnade.Csv.Records
import Colonnade.Encoding.Basic
import Colonnade.Failure
import Colonnade.Frame.Merge
import Colonnade.Text.Quoted

/-!
# Frames of delimited text

The first record of delimited text is the header: it names the columns. Every other record is
a row and has to have as many fields. Fields are decoded one by one; an empty field is null.

With a separator, a header is a path: the text is split at the separator, and the columns are
nested into groups as their paths say.

* `Csv.Sheet` – the header and the rows as texts;
* `Sheet.toFrame` – flat or nested columns of texts;
* `Frame.ofCsv` – both in one;
* `Frame.ofCsvFile` – the same for a file with a name.
-/

namespace Colonnade

namespace Csv

/-- **A sheet**: the names of columns, and rows of texts and nulls, as long as the header. -/
structure Sheet where
  headers : List String
  rows : List (List (Option String))
deriving DecidableEq, Inhabited

/-- Decoding the bytes of a field. -/
def decodeField (encoding : Encoding) (field : Field) : Except Failure String :=
  match encoding.decode? field with
  | some s => .ok s
  | none => .error (.ofMessage ("Failed to decode text with encoding " ++ encoding.name))

/-- A cell; an empty field is null. -/
def decodeCell (encoding : Encoding) (field : Field) : Except Failure (Option String) :=
  if field.isEmpty then .ok none else (decodeField encoding field).map some

/-- The cells of the row with a number, counted from 1. -/
def decodeRow (encoding : Encoding) (number width : Nat) (record : Record) :
    Except Failure (List (Option String)) :=
  if record.fields.length = width then
    (record.fields.mapM (decodeCell encoding)).mapError
      (Failure.within ("Decoding row " ++ FrameError.count number))
  else
    .error ⟨[], .unequal number record.origin.line record.origin.byte width
      record.fields.length⟩

/-- The rows from the one with a number on. -/
def decodeRows (encoding : Encoding) (width : Nat) :
    (number : Nat) → List Record → Except Failure (List (List (Option String)))
  | _, [] => .ok []
  | number, record :: records => do
    let row ← decodeRow encoding number width record
    let rows ← decodeRows encoding width (number + 1) records
    return row :: rows

/-- **The sheet of delimited text.** -/
def Sheet.ofBytes (encoding : Encoding) (delimiter : UInt8) (bytes : List UInt8) :
    Except Failure Sheet :=
  match records delimiter bytes with
  | [] => .ok ⟨[], []⟩
  | header :: rows => do
    let headers ← header.fields.mapM (decodeField encoding)
    let rows ← decodeRows encoding headers.length 1 rows
    return ⟨headers, rows⟩

namespace Sheet

/-- The columns of a sheet under their headers. -/
def columns (s : Sheet) : List (String × Column) :=
  s.headers.zipIdx.map fun (header, i) =>
    (header, .ofTexts header (s.rows.map fun row => row[i]?.join))

/-- A column with its header as a path. -/
def request (separator : Char) (header : String) (column : Column) : Except Failure Request :=
  match Path.read separator header with
  | .ok path => .ok { path, column }
  | .error e =>
    .error ((Failure.ofFrameError e).within ("Splitting header '" ++ header ++ "'"))

/-- **The frame of a sheet**, nested if there is a separator. -/
def toFrame (s : Sheet) (separator : Option Char) : Except Failure Frame :=
  match separator with
  | none =>
    (Frame.withRowCount (s.columns.map Prod.snd) s.rows.length).mapError Failure.ofFrameError
  | some separator => do
    let requests ← s.columns.mapM fun (header, column) => request separator header column
    (Frame.merge none requests none).mapError fun e =>
      (Failure.ofFrameError e).within "Nesting CSV columns"

end Sheet

end Csv

/-- The encoding of a label, or the common one. -/
def Encoding.resolve (label : Option String) : Except Failure Encoding :=
  match label with
  | none => .ok .utf8
  | some label =>
    match Encoding.ofLabel? label with
    | some encoding => .ok encoding
    | none => .error (.ofMessage ("Unknown encoding '" ++ label ++ "'"))

/-- **The frame of delimited text.** -/
def Frame.ofCsv (encoding : Encoding) (delimiter : UInt8) (separator : Option Char)
    (bytes : List UInt8) : Except Failure Frame := do
  let sheet ← Csv.Sheet.ofBytes encoding delimiter bytes
  sheet.toFrame separator

/-- **The frame of a file**, given its bytes; its name is told if they are no frame. -/
def Frame.ofCsvFile (path : String) (encoding : Encoding) (delimiter : UInt8)
    (separator : Option Char) (bytes : List UInt8) : Except Failure Frame :=
  (Frame.ofCsv encoding delimiter separator bytes).mapError
    (Failure.within ("Reading CSV from " ++ Text.quoted path))

end Colonnade
