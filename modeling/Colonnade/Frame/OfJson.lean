import Colonnade.Frame.Stack
import Colonnade.Json.Text

/-!
# Frames of JSON values

A JSON value becomes a frame.

| value | frame |
| --- | --- |
| an array of objects, or of objects and nulls | a row for each item, a column for each key |
| any other array | a row for each item, one column with the name `valueColumn` |
| an object | one row, a column for each key |
| any other value | one row, one column with the name `valueColumn` |

Columns stand in the order in which their keys come first, and a key that an object lacks is
null. Inside, an array is a frame in a cell and an object is a row in a cell, so columns of
objects become groups and columns of arrays become frame columns. A number is an `int` if it
fits into 32 bits, a `long` if into 64, and a `double` otherwise.
-/

namespace Colonnade

/-- The name of the column that holds what has no key. -/
def valueColumn : String := "value"

/-- The members of an object with their cells. -/
abbrev JsonRecord := List (String × Option Value)

/-- A number as a value of the narrowest type. -/
def Value.ofInteger (n : Int) : Value :=
  if Number.within Number.int32Range n then .scalar (.int (Int32.ofInt n))
  else if Number.within Number.int64Range n then .scalar (.long (Int64.ofInt n))
  else .scalar (.double (.ofInt n))

namespace Frame

/-- The cell of a key; null if it is missing. -/
def fieldOf (key : String) (fields : Option JsonRecord) : Option Value :=
  ((fields.getD []).find? fun (k, _) => k == key).bind Prod.snd

/-- The keys of records, as they come first. -/
def keysOf (records : List (Option JsonRecord)) : List String :=
  (records.flatMap fun fields => (fields.getD []).map Prod.fst).eraseDups

/-- **The frame of records**: a row for each, a column for each key. -/
def ofRecords (records : List (Option JsonRecord)) : Except FrameError Frame := do
  let columns ← (keysOf records).mapM fun key => Column.collect key (records.map (fieldOf key))
  withRowCount columns records.length

/-- The frame of cells in one column. -/
def ofCells (cells : List (Option Value)) : Except FrameError Frame := do
  let column ← Column.collect valueColumn cells
  withRowCount [column] cells.length

end Frame

namespace Json

/-- An object, or null. -/
def isRecord : Json → Bool
  | object _ => true
  | null => true
  | _ => false

/-- An object. -/
def isObject : Json → Bool
  | object _ => true
  | _ => false

/-- The items are rows of a frame: objects and nulls, and not nulls alone. -/
def areRecords (items : List Json) : Bool :=
  items.all isRecord && (items.isEmpty || items.any isObject)

mutual

/-- **A JSON value as a cell.** -/
def toCell : Json → Except FrameError (Option Value)
  | null => .ok none
  | bool b => .ok (some (.scalar (.boolean b)))
  | integer n => .ok (some (.ofInteger n))
  | double x => .ok (some (.scalar (.double x)))
  | string s => .ok (some (.ofText s))
  | array items =>
    if areRecords items then do
      let records ← toRecords items
      let frame ← Frame.ofRecords records
      return some (.frame frame)
    else do
      let cells ← toCells items
      let frame ← Frame.ofCells cells
      return some (.frame frame)
  | object members => do
    let fields ← toFields members
    let frame ← Frame.ofRecords [some fields]
    return some (.row frame)

/-- JSON values as cells. -/
def toCells : List Json → Except FrameError (List (Option Value))
  | [] => .ok []
  | item :: items => do
    let cell ← item.toCell
    let cells ← toCells items
    return cell :: cells

/-- The members of an object as fields. -/
def toFields : List (String × Json) → Except FrameError JsonRecord
  | [] => .ok []
  | (key, value) :: members => do
    let cell ← value.toCell
    let fields ← toFields members
    return (key, cell) :: fields

/-- Objects and nulls as records. -/
def toRecords : List Json → Except FrameError (List (Option JsonRecord))
  | [] => .ok []
  | object members :: items => do
    let fields ← toFields members
    let records ← toRecords items
    return some fields :: records
  | _ :: items => do
    let records ← toRecords items
    return none :: records

end

/-- **The frame of a JSON value.** -/
def toFrame : Json → Except FrameError Frame
  | array items =>
    if areRecords items then do Frame.ofRecords (← toRecords items)
    else do Frame.ofCells (← toCells items)
  | object members => do Frame.ofRecords [some (← toFields members)]
  | scalar => do Frame.ofCells [← scalar.toCell]

end Json

/-- **Reading a frame** from a JSON document. -/
def Frame.ofJsonText (s : String) : Except FrameError Frame :=
  match Json.ofText? s with
  | .ok document => document.toFrame
  | .error fault => .error (.json fault)

end Colonnade
