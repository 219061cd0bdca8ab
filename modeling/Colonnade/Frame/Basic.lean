import Colonnade.Error
import Colonnade.Number.Decimal
import Colonnade.Number.Shortest
import Colonnade.Time.Clock
import Colonnade.Time.Duration
import Colonnade.Url.Basic

/-!
# Frames

A `Frame` is a list of named columns of one length. A `Column` is of one of three kinds:

| kind | its cells |
| --- | --- |
| `value` | values of a type, or nulls |
| `group` | the rows of one nested frame |
| `frames` | frames that have nothing to do with each other |

A `Value` is a scalar, a row – a frame of one row – or a frame, so that a column of values
may hold nested data too, before it is given its shape.

The types say nothing about names and lengths. `Frame.WellFormed` does: names side by side
differ, every column is as long as its frame, and this holds at every depth.
`Frame.withRowCount` is the constructor that checks one level of it; frames inside are
checked when they are built.
-/

namespace Colonnade

/-- **A value that is not nested.** -/
inductive Scalar where
  | int (n : Int32)
  | long (n : Int64)
  | instant (t : Instant)
  | dateTime (t : DateTime)
  | date (d : Date)
  | duration (d : Duration)
  | time (t : TimeOfDay)
  | url (u : Url)
  | double (x : Double)
  | boolean (b : Bool)
  | decimal (d : Decimal)
  | string (s : String)
deriving DecidableEq, Inhabited

mutual

/-- **A cell that is not null.** -/
inductive Value where
  | scalar (s : Scalar)
  /-- A frame of one row. -/
  | row (frame : Frame)
  | frame (frame : Frame)

/-- **A column.** -/
inductive Column where
  /-- Cells of a type; a column that is not nullable promises that no cell is null. -/
  | value (name : String) (type : ColumnType) (nullable : Bool) (cells : List (Option Value))
  /-- The rows of one nested frame. -/
  | group (name : String) (frame : Frame)
  /-- A frame for every row. -/
  | frames (name : String) (frames : List Frame)

/-- **A frame**: columns side by side, and a number of rows even if there are none. -/
structure Frame where
  columns : List Column
  rowCount : Nat

end

/-- The frame without columns and rows. -/
def Frame.empty : Frame := ⟨[], 0⟩

instance : Inhabited Frame := ⟨Frame.empty⟩
instance : Inhabited Value := ⟨.scalar default⟩
instance : Inhabited Column := ⟨.group "" default⟩

/-! ### Values -/

/-- The type of a scalar. -/
def Scalar.type : Scalar → ColumnType
  | int _ => .int
  | long _ => .long
  | instant _ => .instant
  | dateTime _ => .dateTime
  | date _ => .date
  | duration _ => .duration
  | time _ => .time
  | url _ => .url
  | double _ => .double
  | boolean _ => .boolean
  | decimal _ => .decimal
  | string _ => .string

/-- The type of a value. -/
def Value.type : Value → ColumnType
  | scalar s => s.type
  | row _ => .row
  | frame _ => .frame

/-- A text as a value. -/
def Value.ofText (s : String) : Value :=
  .scalar (.string s)

/-- The text of a value that is a text. -/
def Value.string? : Value → Option String
  | scalar (.string s) => some s
  | _ => none

/-- **A column of this type may hold the value**: a column of mixed or custom type holds any,
another one values of its own type. -/
def ColumnType.accepts : ColumnType → Value → Bool
  | any, _ => true
  | custom _, _ => true
  | type, value => value.type == type

/-! ### Columns -/

namespace Column

/-- The name of a column. -/
def name : Column → String
  | value name _ _ _ => name
  | group name _ => name
  | frames name _ => name

/-- The same column under another name. -/
def rename (new : String) : Column → Column
  | value _ type nullable cells => value new type nullable cells
  | group _ frame => group new frame
  | frames _ fs => frames new fs

/-- The number of cells. -/
def length : Column → Nat
  | value _ _ _ cells => cells.length
  | group _ frame => frame.rowCount
  | frames _ fs => fs.length

/-- The type of a column. -/
def type : Column → ColumnType
  | value _ type _ _ => type
  | group _ _ => .row
  | frames _ _ => .frame

/-- The column may hold nulls. -/
def isNullable : Column → Bool
  | value _ _ nullable _ => nullable
  | _ => false

/-- The frame of a column group. -/
def group? : Column → Option Frame
  | group _ frame => some frame
  | _ => none

/-- A column of values, nullable if and only if it holds a null. -/
def ofValues (name : String) (type : ColumnType) (cells : List (Option Value)) : Column :=
  value name type (cells.any Option.isNone) cells

/-- A column of texts. -/
def ofTexts (name : String) (texts : List (Option String)) : Column :=
  ofValues name .string (texts.map (Option.map Value.ofText))

@[simp] theorem name_rename (new : String) (c : Column) : (c.rename new).name = new := by
  cases c <;> rfl

@[simp] theorem length_rename (new : String) (c : Column) : (c.rename new).length = c.length := by
  cases c <;> rfl

@[simp] theorem type_rename (new : String) (c : Column) : (c.rename new).type = c.type := by
  cases c <;> rfl

@[simp] theorem rename_name (c : Column) : c.rename c.name = c := by
  cases c <;> rfl

end Column

/-! ### Frames -/

namespace Frame

/-- The first column with this name. -/
def column? (f : Frame) (name : String) : Option Column :=
  f.columns.find? fun c => c.name == name

/-- The place of the first column with this name. -/
def columnIndex? (f : Frame) (name : String) : Option Nat :=
  f.columns.findIdx? fun c => c.name == name

/-- The names of the columns. -/
def names (f : Frame) : List String :=
  f.columns.map Column.name

/-- Checks the columns from left to right: each name is new, each length is right. -/
def checkColumns (rowCount : Nat) : (seen : List String) → List Column → Except FrameError Unit
  | _, [] => .ok ()
  | seen, c :: cs =>
    if c.name ∈ seen then .error (.duplicateColumn c.name)
    else if c.length ≠ rowCount then
      .error (.lengthMismatch c.name rowCount c.length)
    else checkColumns rowCount (c.name :: seen) cs

/-- **A frame with a number of rows**; its columns have to have it and different names. -/
def withRowCount (columns : List Column) (rowCount : Nat) : Except FrameError Frame :=
  (checkColumns rowCount [] columns).map fun _ => ⟨columns, rowCount⟩

/-- **A frame of columns**, as long as the first of them. -/
def ofColumns (columns : List Column) : Except FrameError Frame :=
  withRowCount columns ((columns.head?.map Column.length).getD 0)

end Frame

/-! ### Rows and cells -/

mutual

/-- The cell of a column in a row, as a column of one cell. -/
def Column.slice (i : Nat) : Column → Column
  | .value name type nullable cells => .value name type nullable [cells[i]?.join]
  | .group name f => .group name (f.slice i)
  | .frames name fs => .frames name [fs.getD i Frame.empty]

/-- A row of a frame, as a frame of one row. -/
def Frame.slice (i : Nat) : Frame → Frame
  | ⟨columns, _⟩ => ⟨Column.sliceAll i columns, 1⟩

/-- The cells of columns in a row. -/
def Column.sliceAll (i : Nat) : List Column → List Column
  | [] => []
  | c :: cs => c.slice i :: Column.sliceAll i cs

end

/-- **A row of a frame**, if there are that many. -/
def Frame.row? (f : Frame) (i : Nat) : Option Frame :=
  if i < f.rowCount then some (f.slice i) else none

/-- **A cell**: none for a null and beyond the end. -/
def Column.cell (c : Column) (i : Nat) : Option Value :=
  match c with
  | .value _ _ _ cells => cells[i]?.join
  | .group _ f => (f.row? i).map .row
  | .frames _ fs => fs[i]?.map .frame

/-- **The cells of a column** in order. -/
def Column.cells : Column → List (Option Value)
  | .value _ _ _ cells => cells
  | .group _ f => (List.range f.rowCount).map fun i => some (.row (f.slice i))
  | .frames _ fs => fs.map fun f => some (.frame f)

theorem Column.sliceAll_eq_map (i : Nat) (cs : List Column) :
    Column.sliceAll i cs = cs.map (Column.slice i) := by
  induction cs with
  | nil => simp [Column.sliceAll]
  | cons c cs ih => simp [Column.sliceAll, ih]

@[simp] theorem Column.length_cells (c : Column) : c.cells.length = c.length := by
  cases c <;> simp [Column.cells, Column.length]

theorem Column.cell_eq_join_getElem? (c : Column) (i : Nat) : c.cell i = c.cells[i]?.join := by
  cases c with
  | value _ _ _ cells => rfl
  | group _ f =>
    by_cases h : i < f.rowCount
    · simp [Column.cell, Column.cells, Frame.row?, h]
    · simp [Column.cell, Column.cells, Frame.row?, h]
  | frames _ fs =>
    cases h : fs[i]? <;> simp [Column.cell, Column.cells, h]

/-! ### Texts -/

/-- The text of a scalar. -/
def Scalar.text : Scalar → String
  | int n => Number.integerText n.toInt
  | long n => Number.integerText n.toInt
  | instant t => t.text
  | dateTime t => t.text
  | date d => d.text
  | duration d => d.text
  | time t => t.text
  | url u => u.text
  | double x => x.text
  | boolean b => if b then "true" else "false"
  | decimal d => d.text
  | string s => s

/-- What stands for a null among the cells of a row. -/
def nullText : String := "null"

/-- The text of a frame: how many rows and columns it has. -/
def Frame.sizeText (f : Frame) : String :=
  "[" ++ FrameError.count f.rowCount ++ " x " ++ FrameError.count f.columns.length ++ "]"

mutual

/-- **The text of a value.** A row shows its names and cells, a frame only its size. -/
def Value.text : Value → String
  | .scalar s => s.text
  | .row f => "\x7b" ++ f.rowText ++ "\x7d"
  | .frame f => f.sizeText

/-- The names and the first cells of the columns of a frame. -/
def Frame.rowText : Frame → String
  | ⟨columns, _⟩ => ", ".intercalate (Column.firstTexts columns)

/-- The name and the first cell of each column. -/
def Column.firstTexts : List Column → List String
  | [] => []
  | c :: cs => (c.name ++ ": " ++ c.firstText) :: Column.firstTexts cs

/-- The text of the first cell of a column. -/
def Column.firstText : Column → String
  | .value _ _ _ cells => firstCellText cells
  | .group _ f => if 0 < f.rowCount then "\x7b" ++ f.rowText ++ "\x7d" else nullText
  | .frames _ fs => firstFrameText fs

/-- The text of the first cell. -/
def firstCellText : List (Option Value) → String
  | some v :: _ => v.text
  | _ => nullText

/-- The text of the first frame. -/
def firstFrameText : List Frame → String
  | f :: _ => f.sizeText
  | [] => nullText

end

/-! ### Well-formed frames -/

mutual

/-- Every frame in the value is well-formed, and a row has one row. -/
def Value.WellFormed : Value → Prop
  | .scalar _ => True
  | .row f => f.WellFormed ∧ f.rowCount = 1
  | .frame f => f.WellFormed

/-- Every frame in the column is well-formed. -/
def Column.WellFormed : Column → Prop
  | .value _ _ _ cells => cellsWellFormed cells
  | .group _ f => f.WellFormed
  | .frames _ fs => framesWellFormed fs

/-- **A well-formed frame**: names side by side differ and every column has the length of the
frame, here and in every frame inside. -/
def Frame.WellFormed : Frame → Prop
  | ⟨columns, rowCount⟩ =>
    (columns.map Column.name).Nodup ∧ (∀ c ∈ columns, c.length = rowCount) ∧
      columnsWellFormed columns

/-- Every frame in the cells is well-formed. -/
def cellsWellFormed : List (Option Value) → Prop
  | [] => True
  | none :: cells => cellsWellFormed cells
  | some v :: cells => v.WellFormed ∧ cellsWellFormed cells

/-- Every frame of the list is well-formed. -/
def framesWellFormed : List Frame → Prop
  | [] => True
  | f :: fs => f.WellFormed ∧ framesWellFormed fs

/-- Every frame in the columns is well-formed. -/
def columnsWellFormed : List Column → Prop
  | [] => True
  | c :: cs => c.WellFormed ∧ columnsWellFormed cs

end

/-- The check of one level finds exactly what well-formedness asks of it. -/
theorem Frame.checkColumns_eq_ok_iff {rowCount : Nat} {seen : List String} {cs : List Column} :
    Frame.checkColumns rowCount seen cs = .ok () ↔
      (cs.map Column.name).Nodup ∧ (∀ c ∈ cs, c.name ∉ seen) ∧
        ∀ c ∈ cs, c.length = rowCount := by
  induction cs generalizing seen with
  | nil => simp [checkColumns]
  | cons c cs ih =>
    by_cases hseen : c.name ∈ seen
    · simp [checkColumns, hseen]
    · by_cases hlen : c.length = rowCount
      · simp only [checkColumns, hseen, hlen, if_false, ih, List.map_cons, List.nodup_cons,
          List.mem_map, List.mem_cons, ne_eq, not_true_eq_false]
        grind
      · simp [checkColumns, hseen, hlen]

end Colonnade
