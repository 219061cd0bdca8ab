import Colonnade.Frame.Basic

/-!
# Frames on top of each other

`Frame.concat` puts frames on top of each other. Its columns are those of any of the frames,
in the order in which they come first; a frame that lacks a column has nulls there.

The cells of one column then come from many frames. If those that have it agree on its type,
it keeps the type. Otherwise the type is *inferred* from the cells: `commonType` is the type
of all of them, or the wider of several number types, or `any`.

Cells become a column by `Column.ofCells`. Rows become a group, and the group's frame is again
a stack of frames: the recursion goes down one level of nesting each time, so the depth of the
frames bounds it.

* `Column.collect` – a column of inferred type;
* `Column.ofCells` – a column of a given type, whatever its cells are;
* `Collector` – the cells of a column to be, with the check of a declared type.
-/

namespace Colonnade

/-! ### The common type of cells -/

/-- The type that cells of these types have in common: the type itself if there is one, `long`
for whole numbers, `double` for numbers, `any` for no cells and for all other mixtures. -/
def ColumnType.common (types : List ColumnType) : ColumnType :=
  match types with
  | [] => .any
  | type :: rest =>
    if rest.all (· == type) then type
    else if types.all fun t => t == .int || t == .long then .long
    else if types.all fun t => t == .int || t == .long || t == .double then .double
    else .any

/-- **The common type** of the cells that are not null. -/
def commonType (cells : List (Option Value)) : ColumnType :=
  ColumnType.common ((cells.filterMap id).map Value.type)

/-- A whole number as a value of a wider number type; any other value as it is. -/
def Value.widen (type : ColumnType) (v : Value) : Value :=
  match type, v with
  | .long, .scalar (.int n) => .scalar (.long n.toInt64)
  | .double, .scalar (.int n) => .scalar (.double (.ofInt n.toInt))
  | .double, .scalar (.long n) => .scalar (.double (.ofInt n.toInt))
  | _, v => v

/-! ### Depth of nesting -/

mutual

/-- The depth of the frames in a value. -/
def Value.depth : Value → Nat
  | .scalar _ => 0
  | .row f => f.depth
  | .frame f => f.depth

/-- The depth of the frames in a column. -/
def Column.depth : Column → Nat
  | .value _ _ _ cells => cellsDepth cells
  | .group _ f => f.depth
  | .frames _ fs => framesDepth fs

/-- **The depth of a frame**: one more than the depth of what is inside. -/
def Frame.depth : Frame → Nat
  | ⟨columns, _⟩ => columnsDepth columns + 1

/-- The largest depth of the cells. -/
def cellsDepth : List (Option Value) → Nat
  | [] => 0
  | none :: cells => cellsDepth cells
  | some v :: cells => max v.depth (cellsDepth cells)

/-- The largest depth of the frames. -/
def framesDepth : List Frame → Nat
  | [] => 0
  | f :: fs => max f.depth (framesDepth fs)

/-- The largest depth of the columns. -/
def columnsDepth : List Column → Nat
  | [] => 0
  | c :: cs => max c.depth (columnsDepth cs)

end

/-! ### Columns of cells, frames of pieces -/

/-- A stretch of rows: those of a frame, or rows in which every cell is null. -/
structure Piece where
  rows : Nat
  frame : Option Frame

namespace Piece

/-- The rows of a frame. -/
def ofFrame (f : Frame) : Piece := ⟨f.rowCount, some f⟩

/-- The row that a cell holds; a null and any other value are a row of nulls. -/
def ofCell : Option Value → Piece
  | some (.row f) => .ofFrame f
  | _ => ⟨1, none⟩

/-- The column of a name in a piece. -/
def column? (p : Piece) (name : String) : Option Column :=
  p.frame.bind fun f => f.column? name

/-- The cells of a piece in the column of a name. -/
def cells (p : Piece) (name : String) : List (Option Value) :=
  match p.column? name with
  | some c => c.cells
  | none => List.replicate p.rows none

/-- The names of the columns of pieces, as they come first. -/
def names (pieces : List Piece) : List String :=
  (pieces.flatMap fun p => (p.frame.map Frame.names).getD []).eraseDups

/-- The type of a column in all the pieces that have it, unless they disagree. -/
def sharedType? (pieces : List Piece) (name : String) : Option ColumnType :=
  match (pieces.filterMap fun p => p.column? name).map Column.type with
  | [] => none
  | type :: rest => if rest.all (· == type) && type != .any then some type else none

end Piece

/-- How the pieces of a group are put on top of each other. -/
abbrev StackRows := List Piece → Except FrameError Frame

/-- The frame that a cell holds; a null and any other value are the empty frame. -/
def Value.frameOf : Option Value → Frame
  | some (.frame f) => f
  | _ => .empty

/-- A column of a type with these cells, the rows of a group being stacked by `stack`. -/
def Column.shape (stack : StackRows) (name : String) (type : ColumnType)
    (cells : List (Option Value)) : Except FrameError Column :=
  match type with
  | .row => (stack (cells.map Piece.ofCell)).map (.group name)
  | .frame => .ok (.frames name (cells.map Value.frameOf))
  | _ => .ok (.ofValues name type cells)

/-- A column of inferred type with these cells. -/
def Column.infer (stack : StackRows) (name : String) (cells : List (Option Value)) :
    Except FrameError Column :=
  let type := commonType cells
  Column.shape stack name type (cells.map (Option.map (Value.widen type)))

/-- The column of a name in stacked pieces. -/
def Piece.stackColumn (stack : StackRows) (pieces : List Piece) (name : String) :
    Except FrameError Column :=
  let cells := pieces.flatMap fun p => p.cells name
  match sharedType? pieces name with
  | some type => Column.shape stack name type cells
  | none => Column.infer stack name cells

/-- The rows of all pieces together. -/
def Piece.totalRows (pieces : List Piece) : Nat :=
  pieces.foldr (fun p n => p.rows + n) 0

/-- One level of nesting of stacked pieces. -/
def Piece.stackLevel (stack : StackRows) : StackRows := fun pieces => do
  let columns ← (names pieces).mapM (stackColumn stack pieces)
  Frame.withRowCount columns (totalRows pieces)

/-- Stacks pieces whose frames are no deeper than a bound. -/
def Piece.stack : (depth : Nat) → StackRows
  | 0 => fun pieces => .ok ⟨[], totalRows pieces⟩
  | depth + 1 => stackLevel (stack depth)

/-- **A column of a given type.** Rows make a group and frames a frame column, cells that are
neither being replaced by nulls and empty frames; all else makes a column of values. -/
def Column.ofCells (name : String) (type : ColumnType) (cells : List (Option Value)) :
    Except FrameError Column :=
  Column.shape (Piece.stack (cellsDepth cells)) name type cells

/-- **A column of inferred type**, its numbers widened to it. -/
def Column.collect (name : String) (cells : List (Option Value)) : Except FrameError Column :=
  Column.infer (Piece.stack (cellsDepth cells)) name cells

/-- **Frames on top of each other.** -/
def Frame.concat (fs : List Frame) : Except FrameError Frame :=
  Piece.stack (framesDepth fs) (fs.map Piece.ofFrame)

/-! ### Collecting cells -/

/-- **A column to be**: the cells so far and, if it was declared, the type and whether each cell
has to be of it. -/
structure Collector where
  declared : Option (ColumnType × Bool) := none
  cells : List (Option Value) := []
deriving Inhabited

namespace Collector

/-- The check of a value against a declared type. -/
def check (type : ColumnType) (v : Value) : Except FrameError Unit :=
  if type.accepts v then .ok () else .error (.typeMismatch v.text v.type type)

/-- **Adding a cell.** -/
def push (c : Collector) (cell : Option Value) : Except FrameError Collector :=
  match c.declared, cell with
  | some (type, true), some v => (check type v).map fun _ => { c with cells := c.cells ++ [cell] }
  | _, _ => .ok { c with cells := c.cells ++ [cell] }

/-- A null has been added. -/
def hasNulls (c : Collector) : Bool :=
  c.cells.any Option.isNone

/-- The type the column would have now: the declared one, or the common one. -/
def type (c : Collector) : ColumnType :=
  match c.declared with
  | some (type, _) => type
  | none => commonType c.cells

/-- **The column** of the cells. -/
def finish (c : Collector) (name : String) : Except FrameError Column :=
  match c.declared with
  | some (type, _) => Column.ofCells name type c.cells
  | none => Column.collect name c.cells

end Collector

end Colonnade
