import Colonnade.Frame.Layout
import Colonnade.Frame.Lookup
import Colonnade.Frame.Merge

/-!
# Removing and moving columns

`Frame.remove` takes the columns at some paths out of a frame. A path that leads into a column
that goes as a whole adds nothing. A group that loses its last column goes too, without being
listed itself; the frame stays, even if it has no columns left.

The answer is a `Removal`: the frame that remains, the columns that were listed, depth first,
and the layout of the frame as it was, in which everything that went is marked.

Moving, renaming, grouping and ungrouping are a removal followed by an insertion of the same
columns at other paths, with the layout of the removal, so that a column which does not leave
its group keeps its place.
-/

namespace Colonnade

/-- A column that was taken out: its path, and the number of its node. -/
structure Removed where
  path : Path
  column : Column
  node : Nat
deriving Inhabited

/-- **The outcome of a removal.** -/
structure Removal where
  frame : Frame
  removed : List Removed
  layout : Layout
deriving Inhabited

/-- What becomes of columns when some are taken out: those that stay, those that go with their
addresses, and the layout. -/
structure Stripped where
  kept : List Column
  removed : List (List Nat × Path × Column)
  layouts : List Layout

namespace Stripped

/-- Nothing. -/
def none : Stripped := ⟨[], [], []⟩

/-- The one before the other. -/
def append (a b : Stripped) : Stripped :=
  ⟨a.kept ++ b.kept, a.removed ++ b.removed, a.layouts ++ b.layouts⟩

/-- A column that stays. -/
def keep (c : Column) : Stripped := ⟨[c], [], [c.layout]⟩

/-- A column that goes. -/
def take (above : List String) (address : List Nat) (c : Column) : Stripped :=
  ⟨[], [(address, Path.below above c.name, c)], [c.layout.removed]⟩

/-- A group of which the inner columns have been stripped. -/
def group (name : String) (rowCount : Nat) (inner : Stripped) : Stripped where
  kept := if inner.kept.isEmpty then [] else [.group name ⟨inner.kept, rowCount⟩]
  removed := inner.removed
  layouts := [.node name inner.kept.isEmpty inner.layouts]

end Stripped

/-- What follows `name` in those of the paths that begin with it. -/
def pathsThrough (name : String) (paths : List (List String)) : List (List String) :=
  paths.filterMap fun
    | [] => none
    | segment :: rest => if segment = name then some rest else none

mutual

/-- Takes the columns at `paths` out of a column at an address below `above`. -/
def Column.strip (above : List String) (address : List Nat) (paths : List (List String)) :
    Column → Stripped
  | .value name type nullable cells =>
    if [] ∈ pathsThrough name paths then .take above address (.value name type nullable cells)
    else .keep (.value name type nullable cells)
  | .frames name fs =>
    if [] ∈ pathsThrough name paths then .take above address (.frames name fs)
    else .keep (.frames name fs)
  | .group name ⟨columns, rowCount⟩ =>
    let inside := pathsThrough name paths
    if [] ∈ inside then .take above address (.group name ⟨columns, rowCount⟩)
    else if inside.isEmpty then .keep (.group name ⟨columns, rowCount⟩)
    else .group name rowCount (Column.stripAll (above ++ [name]) address 0 inside columns)

/-- Takes the columns at `paths` out of columns, the first of which is the child at `i`. -/
def Column.stripAll (above : List String) (address : List Nat) (i : Nat)
    (paths : List (List String)) : List Column → Stripped
  | [] => .none
  | c :: cs =>
    (c.strip above (address ++ [i]) paths).append
      (Column.stripAll above address (i + 1) paths cs)

end

namespace Frame

/-- **Removing columns.** Every path has to resolve. -/
def remove (f : Frame) (paths : List Path) : Except FrameError Removal := do
  paths.forM fun path => discard (f.get path)
  let stripped := Column.stripAll [] [] 0 (paths.map Path.segments) f.columns
  let layout := Layout.node "" false stripped.layouts
  let frame ← withRowCount stripped.kept f.rowCount
  return {
    frame
    removed := stripped.removed.map fun (address, path, column) =>
      { path, column, node := layout.number address }
    layout }

/-! ### Moving -/

/-- **Moving columns** from their paths to others. -/
def move (f : Frame) (paths : List Path) (target : Path → Path) : Except FrameError Frame := do
  let removal ← f.remove paths
  merge (some removal.frame)
    (removal.removed.map fun r =>
      { path := target r.path, column := r.column, node := some r.node })
    (some removal.layout)

/-- **Renaming a column** where it stands. -/
def rename (f : Frame) (path : Path) (name : String) : Except FrameError Frame :=
  if path.last = name then (f.get path).map fun _ => f
  else f.move [path] fun p => p.withLast name

/-- **Grouping columns**: a new group takes the place of the first of them. -/
def group (f : Frame) (paths : List Path) (name : String) : Except FrameError Frame :=
  f.move paths fun p => (Path.single name).child p.last

/-- **Ungrouping**: the columns of a group take its place. -/
def ungroup (f : Frame) (path : Path) : Except FrameError Frame := do
  match ← f.get path with
  | .group _ inner =>
    f.move (inner.names.map path.child) fun p =>
      match path.parent? with
      | some parent => parent.child p.last
      | none => Path.single p.last
  | _ => .error (.notAColumnGroup path)

end Frame

end Colonnade
