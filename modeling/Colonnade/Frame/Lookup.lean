import Colonnade.Frame.Basic

/-!
# Columns by their paths

A path resolves in a frame if every segment but the last names a column group, each inside
the one before, and the last segment names a column.

* `Frame.get` – the column at a path, or the first segment that stands in the way;
* `Frame.leafPaths` – the paths of all columns that are not groups, depth first.
-/

namespace Colonnade

namespace Frame

/-- The column at the segments of `path` from `depth` on. -/
def getFrom (path : Path) (depth : Nat) (f : Frame) : List String → Except FrameError Column
  | [] => .error .emptyPath
  | [name] =>
    match f.column? name with
    | some c => .ok c
    | none => .error (.columnNotFound (path.upTo depth))
  | name :: next :: rest =>
    match f.column? name with
    | some (.group _ inner) => getFrom path (depth + 1) inner (next :: rest)
    | some _ => .error (.notAColumnGroup (path.upTo depth))
    | none => .error (.columnNotFound (path.upTo depth))

/-- **The column at a path.** -/
def get (f : Frame) (path : Path) : Except FrameError Column :=
  getFrom path 0 f path.segments

end Frame

mutual

/-- The paths of the columns in a frame below `above` that are not groups. -/
def Frame.leavesBelow (above : List String) : Frame → List Path
  | ⟨columns, _⟩ => Column.leavesBelow above columns

/-- The paths of the columns below `above` that are not groups. -/
def Column.leavesBelow (above : List String) : List Column → List Path
  | [] => []
  | .group name f :: cs => f.leavesBelow (above ++ [name]) ++ Column.leavesBelow above cs
  | .value name _ _ _ :: cs => Path.below above name :: Column.leavesBelow above cs
  | .frames name _ :: cs => Path.below above name :: Column.leavesBelow above cs

end

/-- **The leaves of a frame**: the paths of its value and frame columns, depth first. -/
def Frame.leafPaths (f : Frame) : List Path :=
  f.leavesBelow []

end Colonnade
