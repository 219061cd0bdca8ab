import Colonnade.Frame.Layout

/-!
# Inserting columns into a frame

A `Request` asks for a column at a path. `Frame.merge` answers a list of requests at once.
Level by level it splits the requests by their first segment:

* those for a column group that is there are merged into it;
* the others become one new column: the column of the request that ends here, into which the
  longer ones are merged, or a new group for the longer ones.

A new column comes last, unless its requests are anchored in an older layout. A request may
name a node of a `Layout`: the column was taken from there. At a level where an ancestor of the
node is a child of the level's own node, the *anchor* of the request is the place of that
ancestor if it has been removed, and the place behind it otherwise; the smallest anchor of the
requests for a new column is the one that counts.

Anchors are positions in the old layout. The new columns are put in by ascending anchors, in a
single `Walk` along that layout: a child it passes that has been removed moves what follows
one place to the left, a column that is put in moves it one place to the right.
-/

namespace Colonnade

/-- **A request**: insert a column at a path, taken from the node with a number. -/
structure Request where
  path : Path
  column : Column
  node : Option Nat := none
deriving Inhabited

/-- A request as one level sees it: the next segment of its path, the segments after it, and
the address of its node from the level's own node, if it lies below. -/
structure Pending where
  name : String
  rest : List String
  column : Column
  place : Option (List Nat)
deriving Inhabited

/-- The requests of a level for one name. -/
structure Part where
  name : String
  members : List Pending
deriving Inhabited

namespace Pending

/-- A request as the uppermost level sees it. -/
def ofRequest (layout : Option Layout) (r : Request) : Pending where
  name := r.path.segments.head r.path.nonempty
  rest := r.path.segments.tail
  column := r.column
  place := do
    let layout ← layout
    let node ← r.node
    layout.address? node

/-- The address from the child at `i`, if it leads there. -/
def placeBelow (i : Option Nat) : Option (List Nat) → Option (List Nat)
  | some (j :: rest) => if i = some j then some rest else none
  | _ => none

/-- The request as the next level sees it, in the group whose node is the child at `i`; none if
the path ends here. -/
def deeper? (i : Option Nat) (p : Pending) : Option Pending :=
  match p.rest with
  | [] => none
  | name :: rest => some { name, rest, column := p.column, place := placeBelow i p.place }

/-- **The anchor of a request**: the position of the removed child that it comes from, or the one
behind the child that is still there. -/
def anchor? (layout : Option Layout) (p : Pending) : Option Nat :=
  match layout, p.place with
  | some t, some (i :: _) =>
    (t.children[i]?).map fun child => if child.isRemoved then i else i + 1
  | _, _ => none

end Pending

namespace Part

/-- The requests by name, the names in the order in which they come first. -/
def split (pending : List Pending) : List Part :=
  (pending.map Pending.name).eraseDups.map fun name =>
    { name, members := pending.filter fun p => p.name == name }

/-- The requests whose path ends here. -/
def terminal (part : Part) : List Pending :=
  part.members.filter fun p => p.rest.isEmpty

/-- The requests that go on into the group whose node is the child at `i`. -/
def deeper (part : Part) (i : Option Nat) : List Pending :=
  part.members.filterMap (Pending.deeper? i)

/-- The smaller of two anchors, any anchor being smaller than none. -/
def smaller : Option Nat → Option Nat → Option Nat
  | some i, some j => some (min i j)
  | some i, none => some i
  | none, anchor => anchor

/-- **The anchor of a part**, the smallest of its requests. -/
def anchor? (layout : Option Layout) (part : Part) : Option Nat :=
  (part.members.map (Pending.anchor? layout)).foldr smaller none

/-- The first anchor is no larger than the second. -/
def anchorLe : Option Nat → Option Nat → Bool
  | some i, some j => i ≤ j
  | some _, none => true
  | none, some _ => false
  | none, none => true

end Part

/-! ### Places -/

/-- **A walk along the children of a layout**: those that lie ahead, with their positions, and by
how much a position in the frame differs from one in the layout. -/
structure Walk where
  ahead : List (Layout × Nat)
  shift : Int

namespace Walk

/-- The walk that has not passed any child. -/
def start (layout : Option Layout) : Walk where
  ahead := ((layout.map Layout.children).getD []).zipIdx
  shift := 0

/-- Passes the children before an anchor. -/
def pass (anchor : Nat) : List (Layout × Nat) → Int → Walk
  | [], shift => ⟨[], shift⟩
  | (child, i) :: ahead, shift =>
    if anchor ≤ i then ⟨(child, i) :: ahead, shift⟩
    else pass anchor ahead (if child.isRemoved then shift - 1 else shift)

/-- The walk on to an anchor. -/
def upTo (w : Walk) (anchor : Nat) : Walk :=
  pass anchor w.ahead w.shift

/-- The walk after a column has been put in. -/
def placed (w : Walk) : Walk :=
  { w with shift := w.shift + 1 }

/-- The position in the frame that belongs to an anchor. -/
def target (w : Walk) (anchor : Nat) : Int :=
  anchor + w.shift

/-- The place of a new column among `length` others: its target, if that is one of their
places. -/
def position (w : Walk) (anchor length : Nat) : Nat :=
  (max 0 (min (w.target anchor) length)).toNat

/-- **Puts new columns among others**, in ascending order of their anchors; those without an
anchor come last. -/
def place {α : Type} : Walk → List α → List (Option Nat × α) → List α
  | _, columns, [] => columns
  | w, columns, (none, a) :: rest => w.place (columns ++ [a]) rest
  | w, columns, (some anchor, a) :: rest =>
    let w := w.upTo anchor
    w.placed.place (columns.insertIdx (w.position anchor columns.length) a) rest

end Walk

/-! ### Levels -/

/-- How a level merges requests into the frame of a group, below a list of names. -/
abbrev MergeBelow :=
  List String → Option Layout → Option Frame → List Pending → Except FrameError Frame

namespace Part

/-- The layout of the group of a part, and its position. -/
def child (layout : Option Layout) (part : Part) : Option Nat × Option Layout :=
  match layout with
  | none => (none, none)
  | some t =>
    let i := t.childIndex? part.name
    (i, i.bind fun i => t.children[i]?)

/-- Merges the requests of a part that go on into the frame of its group. -/
def mergeDeeper (below : MergeBelow) (above : List String) (layout : Option Layout)
    (part : Part) (inner : Option Frame) : Except FrameError Column :=
  let (i, layout) := part.child layout
  (below (above ++ [part.name]) layout inner (part.deeper i)).map (.group part.name)

/-- **A column that is there** with the requests for its name. -/
def mergeInto (below : MergeBelow) (above : List String) (layout : Option Layout)
    (part : Part) (column : Column) : Except FrameError Column :=
  if part.terminal.isEmpty then
    match column with
    | .group _ inner => part.mergeDeeper below above layout (some inner)
    | _ => .error (.notAColumnGroup (Path.below above part.name))
  else .error (.pathAlreadyExists (Path.below above part.name))

/-- **The new column** of a part. -/
def newColumn (below : MergeBelow) (above : List String) (layout : Option Layout)
    (part : Part) : Except FrameError Column :=
  match part.terminal with
  | [] => part.mergeDeeper below above layout none
  | [request] =>
    if (part.deeper none).isEmpty then .ok (request.column.rename part.name)
    else
      match request.column with
      | .group _ inner => part.mergeDeeper below above layout (some inner)
      | _ => .error (.notAColumnGroup (Path.below above part.name))
  | _ => .error (.multipleColumnsAtPath (Path.below above part.name))

end Part

namespace Part

/-- A column that is there, with the requests for its name if there are any. -/
def mergeColumn (below : MergeBelow) (above : List String) (layout : Option Layout)
    (parts : List Part) (c : Column) : Except FrameError Column :=
  match parts.find? fun part => part.name == c.name with
  | some part => part.mergeInto below above layout c
  | none => .ok c

/-- The parts that are for new columns. -/
def fresh (columns : List Column) (parts : List Part) : List Part :=
  parts.filter fun part => !(columns.any fun c => c.name == part.name)

/-- Parts with their anchors, in ascending order of them. -/
def byAnchor (layout : Option Layout) (parts : List Part) : List (Option Nat × Part) :=
  (parts.map fun part => (part.anchor? layout, part)).mergeSort fun a b => anchorLe a.1 b.1

end Part

namespace Frame

/-- The number of rows of a level: that of its frame if there are columns in it, else the length
of the first new column. -/
def levelRows (frame : Option Frame) (all : List Column) : Nat :=
  if ((frame.map Frame.columns).getD []).isEmpty then (all.head?.map Column.length).getD 0
  else (frame.map Frame.rowCount).getD 0

/-- One level: merges into the columns that are there, builds the new ones and places them. -/
def mergeLevel (below : MergeBelow) : MergeBelow := fun above layout frame pending => do
  let parts := Part.split pending
  let columns := (frame.map Frame.columns).getD []
  let merged ← columns.mapM (Part.mergeColumn below above layout parts)
  let built ← (Part.byAnchor layout (Part.fresh columns parts)).mapM fun (anchor, part) =>
    (part.newColumn below above layout).map fun c => (anchor, c)
  let all := (Walk.start layout).place merged built
  withRowCount all (levelRows frame all)

/-- Merges requests of which none has more than `depth` segments left. -/
def mergeBelow : (depth : Nat) → MergeBelow
  | 0 => fun _ _ frame _ => .ok (frame.getD empty)
  | depth + 1 => fun above layout frame pending =>
    if pending.isEmpty then .ok (frame.getD empty)
    else mergeLevel (mergeBelow depth) above layout frame pending

/-- The largest number of segments of a request. -/
def deepest (requests : List Request) : Nat :=
  requests.foldr (fun r depth => max r.path.length depth) 0

/-- **Inserting columns** into a frame, or into none: `layout` is the one whose nodes the
requests name. -/
def merge (frame : Option Frame) (requests : List Request) (layout : Option Layout) :
    Except FrameError Frame :=
  mergeBelow (deepest requests) [] layout frame (requests.map (Pending.ofRequest layout))

/-- Inserting one column. -/
def insert (f : Frame) (path : Path) (column : Column) : Except FrameError Frame :=
  merge (some f) [{ path, column }] none

end Frame

end Colonnade
