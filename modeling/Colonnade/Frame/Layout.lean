import Colonnade.Frame.Basic

/-!
# The layout of a frame

A `Layout` is a snapshot of where the columns of a frame stand: a tree with a node for every
column, the columns of a group being the children of its node. An edit takes a snapshot
before it removes columns, and marks the nodes of those that go, so that what is inserted
again can be given its old place.

A node is named in two ways.

* Its *address* is the list of positions that leads to it from the root, so the root is at
  `[]`, the depth of a node is the length of its address, and its ancestors are at the
  initial segments of it.
* Its *number* is its place in the depth-first order, the root being number 0. A number
  means something in any layout, also in one of another frame.

`Layout.address?` and `Layout.number?` lead from one to the other.
-/

namespace Colonnade

/-- **A layout**: the name of a column, whether it has been removed, and the layouts of its
children in order. -/
inductive Layout where
  | node (name : String) (removed : Bool) (children : List Layout)
deriving Inhabited

namespace Layout

/-- The name of the column; the root has the empty one. -/
def name : Layout → String
  | node name _ _ => name

/-- The column has been removed. -/
def isRemoved : Layout → Bool
  | node _ removed _ => removed

/-- The layouts of the columns inside. -/
def children : Layout → List Layout
  | node _ _ children => children

/-- The same layout, marked as removed. -/
def removed : Layout → Layout
  | node name _ children => node name true children

end Layout

/-! ### Snapshots -/

mutual

/-- The layout of a column. -/
def Column.layout : Column → Layout
  | .value name _ _ _ => .node name false []
  | .group name ⟨columns, _⟩ => .node name false (Column.layouts columns)
  | .frames name _ => .node name false []

/-- The layouts of columns. -/
def Column.layouts : List Column → List Layout
  | [] => []
  | c :: cs => c.layout :: Column.layouts cs

end

/-- **The layout of a frame**, with nothing removed. -/
def Frame.layout (f : Frame) : Layout :=
  .node "" false (Column.layouts f.columns)

namespace Layout

/-! ### Nodes by address -/

/-- The node at an address, with everything below it. -/
def at? (t : Layout) : List Nat → Option Layout
  | [] => some t
  | i :: rest =>
    match t.children[i]? with
    | some child => child.at? rest
    | none => none

/-- The position of the first child with this name. -/
def childIndex? (t : Layout) (name : String) : Option Nat :=
  t.children.findIdx? fun child => child.name == name

/-- The address of the node at a path. -/
def addressOf? (t : Layout) : List String → Option (List Nat)
  | [] => some []
  | name :: rest =>
    match t.childIndex? name with
    | some i =>
      match t.children[i]? with
      | some child => (child.addressOf? rest).map (i :: ·)
      | none => none
    | none => none

/-- The names on the way to an address, the root's left out. -/
def namesTo (t : Layout) : List Nat → List String
  | [] => []
  | i :: rest =>
    match t.children[i]? with
    | some child => child.name :: child.namesTo rest
    | none => []

/-- The path of the column at an address; the root has none. -/
def pathAt? (t : Layout) (address : List Nat) : Option Path :=
  Path.ofSegments? (t.namesTo address)

/-- The address of the ancestor at a depth, the node itself being one. -/
def ancestorAt? (address : List Nat) (depth : Nat) : Option (List Nat) :=
  if depth ≤ address.length then some (address.take depth) else none

/-- The address of the parent; the root has none. -/
def parentAt? (address : List Nat) : Option (List Nat) :=
  if address.isEmpty then none else some address.dropLast

/-! ### Nodes by number -/

mutual

/-- The number of nodes. -/
def size : Layout → Nat
  | node _ _ children => sizeAll children + 1

/-- The number of nodes of several layouts. -/
def sizeAll : List Layout → Nat
  | [] => 0
  | t :: ts => t.size + sizeAll ts

end

/-- The number of the child at `i`, counted from its parent. -/
def childNumber (ts : List Layout) (i : Nat) : Nat :=
  sizeAll (ts.take i) + 1

/-- The number of the node at an address. -/
def number (t : Layout) : List Nat → Nat
  | [] => 0
  | i :: rest =>
    match t.children[i]? with
    | some child => childNumber t.children i + child.number rest
    | none => childNumber t.children i

mutual

/-- **The address of the node with a number.** -/
def address? : Layout → Nat → Option (List Nat)
  | node _ _ _, 0 => some []
  | node _ _ children, n + 1 => addressAmong? children 0 n

/-- The address of the node with a number among the nodes of layouts, the first of which is
the child at `i`. -/
def addressAmong? : List Layout → Nat → Nat → Option (List Nat)
  | [], _, _ => none
  | t :: ts, i, n =>
    if n < t.size then (t.address? n).map (i :: ·)
    else addressAmong? ts (i + 1) (n - t.size)

end

end Layout

end Colonnade
