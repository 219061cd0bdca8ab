import Colonnade.Frame.Basic

/-!
# The columns of a frame as an arena

An edit has to remember where the columns of a frame stood. An `Arena` does it in one list of
nodes, one for every column and one for the frame itself, the root: a node is named by its
number in the list, and has the numbers of its parent and its children. Columns come in the
order in which they are gone through, so the nodes of a group stand between the group and what
comes after it.

A parent stands before its children. This belongs to an arena, so every way up comes to an end,
and the walks that lead there need no other bound.

`Layout` is the same as a tree, and its numbers of nodes are these.
-/

namespace Colonnade

/-- **A node**: a column, and where it stood. -/
structure Arena.Node where
  name : String
  /-- Its position among the columns beside it. -/
  index : Nat
  /-- The column has been removed. -/
  removed : Bool
  /-- The number of the group around it; the root has none. -/
  parent : Option Nat
  /-- How far below the root it is. -/
  depth : Nat
  /-- The numbers of the columns in it. -/
  children : List Nat
deriving DecidableEq

/-- **An arena**: nodes, each behind its parent. -/
structure Arena where
  nodes : List Arena.Node
  parent_lt : ∀ {n p : Nat} {node : Arena.Node}, nodes[n]? = some node → node.parent = some p → p < n

namespace Arena

/-- The number of the root. -/
def root : Nat := 0

/-- The arena of a root alone. -/
def bare : Arena where
  nodes := [⟨"", 0, false, none, 0, []⟩]
  parent_lt {n p node} hn hp := by
    obtain ⟨rfl, rfl⟩ : n = 0 ∧ _ = node := by simpa [List.getElem?_singleton] using hn
    exact absurd hp (by simp)

/-- Changes a node, but not its parent. -/
def update (n : Nat) (change : Node → Node) (h : ∀ node, (change node).parent = node.parent)
    (t : Arena) : Arena where
  nodes := t.nodes.modify n change
  parent_lt {m p node} hm hp := by
    rw [List.getElem?_modify] at hm
    obtain ⟨old, hold, rfl⟩ := Option.map_eq_some_iff.mp hm
    refine t.parent_lt hold ?_
    split at hp
    · rwa [h] at hp
    · exact hp

/-- Adds a node behind all others. -/
def push (node : Node) (t : Arena) (h : ∀ {p}, node.parent = some p → p < t.nodes.length) :
    Arena where
  nodes := t.nodes ++ [node]
  parent_lt {n p added} hn hp := by
    rcases Nat.lt_or_ge n t.nodes.length with hlt | hge
    · rw [List.getElem?_append_left hlt] at hn
      exact t.parent_lt hn hp
    · rw [List.getElem?_append_right hge] at hn
      obtain ⟨hlast, rfl⟩ : n - t.nodes.length = 0 ∧ node = added := by
        simpa [List.getElem?_singleton] using hn
      exact Nat.lt_of_lt_of_le (h hp) hge

/-- **Adds a child** to a node; there is none to a node that is not there. -/
def addChild (parent : Nat) (name : String) (index : Nat) (t : Arena) : Arena :=
  if h : parent < t.nodes.length then
    (t.push ⟨name, index, false, some parent, t.nodes[parent].depth + 1, []⟩
      fun hp => Option.some.inj hp ▸ h).update parent
        (fun node => { node with children := node.children ++ [t.nodes.length] }) fun _ => rfl
  else t

mutual

/-- Adds a column to a node, with all that is in it. -/
def addColumn (parent index : Nat) : Column → Arena → Arena
  | .value name _ _ _, t => t.addChild parent name index
  | .group name ⟨columns, _⟩, t =>
    addColumns t.nodes.length 0 columns (t.addChild parent name index)
  | .frames name _, t => t.addChild parent name index

/-- Adds columns to a node, the first of them at a position. -/
def addColumns (parent index : Nat) : List Column → Arena → Arena
  | [], t => t
  | c :: cs, t => addColumns parent (index + 1) cs (addColumn parent index c t)

end

/-- Marks a node as removed. -/
def markRemoved (t : Arena) (n : Nat) : Arena :=
  t.update n (fun node => { node with removed := true }) fun _ => rfl

/-! ### Looking nodes up -/

/-- The node with a number. -/
def node? (t : Arena) (n : Nat) : Option Node :=
  t.nodes[n]?

/-- The number of the parent of a node; the root has none. -/
def parent? (t : Arena) (n : Nat) : Option Nat :=
  (t.node? n).bind Node.parent

/-- The numbers of the children of a node. -/
def children (t : Arena) (n : Nat) : List Nat :=
  ((t.node? n).map Node.children).getD []

/-- The first child with this name. -/
def child? (t : Arena) (n : Nat) (name : String) : Option Nat :=
  (t.children n).find? fun m => (t.node? m).any (·.name == name)

/-- The node to which names lead from a node on. -/
def descend? (t : Arena) (n : Nat) (names : List String) : Option Nat :=
  names.foldlM t.child? n

/-- **The node at a path.** -/
def nodeAt? (t : Arena) (path : Path) : Option Nat :=
  t.descend? root path.segments

/-- **The ancestor at a depth**, a node being its own; there is none below the node. -/
def ancestorAt? (t : Arena) (n depth : Nat) : Option Nat :=
  match _ : t.nodes[n]? with
  | none => none
  | some node =>
    if depth < node.depth then
      match _ : node.parent with
      | some p => t.ancestorAt? p depth
      | none => none
    else if node.depth = depth then some n
    else none
  termination_by n
  decreasing_by exact t.parent_lt ‹_› ‹_›

/-- The names on the way from the root to a node, the root's left out. -/
def namesTo (t : Arena) (n : Nat) : List String :=
  match _ : t.nodes[n]? with
  | none => []
  | some node =>
    match _ : node.parent with
    | some p => t.namesTo p ++ [node.name]
    | none => []
  termination_by n
  decreasing_by exact t.parent_lt ‹_› ‹_›

/-- **The path of a node**; the root has none. -/
def pathOf? (t : Arena) (n : Nat) : Option Path :=
  Path.ofSegments? (t.namesTo n)

end Arena

/-- **The arena of a frame**, with nothing removed. -/
def Frame.snapshot (f : Frame) : Arena :=
  Arena.bare.addColumns Arena.root 0 f.columns

end Colonnade
