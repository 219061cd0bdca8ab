import Colonnade.Frame.Arena
import Colonnade.Proofs.Frame.Addresses
import Mathlib.Data.List.Induction

/-!
# An arena and the layout of the same columns

A frame is remembered in two ways: as an arena, a list of nodes that grows by one node at its end while
numbers are put into nodes before, and as a layout, a tree. Here they are shown to be the same.

* The nodes that a column adds to an arena are those of its layout in a row (`Layout.entries`), whatever
  stands before them: so is what a snapshot holds (`Frame.nodes_snapshot`).
* The node at an address stands at the number of the address, and holds what there is to say about it: its
  name and position, and the numbers of its parent and its children (`Layout.getElem?_entries`).
* An arena that holds this of every address, `Arena.LaysOut`, answers every question as the layout does
  (`Arena.Agrees`). Marks do not matter to it, so it is kept by a mark and by any number of them.

| arena | layout | |
| --- | --- | --- |
| `parent?` | `parentAt?` | `Arena.LaysOut.parent?_number` |
| `child?` | `childIndex?` | `Arena.LaysOut.child?_number` |
| `descend?`, `nodeAt?` | `addressOf?` | `Arena.LaysOut.descend?_number` |
| `namesTo`, `pathOf?` | `namesTo`, `pathAt?` | `Arena.LaysOut.namesTo_number` |
| `ancestorAt?` | `ancestorAt?` | `Arena.LaysOut.ancestorAt?_number` |
-/

namespace Colonnade

/-! ### The nodes of a layout in a row -/

namespace Layout

/-- The numbers of layouts side by side, the first of which is `n`. -/
def firstNumbers (n : Nat) : List Layout → List Nat
  | [] => []
  | t :: ts => n :: firstNumbers (n + t.size) ts

mutual

/-- The nodes of a layout, the first of which has the number `n`. -/
def entries (parent : Option Nat) (depth index n : Nat) : Layout → List Arena.Node
  | node name removed children =>
    ⟨name, index, removed, parent, depth, firstNumbers (n + 1) children⟩ ::
      entriesAll n (depth + 1) 0 (n + 1) children

/-- The nodes of layouts side by side. -/
def entriesAll (parent depth index n : Nat) : List Layout → List Arena.Node
  | [] => []
  | t :: ts =>
    t.entries (some parent) depth index n ++ entriesAll parent depth (index + 1) (n + t.size) ts

end

mutual

@[simp] theorem length_entries (parent : Option Nat) (depth index n : Nat) :
    ∀ t : Layout, (t.entries parent depth index n).length = t.size
  | node name removed children => by
    rw [entries, size, List.length_cons, length_entriesAll]

@[simp] theorem length_entriesAll (parent depth index n : Nat) :
    ∀ ts : List Layout, (entriesAll parent depth index n ts).length = sizeAll ts
  | [] => rfl
  | t :: ts => by
    rw [entriesAll, sizeAll, List.length_append, length_entries, length_entriesAll]

end

end Layout

namespace Arena

/-! ### What building an arena gives -/

/-- Gives a node further children. -/
def Node.adopt (more : List Nat) (node : Node) : Node :=
  { node with children := node.children ++ more }

theorem adopt_comp_adopt (first next : List Nat) :
    Node.adopt next ∘ Node.adopt first = Node.adopt (first ++ next) :=
  funext fun node => by simp [Node.adopt]

theorem modify_append_of_lt {α : Type} (f : α → α) {as : List α} (bs : List α) {n : Nat}
    (h : n < as.length) : (as ++ bs).modify n f = as.modify n f ++ bs := by
  induction as generalizing n with
  | nil => exact absurd h (Nat.not_lt_zero n)
  | cons a as ih =>
    cases n with
    | zero => rfl
    | succ n => exact congrArg (a :: ·) (ih (Nat.lt_of_succ_lt_succ h))

theorem modify_concat {α : Type} (f : α → α) (a : α) {as : List α} {n : Nat} (h : as.length = n) :
    (as ++ [a]).modify n f = as ++ [f a] := by
  subst h
  induction as with
  | nil => rfl
  | cons b as ih => exact congrArg (b :: ·) ih

/-- A node is there, at this depth. -/
def HasDepth (t : Arena) (n depth : Nat) : Prop :=
  ∃ node, t.nodes[n]? = some node ∧ node.depth = depth

variable {t : Arena} {parent depth : Nat}

theorem HasDepth.lt (h : t.HasDepth parent depth) : parent < t.nodes.length := by
  obtain ⟨node, hnode, -⟩ := h
  exact (List.getElem?_eq_some_iff.mp hnode).1

/-- Further children and further nodes leave the depth of a node as it is. -/
theorem HasDepth.of_nodes {u : Arena} {more : List Nat} {added : List Node}
    (h : t.HasDepth parent depth)
    (hu : u.nodes = t.nodes.modify parent (Node.adopt more) ++ added) : u.HasDepth parent depth := by
  have hlt : parent < (t.nodes.modify parent (Node.adopt more)).length := by
    rw [List.length_modify]
    exact h.lt
  obtain ⟨node, hnode, hdepth⟩ := h
  refine ⟨node.adopt more, ?_, hdepth⟩
  rw [hu, List.getElem?_append_left hlt, List.getElem?_modify_eq, hnode]
  rfl

/-- A new child stands behind all nodes. -/
theorem nodes_addChild (h : t.HasDepth parent depth) (name : String) (index : Nat) :
    (addChild parent name index t).nodes =
      t.nodes.modify parent (Node.adopt [t.nodes.length]) ++
        [⟨name, index, false, some parent, depth + 1, []⟩] := by
  have hlt := h.lt
  obtain ⟨node, hnode, rfl⟩ := h
  obtain ⟨-, rfl⟩ := List.getElem?_eq_some_iff.mp hnode
  rw [addChild, dif_pos hlt]
  exact modify_append_of_lt _ _ hlt

theorem length_addChild (h : t.HasDepth parent depth) (name : String) (index : Nat) :
    (addChild parent name index t).nodes.length = t.nodes.length + 1 := by
  rw [nodes_addChild h, List.length_append, List.length_modify, List.length_singleton]

/-- It stands one below its parent. -/
theorem hasDepth_addChild (h : t.HasDepth parent depth) (name : String) (index : Nat) :
    (addChild parent name index t).HasDepth t.nodes.length (depth + 1) := by
  refine ⟨⟨name, index, false, some parent, depth + 1, []⟩, ?_, rfl⟩
  have hlength := List.length_modify (Node.adopt [t.nodes.length]) t.nodes parent
  rw [nodes_addChild h, List.getElem?_append_right (Nat.le_of_eq hlength), hlength, Nat.sub_self,
    List.getElem?_cons_zero]

mutual

/-- **A column stands behind all nodes**, with what is in it. -/
theorem nodes_addColumn (parent depth index : Nat) : ∀ (c : Column) (t : Arena),
    t.HasDepth parent depth →
    (addColumn parent index c t).nodes =
      t.nodes.modify parent (Node.adopt [t.nodes.length]) ++
        c.layout.entries (some parent) (depth + 1) index t.nodes.length
  | .value name _ _ _, t, h => nodes_addChild h name index
  | .frames name _, t, h => nodes_addChild h name index
  | .group name ⟨columns, _⟩, t, h => by
    -- the new node is the last one when its own columns are added
    rw [addColumn, nodes_addColumns t.nodes.length (depth + 1) 0 columns _ (hasDepth_addChild h name index),
      length_addChild h, nodes_addChild h, modify_concat _ _ (List.length_modify ..), List.append_assoc]
    rfl

/-- **Columns stand behind all nodes**, one after the other. -/
theorem nodes_addColumns (parent depth index : Nat) : ∀ (cs : List Column) (t : Arena),
    t.HasDepth parent depth →
    (addColumns parent index cs t).nodes =
      t.nodes.modify parent (Node.adopt (Layout.firstNumbers t.nodes.length (Column.layouts cs))) ++
        Layout.entriesAll parent (depth + 1) index t.nodes.length (Column.layouts cs)
  | [], t, h => by
    have hsame : Node.adopt [] = id := funext fun node => by simp [Node.adopt]
    simp [addColumns, Column.layouts, Layout.firstNumbers, Layout.entriesAll, hsame]
  | c :: cs, t, h => by
    have hfirst := nodes_addColumn parent depth index c t h
    have hlength : (addColumn parent index c t).nodes.length = t.nodes.length + c.layout.size := by
      rw [hfirst, List.length_append, List.length_modify, Layout.length_entries]
    rw [addColumns, nodes_addColumns parent depth (index + 1) cs _ (h.of_nodes hfirst), hlength, hfirst,
      modify_append_of_lt _ _ (by rw [List.length_modify]; exact h.lt), List.modify_modify_eq,
      adopt_comp_adopt, List.append_assoc]
    rfl

end

end Arena

/-- **The arena of a frame has the nodes of its layout in a row.** -/
theorem Frame.nodes_snapshot (f : Frame) : f.snapshot.nodes = f.layout.entries none 0 0 0 := by
  have hroot : Arena.bare.HasDepth Arena.root 0 := ⟨_, rfl, rfl⟩
  rw [snapshot, Arena.nodes_addColumns Arena.root 0 0 f.columns Arena.bare hroot]
  simp [Arena.bare, Arena.root, Arena.Node.adopt, layout, Layout.entries]

/-! ### The node at an address -/

namespace Layout

variable {t s child : Layout} {ts : List Layout} {address : List Nat} {i m : Nat}

/-- The nodes of the layout at a position stand behind those of the layouts before it. -/
theorem getElem?_entriesAll (hchild : ts[i]? = some child) (hm : m < child.size)
    (parent depth index n : Nat) :
    (entriesAll parent depth index n ts)[sizeAll (ts.take i) + m]? =
      (child.entries (some parent) depth (index + i) (n + sizeAll (ts.take i)))[m]? := by
  induction ts generalizing i index n with
  | nil => exact absurd hchild (by simp)
  | cons t ts ih =>
    rw [entriesAll]
    cases i with
    | zero =>
      obtain rfl : t = child := by simpa using hchild
      rw [List.getElem?_append_left (by simpa [sizeAll] using hm)]
      simp [sizeAll]
    | succ i =>
      have hbefore : sizeAll ((t :: ts).take (i + 1)) = t.size + sizeAll (ts.take i) := by
        rw [List.take_succ_cons, sizeAll]
      rw [hbefore, Nat.add_assoc, List.getElem?_append_right (by simp), length_entries,
        Nat.add_sub_cancel_left, ih (by simpa using hchild), Nat.add_right_comm index 1 i,
        Nat.add_assoc n, Nat.add_assoc index]

/-- **The node at an address stands at its number.** -/
theorem getElem?_entries (h : t.at? address = some s) (parent : Option Nat) (depth index n : Nat) :
    (t.entries parent depth index n)[t.number address]? =
      some ⟨s.name, address.getLast?.getD index, s.isRemoved,
        if address = [] then parent else some (n + t.number address.dropLast),
        depth + address.length, firstNumbers (n + t.number address + 1) s.children⟩ := by
  induction address generalizing t parent depth index n with
  | nil =>
    obtain rfl : t = s := by simpa using h
    cases t
    simp [number, entries, name, isRemoved, children]
  | cons i rest ih =>
    obtain ⟨label, gone, ts⟩ := t
    rw [at?_cons] at h
    obtain ⟨child, hchild, h⟩ := Option.bind_eq_some_iff.mp h
    rw [children] at hchild
    rw [number_cons hchild, entries, List.getElem?_cons_succ,
      getElem?_entriesAll hchild (number_lt_size h), ih h]
    have hfirst : n + 1 + sizeAll (ts.take i) + child.number rest + 1 =
        n + (sizeAll (ts.take i) + child.number rest + 1) + 1 := by omega
    have hdepth : depth + 1 + rest.length = depth + (i :: rest).length := by
      rw [List.length_cons]
      omega
    rw [hfirst, hdepth]
    cases rest with
    | nil => simp [number]
    | cons j rest =>
      have hparent : n + 1 + sizeAll (ts.take i) + child.number (j :: rest).dropLast =
          n + (Layout.node label gone ts).number (i :: (j :: rest).dropLast) := by
        rw [number_cons hchild]
        omega
      simp [hparent, List.getLast?_cons]

/-- The numbers of children are those of the addresses that go on to them. -/
theorem firstNumbers_eq (h : t.at? address = some s) :
    firstNumbers (t.number address + 1) s.children =
      (List.range s.children.length).map fun i => t.number (address ++ [i]) := by
  have hfirst (n : Nat) (ts : List Layout) :
      firstNumbers n ts = (List.range ts.length).map fun i => n + sizeAll (ts.take i) := by
    induction ts generalizing n with
    | nil => rfl
    | cons t ts ih =>
      simp [firstNumbers, List.range_succ_eq_map, sizeAll, ih, Nat.add_assoc, Function.comp_def]
  rw [hfirst]
  refine List.map_congr_left fun i _ => ?_
  rw [number_concat h, childNumber]
  omega

end Layout

/-! ### An arena and a layout of the same columns -/

/-- **The arena has the nodes of the layout**, each at its number; which of them are marked as removed
is left open. -/
structure Arena.LaysOut (a : Arena) (t : Layout) : Prop where
  size : a.nodes.length = t.size
  node : ∀ {address s}, t.at? address = some s → ∃ removed, a.node? (t.number address) =
    some ⟨s.name, address.getLast?.getD 0, removed, (Layout.parentAt? address).map t.number,
      address.length, (List.range s.children.length).map fun i => t.number (address ++ [i])⟩

theorem Frame.laysOut_snapshot (f : Frame) : f.snapshot.LaysOut f.layout where
  size := by rw [nodes_snapshot, Layout.length_entries]
  node {address s} hs := by
    refine ⟨s.isRemoved, ?_⟩
    rw [Arena.node?, nodes_snapshot, Layout.getElem?_entries hs, ← Layout.firstNumbers_eq hs]
    cases address <;> simp [Layout.parentAt?]

namespace Arena

theorem node?_markRemoved (a : Arena) (m n : Nat) : (a.markRemoved m).node? n =
    (a.node? n).map fun node => if m = n then { node with removed := true } else node := by
  rw [node?, markRemoved, update, List.getElem?_modify]
  rfl

theorem node?_foldl_markRemoved (a : Arena) (marks : List Nat) (n : Nat) :
    (marks.foldl Arena.markRemoved a).node? n =
      (a.node? n).map fun node => { node with removed := node.removed || decide (n ∈ marks) } := by
  induction marks generalizing a with
  | nil => cases h : a.node? n <;> simp [h]
  | cons m marks ih =>
    rw [List.foldl_cons, ih, node?_markRemoved, Option.map_map]
    congr 1
    funext node
    rcases Decidable.em (n = m) with rfl | hm
    · simp
    · simp [hm, Ne.symm hm]

theorem LaysOut.markRemoved {a : Arena} {t : Layout} (h : a.LaysOut t) (m : Nat) :
    (a.markRemoved m).LaysOut t where
  size := (List.length_modify ..).trans h.size
  node {address s} hs := by
    obtain ⟨removed, hnode⟩ := h.node hs
    rw [node?_markRemoved, hnode, Option.map_some]
    split
    · exact ⟨true, rfl⟩
    · exact ⟨removed, rfl⟩

theorem LaysOut.foldl_markRemoved {a : Arena} {t : Layout} (h : a.LaysOut t) (marks : List Nat) :
    (marks.foldl Arena.markRemoved a).LaysOut t := by
  induction marks generalizing a with
  | nil => exact h
  | cons m marks ih => exact ih (h.markRemoved m)

/-! ### The ways down and up -/

variable {a : Arena} {n : Nat} {node : Node}

theorem namesTo_eq (h : a.node? n = some node) :
    a.namesTo n = (node.parent.map fun p => a.namesTo p ++ [node.name]).getD [] := by
  rw [namesTo]
  split
  next hnone => exact absurd (h.symm.trans hnone) (by simp)
  next found hfound =>
    obtain rfl : node = found := Option.some.inj (h.symm.trans hfound)
    split <;> simp_all

theorem namesTo_of_none (h : a.node? n = none) : a.namesTo n = [] := by
  rw [namesTo]
  split
  next => rfl
  next found hfound => exact absurd (h.symm.trans hfound) (by simp)

theorem ancestorAt?_eq (h : a.node? n = some node) (depth : Nat) :
    a.ancestorAt? n depth =
      if depth < node.depth then node.parent.bind fun p => a.ancestorAt? p depth
      else if node.depth = depth then some n else none := by
  rw [ancestorAt?]
  split
  next hnone => exact absurd (h.symm.trans hnone) (by simp)
  next found hfound =>
    obtain rfl : node = found := Option.some.inj (h.symm.trans hfound)
    split
    · split <;> simp_all
    · rfl

namespace LaysOut

variable {a : Arena} {t s : Layout} {address : List Nat}

section

variable (h : a.LaysOut t) (hs : t.at? address = some s)

include h hs

theorem parent?_number :
    a.parent? (t.number address) = (Layout.parentAt? address).map t.number := by
  obtain ⟨removed, hnode⟩ := h.node hs
  rw [parent?, hnode, Option.bind_some]

theorem children_number : a.children (t.number address) =
    (List.range s.children.length).map fun i => t.number (address ++ [i]) := by
  obtain ⟨removed, hnode⟩ := h.node hs
  rw [children, hnode]
  rfl

theorem child?_number (name : String) : a.child? (t.number address) name =
    (s.childIndex? name).map fun i => t.number (address ++ [i]) := by
  have hname (i : Nat) (hi : i < s.children.length) :
      (a.node? (t.number (address ++ [i]))).any (·.name == name) = (s.children[i].name == name) := by
    have hchild : t.at? (address ++ [i]) = some s.children[i] :=
      Layout.at?_concat_eq_some_iff.mpr ⟨s, hs, List.getElem?_eq_getElem hi⟩
    obtain ⟨removed, hnode⟩ := h.node hchild
    rw [hnode]
    rfl
  rw [child?, h.children_number hs, List.find?_map]
  congr 1
  ext i
  rw [List.find?_range_eq_some, Layout.childIndex?, List.findIdx?_eq_some_iff_getElem]
  simp only [Function.comp_apply, List.mem_range, Bool.not_eq_true', Bool.not_eq_true]
  constructor
  · rintro ⟨hi, hlt, hbefore⟩
    exact ⟨hlt, hname i hlt ▸ hi, fun j hj => hname j (Nat.lt_trans hj hlt) ▸ hbefore j hj⟩
  · rintro ⟨hlt, hi, hbefore⟩
    exact ⟨hname i hlt ▸ hi, hlt, fun j hj => hname j (Nat.lt_trans hj hlt) ▸ hbefore j hj⟩

end

/-- **Names lead to the same node.** -/
theorem descend?_number (h : a.LaysOut t) (hs : t.at? address = some s) (names : List String) :
    a.descend? (t.number address) names =
      (s.addressOf? names).map fun below => t.number (address ++ below) := by
  induction names generalizing address s with
  | nil => simp [descend?]
  | cons name rest ih =>
    rw [descend?, List.foldlM_cons, h.child?_number hs, Layout.addressOf?_cons]
    cases hindex : s.childIndex? name with
    | none => rfl
    | some i =>
      obtain ⟨child, hchild, -⟩ := Layout.exists_child_of_childIndex? hindex
      have hnext : t.at? (address ++ [i]) = some child :=
        Layout.at?_concat_eq_some_iff.mpr ⟨s, hs, hchild⟩
      simp only [Option.map_some, Option.bind_some, hchild, Option.map_map]
      refine (ih hnext).trans (congrArg (Option.map · _) (funext fun below => ?_))
      rw [Function.comp_apply, List.append_assoc, List.singleton_append]

/-- **The way up passes the same names.** -/
theorem namesTo_number (h : a.LaysOut t) (hs : t.at? address = some s) :
    a.namesTo (t.number address) = t.namesTo address := by
  induction address using List.reverseRecOn generalizing s with
  | nil =>
    obtain ⟨removed, hnode⟩ := h.node hs
    rw [namesTo_eq hnode]
    rfl
  | append_singleton above i ih =>
    obtain ⟨removed, hnode⟩ := h.node hs
    obtain ⟨group, hgroup, hchild⟩ := Layout.at?_concat_eq_some_iff.mp hs
    rw [namesTo_eq hnode, Layout.namesTo_concat hgroup hchild, ← ih hgroup]
    simp [Layout.parentAt?]

/-- **The way up leads to the same ancestors.** -/
theorem ancestorAt?_number (h : a.LaysOut t) (hs : t.at? address = some s) (depth : Nat) :
    a.ancestorAt? (t.number address) depth = (Layout.ancestorAt? address depth).map t.number := by
  induction address using List.reverseRecOn generalizing s with
  | nil =>
    obtain ⟨removed, hnode⟩ := h.node hs
    rw [ancestorAt?_eq hnode, Layout.ancestorAt?]
    cases depth <;> simp
  | append_singleton above i ih =>
    obtain ⟨removed, hnode⟩ := h.node hs
    obtain ⟨group, hgroup, -⟩ := Layout.at?_concat_eq_some_iff.mp hs
    have hparent : Layout.parentAt? (above ++ [i]) = some above := by simp [Layout.parentAt?]
    rw [ancestorAt?_eq hnode, Layout.ancestorAt?, List.length_append, List.length_singleton, hparent]
    simp only [Option.map_some, Option.bind_some, ih hgroup, Layout.ancestorAt?]
    rcases Nat.lt_trichotomy depth (above.length + 1) with hlt | rfl | hgt
    · rw [if_pos hlt, if_pos (Nat.le_of_lt_succ hlt), if_pos (Nat.le_of_lt hlt), Option.map_some,
        List.take_append_of_le_length (Nat.le_of_lt_succ hlt), Option.map_some]
    · simp [List.take_of_length_le]
    · rw [if_neg (by omega), if_neg (by omega), if_neg (by omega), Option.map_none]

end LaysOut

/-- **The arena answers as the layout does**: a node is named by its number in the one and by its address
in the other. -/
structure Agrees (a : Arena) (t : Layout) : Prop where
  descend?_eq : ∀ names, a.descend? root names = (t.addressOf? names).map t.number
  address?_eq : ∀ address s, t.at? address = some s → t.address? (t.number address) = some address
  pathOf?_eq : ∀ address s, t.at? address = some s → a.pathOf? (t.number address) = t.pathAt? address
  parent?_eq : ∀ address s, t.at? address = some s →
    a.parent? (t.number address) = (Layout.parentAt? address).map t.number
  ancestorAt?_eq : ∀ address s depth, t.at? address = some s →
    a.ancestorAt? (t.number address) depth = (Layout.ancestorAt? address depth).map t.number

theorem LaysOut.agrees {a : Arena} {t : Layout} (h : a.LaysOut t) : a.Agrees t where
  descend?_eq names := by
    have hroot := h.descend?_number (Layout.at?_nil t) names
    rwa [Layout.number] at hroot
  address?_eq _ _ hs := Layout.address?_number hs
  pathOf?_eq _ _ hs := by rw [pathOf?, h.namesTo_number hs, Layout.pathAt?]
  parent?_eq _ _ hs := h.parent?_number hs
  ancestorAt?_eq _ _ depth hs := h.ancestorAt?_number hs depth

end Arena

end Colonnade
