import Colonnade.Proofs.Frame.Arena
import Colonnade.Proofs.Removal.Marks

/-!
# A snapshot mirrors its frame

A snapshot of a well-formed frame is the frame without its cells, and marking nodes as removed changes
nothing about this (`Frame.snapshot_mirrors`): a path leads to a node where it leads to a column, the node
knows its path, its depth and its position, the children of a group are its columns, and on the way up
stand the groups around a column. What is put back into a frame relies on all of this to find its place.

The arena is looked at through the layout that it agrees with, `Arena.LaysOut`. Below that there is one
fact about frames: the node at an address is the layout of the column to which the names on the way lead
(`Frame.exists_layout_eq`), and as names differ, these names lead back to the address
(`Frame.addressOf?_layout_iff`).
-/

namespace Colonnade

/-! ### Columns and addresses -/

namespace Column

variable {c : Column} {g : Frame} {s : Layout} {address : List Nat}

theorem children_layout (hg : c.group? = some g) : c.layout.children = g.columns.map layout := by
  obtain ⟨columns, rowCount⟩ := g
  rw [group?_eq_some_iff.mp hg]
  exact layouts_eq_map columns

theorem children_layout_of_leaf (hc : c.group? = none) : c.layout.children = [] := by
  simpa using @children_marked_of_leaf [] c hc

/-- **The node at an address is the layout of a column**, to which the names on the way lead. -/
theorem exists_layout_eq (hc : c.WellFormed) (h : c.layout.at? address = some s) :
    ∃ d, c.descend? (c.layout.namesTo address) = some d ∧ d.layout = s := by
  induction address generalizing c with
  | nil => exact ⟨c, descend?_nil c, by simpa using h⟩
  | cons i rest ih =>
    rw [Layout.at?_cons] at h
    obtain ⟨child, hchild, h⟩ := Option.bind_eq_some_iff.mp h
    rcases hg : c.group? with _ | g
    · simp [children_layout_of_leaf hg] at hchild
    · rw [children_layout hg, List.getElem?_map] at hchild
      obtain ⟨d, hd, rfl⟩ := Option.map_eq_some_iff.mp hchild
      have hmem := List.mem_of_getElem? hd
      have hgwf := hc.frame hg
      have hget : c.layout.children[i]? = some d.layout := by
        rw [children_layout hg, List.getElem?_map, hd, Option.map_some]
      obtain ⟨e, he, hs⟩ := ih (hgwf.of_mem hmem) h
      refine ⟨e, ?_, hs⟩
      simp only [Layout.namesTo, hget, name_layout]
      rw [group?_eq_some_iff.mp hg, descend?_group_cons, Frame.column?_name hgwf.nodup_names hmem,
        Option.bind_some, he]

end Column

namespace Frame

variable {f : Frame} {s : Layout} {address : List Nat} {names : List String} {c : Column}

theorem children_layout (f : Frame) : f.layout.children = f.columns.map (Column.marked []) := by
  rw [funext Column.marked_nil]
  exact Column.layouts_eq_map f.columns

theorem exists_layout_eq (hf : f.WellFormed) (h : f.layout.at? address = some s) :
    ∃ c, f.find? (f.layout.namesTo address) = some c ∧ c.layout = s := by
  obtain ⟨columns, rowCount⟩ := f
  exact Column.exists_layout_eq ((Column.wellFormed_group "" _).mpr hf) h

/-- **Names lead to a node and to a column alike.** -/
theorem addressOf?_layout_iff (hf : f.WellFormed) : f.layout.addressOf? names = some address ↔
    (∃ s, f.layout.at? address = some s) ∧ f.layout.namesTo address = names := by
  refine ⟨Layout.at?_of_addressOf?, ?_⟩
  rintro ⟨⟨s, hs⟩, rfl⟩
  exact (find?_namesTo hf f.children_layout hs).2

end Frame

/-! ### The nodes of a snapshot -/

/-- **The arena mirrors the frame.** Names lead to a node where they lead to a column, no names leading
to the root and to the frame as a whole. -/
structure Arena.Mirrors (a : Arena) (f : Frame) : Prop where
  /-- The root is above everything. -/
  node_root : ∃ node, a.node? root = some node ∧ node.depth = 0 ∧ node.parent = none
  /-- There is a node at a path if there is a column, -/
  isSome_nodeAt? : ∀ path, (a.nodeAt? path).isSome ↔ ∃ c, f.get path = .ok c
  /-- and the node has this path. -/
  pathOf?_of_nodeAt? : ∀ path n, a.nodeAt? path = some n → a.pathOf? n = some path
  /-- Of the nodes only the root has no path, -/
  pathOf?_eq_none : ∀ n < a.nodes.length, a.pathOf? n = none ↔ n = root
  /-- and the path of a node leads to it. -/
  nodeAt?_of_pathOf? : ∀ path n, a.pathOf? n = some path → a.nodeAt? path = some n
  /-- The node of a column tells its name, its place among the columns beside it, its depth and the
  node of the group around it. -/
  node_of_nodeAt? : ∀ path n, a.nodeAt? path = some n → ∃ node g c,
    a.node? n = some node ∧ f.groupAt? path.segments.dropLast = some g ∧ f.get path = .ok c ∧
      g.columns[node.index]? = some c ∧ node.name = c.name ∧ node.depth = path.length ∧
      node.parent = a.descend? root path.segments.dropLast
  /-- The children of a group are its columns in their order, with the places 0, 1, 2 and so on, -/
  children_of_group : ∀ names n g, a.descend? root names = some n → f.groupAt? names = some g →
    (a.children n).length = g.columns.length ∧ ∀ i c, g.columns[i]? = some c → ∃ m node,
      (a.children n)[i]? = some m ∧ a.nodeAt? (.below names c.name) = some m ∧
        a.node? m = some node ∧ node.index = i
  /-- and what is no group has none. -/
  children_of_leaf : ∀ names n, a.descend? root names = some n → f.groupAt? names = none →
    a.children n = []
  /-- An ancestor is the node of the first names. -/
  ancestorAt?_eq : ∀ names n depth, a.descend? root names = some n →
    a.ancestorAt? n depth =
      if depth ≤ names.length then a.descend? root (names.take depth) else none

namespace Arena.LaysOut

variable {f : Frame} {a : Arena} {n : Nat} {names : List String} {path : Path}

section

variable (h : a.LaysOut f.layout)

include h

theorem node_root : ∃ node, a.node? root = some node ∧ node.depth = 0 ∧ node.parent = none := by
  obtain ⟨removed, hnode⟩ := h.node (Layout.at?_nil f.layout)
  rw [Layout.number] at hnode
  exact ⟨_, hnode, rfl, rfl⟩

/-- Of the nodes only the root has no path. -/
theorem pathOf?_eq_none_iff (hn : n < a.nodes.length) : a.pathOf? n = none ↔ n = root := by
  rw [h.size] at hn
  obtain ⟨address, s, hs, rfl⟩ := f.layout.exists_number_eq hn
  rw [pathOf?, h.namesTo_number hs]
  cases address with
  | nil => exact iff_of_true rfl rfl
  | cons i rest =>
    have hnames : f.layout.namesTo (i :: rest) ≠ [] :=
      List.ne_nil_of_length_eq_add_one (Layout.length_namesTo hs)
    refine iff_of_false ?_ (Layout.number_cons_ne_zero f.layout i rest)
    rw [Path.ofSegments?, dif_pos hnames]
    simp

variable (hf : f.WellFormed)

include hf

/-- **What names lead to**: the node of a column, at the address that has these names. -/
theorem exists_address (hn : a.descend? root names = some n) :
    ∃ address c, f.layout.number address = n ∧ f.layout.at? address = some c.layout ∧
      f.layout.namesTo address = names ∧ f.find? names = some c := by
  rw [h.agrees.descend?_eq] at hn
  obtain ⟨address, haddress, rfl⟩ := Option.map_eq_some_iff.mp hn
  obtain ⟨⟨s, hs⟩, rfl⟩ := (Frame.addressOf?_layout_iff hf).mp haddress
  obtain ⟨c, hc, rfl⟩ := Frame.exists_layout_eq hf hs
  exact ⟨address, c, rfl, hs, rfl, hc⟩

/-- The names on the way to an address lead to its node. -/
theorem descend?_namesTo {address : List Nat} {s : Layout} (hs : f.layout.at? address = some s) :
    a.descend? root (f.layout.namesTo address) = some (f.layout.number address) := by
  rw [h.agrees.descend?_eq, (Frame.addressOf?_layout_iff hf).mpr ⟨⟨s, hs⟩, rfl⟩, Option.map_some]

theorem isSome_nodeAt? (path : Path) : (a.nodeAt? path).isSome ↔ ∃ c, f.get path = .ok c := by
  rw [nodeAt?, Option.isSome_iff_exists]
  constructor
  · rintro ⟨n, hn⟩
    obtain ⟨address, c, -, -, -, hc⟩ := h.exists_address hf hn
    exact ⟨c, Frame.get_eq_ok_iff.mpr hc⟩
  · rintro ⟨c, hc⟩
    obtain ⟨address, s, -, hs, hnames⟩ :=
      Frame.exists_addressOf? hf f.children_layout (Frame.get_eq_ok_iff.mp hc)
    exact ⟨_, hnames ▸ h.descend?_namesTo hf hs⟩

theorem pathOf?_of_nodeAt? (hn : a.nodeAt? path = some n) : a.pathOf? n = some path := by
  obtain ⟨address, c, rfl, hs, hnames, -⟩ := h.exists_address hf hn
  rw [pathOf?, h.namesTo_number hs, hnames, Path.ofSegments?, dif_pos path.nonempty]

theorem nodeAt?_of_pathOf? (hn : a.pathOf? n = some path) : a.nodeAt? path = some n := by
  have hlt : n < a.nodes.length := by
    refine Nat.lt_of_not_le fun hge => ?_
    rw [pathOf?, namesTo_of_none (List.getElem?_eq_none hge)] at hn
    cases hn
  rw [h.size] at hlt
  obtain ⟨address, s, hs, rfl⟩ := f.layout.exists_number_eq hlt
  rw [pathOf?, h.namesTo_number hs, Path.ofSegments?] at hn
  split at hn
  · obtain rfl := Option.some.inj hn
    exact h.descend?_namesTo hf hs
  · cases hn

/-- Below the node of a group stand its columns. -/
theorem child_of_group {address : List Nat} {c d : Column} {g : Frame} {i : Nat}
    (hs : f.layout.at? address = some c.layout) (hg : c.group? = some g)
    (hd : g.columns[i]? = some d) :
    f.layout.at? (address ++ [i]) = some d.layout ∧
      a.descend? root (f.layout.namesTo address ++ [d.name]) = some (f.layout.number (address ++ [i])) := by
  have hchild : c.layout.children[i]? = some d.layout := by
    rw [Column.children_layout hg, List.getElem?_map, hd, Option.map_some]
  have hbelow : f.layout.at? (address ++ [i]) = some d.layout :=
    Layout.at?_concat_eq_some_iff.mpr ⟨c.layout, hs, hchild⟩
  refine ⟨hbelow, ?_⟩
  rw [← Column.name_layout d, ← Layout.namesTo_concat hs hchild, h.descend?_namesTo hf hbelow]

theorem children_of_group {g : Frame} (hn : a.descend? root names = some n)
    (hg : f.groupAt? names = some g) :
    (a.children n).length = g.columns.length ∧ ∀ i c, g.columns[i]? = some c → ∃ m node,
      (a.children n)[i]? = some m ∧ a.nodeAt? (.below names c.name) = some m ∧
        a.node? m = some node ∧ node.index = i := by
  obtain ⟨address, c, rfl, hs, rfl, hc⟩ := h.exists_address hf hn
  rw [Frame.groupAt?, hc, Option.bind_some] at hg
  rw [h.children_number hs, Column.children_layout hg, List.length_map]
  refine ⟨by simp, fun i d hd => ?_⟩
  obtain ⟨hbelow, hnode⟩ := h.child_of_group hf hs hg hd
  obtain ⟨removed, hentry⟩ := h.node hbelow
  have hlt := (List.getElem?_eq_some_iff.mp hd).1
  exact ⟨_, _, by simp [hlt], hnode, hentry, by simp⟩

theorem children_of_leaf (hn : a.descend? root names = some n) (hg : f.groupAt? names = none) :
    a.children n = [] := by
  obtain ⟨address, c, rfl, hs, rfl, hc⟩ := h.exists_address hf hn
  rw [Frame.groupAt?, hc, Option.bind_some] at hg
  rw [h.children_number hs, Column.children_layout_of_leaf hg]
  rfl

/-- **What the node of a column tells**: the column stands where it says in the group around it. -/
theorem node_of_nodeAt? (hn : a.nodeAt? path = some n) : ∃ node g c,
    a.node? n = some node ∧ f.groupAt? path.segments.dropLast = some g ∧ f.get path = .ok c ∧
      g.columns[node.index]? = some c ∧ node.name = c.name ∧ node.depth = path.length ∧
      node.parent = a.descend? root path.segments.dropLast := by
  obtain ⟨address, c, rfl, hs, hnames, hc⟩ := h.exists_address hf hn
  obtain rfl | ⟨above, i, rfl⟩ := List.eq_nil_or_concat' address
  · exact absurd hnames.symm path.nonempty
  have hlength : (above ++ [i]).length = path.length := by
    rw [← Layout.length_namesTo hs, hnames, Path.length]
  obtain ⟨removed, hnode⟩ := h.node hs
  obtain ⟨s, hgroup, hget⟩ := Layout.at?_concat_eq_some_iff.mp hs
  obtain ⟨d, hd, rfl⟩ := Frame.exists_layout_eq hf hgroup
  rcases hg : d.group? with _ | g
  · simp [Column.children_layout_of_leaf hg] at hget
  have hgroupAt : f.groupAt? (f.layout.namesTo above) = some g := by
    rw [Frame.groupAt?, hd, Option.bind_some, hg]
  have hsegments : path.segments = f.layout.namesTo above ++ [c.name] := by
    rw [← hnames, Layout.namesTo_concat hgroup hget, Column.name_layout]
  -- the column at the position is the one of the name, because names differ
  have hcolumn : g.columns[i]? = some c := by
    rw [Column.children_layout hg, List.getElem?_map] at hget
    obtain ⟨e, he, hlayout⟩ := Option.map_eq_some_iff.mp hget
    have hname : e.name = c.name := by rw [← Column.name_layout, hlayout, Column.name_layout]
    have hfound := Frame.column?_name (hf.groupAt hgroupAt).nodup_names (List.mem_of_getElem? he)
    rw [hname, ← Frame.find?_concat hgroupAt, ← hsegments, hc] at hfound
    rw [he, hfound]
  have habove : path.segments.dropLast = f.layout.namesTo above := by
    rw [hsegments, List.dropLast_concat]
  refine ⟨_, g, c, hnode, habove ▸ hgroupAt, Frame.get_eq_ok_iff.mpr hc, by simpa using hcolumn,
    Column.name_layout c, hlength, ?_⟩
  rw [habove, h.descend?_namesTo hf hgroup]
  simp [Layout.parentAt?]

theorem ancestorAt?_eq (depth : Nat) (hn : a.descend? root names = some n) :
    a.ancestorAt? n depth =
      if depth ≤ names.length then a.descend? root (names.take depth) else none := by
  obtain ⟨address, c, rfl, hs, rfl, -⟩ := h.exists_address hf hn
  rw [h.ancestorAt?_number hs, Layout.ancestorAt?, Layout.length_namesTo hs]
  split
  next hle =>
    rw [← List.take_append_drop depth address, Layout.at?_append] at hs
    obtain ⟨s, hs, -⟩ := Option.bind_eq_some_iff.mp hs
    rw [← Layout.namesTo_take, h.descend?_namesTo hf hs, Option.map_some]
  next => rfl

end

/-- **An arena with the nodes of the layout of a frame mirrors the frame.** -/
theorem mirrors (h : a.LaysOut f.layout) (hf : f.WellFormed) : a.Mirrors f where
  node_root := h.node_root
  isSome_nodeAt? := h.isSome_nodeAt? hf
  pathOf?_of_nodeAt? _ _ := h.pathOf?_of_nodeAt? hf
  pathOf?_eq_none _ := h.pathOf?_eq_none_iff
  nodeAt?_of_pathOf? _ _ := h.nodeAt?_of_pathOf? hf
  node_of_nodeAt? _ _ := h.node_of_nodeAt? hf
  children_of_group _ _ _ := h.children_of_group hf
  children_of_leaf _ _ := h.children_of_leaf hf
  ancestorAt?_eq _ _ depth := h.ancestorAt?_eq hf depth

end Arena.LaysOut

/-- In a snapshot nothing has been removed. -/
theorem Frame.removed_snapshot {f : Frame} (hf : f.WellFormed) {n : Nat} {node : Arena.Node}
    (h : f.snapshot.node? n = some node) : node.removed = false := by
  have hlt : n < f.layout.size := by
    rw [← f.laysOut_snapshot.size]
    exact (List.getElem?_eq_some_iff.mp h).1
  obtain ⟨address, s, hs, rfl⟩ := f.layout.exists_number_eq hlt
  obtain ⟨c, -, rfl⟩ := exists_layout_eq hf hs
  rw [Arena.node?, nodes_snapshot, Layout.getElem?_entries hs, Option.some.injEq] at h
  rw [← h, Column.isRemoved_layout]

/-- **A snapshot mirrors its frame**, whatever nodes are marked as removed in it afterwards, and it answers
as the layout does that edits work with. The nodes that were marked are marked and no others, and every
parent stands before its children. -/
theorem Frame.snapshot_mirrors {f : Frame} (hf : f.WellFormed) (marks : List Nat) :
    (marks.foldl Arena.markRemoved f.snapshot).Mirrors f ∧
    (marks.foldl Arena.markRemoved f.snapshot).Agrees f.layout ∧
    (∀ n node, (marks.foldl Arena.markRemoved f.snapshot).node? n = some node →
      (node.removed ↔ n ∈ marks)) ∧
    ∀ n p, (marks.foldl Arena.markRemoved f.snapshot).parent? n = some p → p < n := by
  have hlaysOut := f.laysOut_snapshot.foldl_markRemoved marks
  refine ⟨hlaysOut.mirrors hf, hlaysOut.agrees, fun n node hn => ?_, fun n p hp => ?_⟩
  · rw [Arena.node?_foldl_markRemoved] at hn
    obtain ⟨old, hold, rfl⟩ := Option.map_eq_some_iff.mp hn
    simp [removed_snapshot hf hold]
  · obtain ⟨node, hnode, hparent⟩ := Option.bind_eq_some_iff.mp hp
    exact Arena.parent_lt _ hnode hparent

/-- A group behind a column, with the group marked. -/
theorem Frame.snapshot_mirrors_nested :
    let f : Frame :=
      ⟨[.ofTexts "a" [none], .group "g" ⟨[.ofTexts "x" [none], .ofTexts "y" [some "1"]], 1⟩], 1⟩
    let t := f.snapshot.markRemoved 2
    f.WellFormed ∧ t.Mirrors f ∧ t.nodeAt? (.below ["g"] "y") = some 4 ∧
      t.pathOf? 4 = some (.below ["g"] "y") ∧ t.ancestorAt? 4 1 = some 2 ∧
      ∀ node, t.node? 2 = some node → node.removed = true := by
  intro f t
  have hf : f.WellFormed := by
    simp [f, wellFormed_iff, names, Column.WellFormed, Column.ofTexts, Column.ofValues, Column.name,
      Column.length, cellsWellFormed, Value.ofText, Value.WellFormed]
  obtain ⟨hmirrors, -, hremoved, -⟩ := snapshot_mirrors hf [2]
  have hy : t.nodeAt? (.below ["g"] "y") = some 4 := by rfl
  exact ⟨hf, hmirrors, hy, hmirrors.pathOf?_of_nodeAt? _ _ hy, hmirrors.ancestorAt?_eq ["g", "y"] 4 1 hy,
    fun node hnode => (hremoved 2 node hnode).mpr (by decide)⟩

end Colonnade
