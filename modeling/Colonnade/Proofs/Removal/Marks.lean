import Colonnade.Proofs.Removal.Survivors
import Colonnade.Proofs.Removal.Taken

/-!
# The marks of a removal

A layout that has been marked has a node for every column of the frame, at the address to which the
names of the column lead, and the names on the way to an address are those of a column
(`Frame.find?_namesTo`, `Frame.exists_addressOf?`).

Marks are as sparse as they can be: a column that goes as a whole is marked, and nothing in it. So a
node is marked if its column is spared as far as the groups around it go, and nothing is left of it
(`Frame.isRemoved_at?`), and a column has gone if its node or one above it is marked
(`Frame.find?_pruned_iff_unmarked`).

Every lemma is about a layout whose children are the marked layouts of the columns of a frame, and
follows an address into it. In a column that goes as a whole the way leads on through children that
no paths have marked, hence `Column.inside`.
-/

namespace Colonnade

@[simp] theorem pathsBelow_of_nil (names : List String) : pathsBelow names [] = [] := by
  induction names with
  | nil => rfl
  | cons name names ih => exact ih

/-! ### The children of a marked node -/

namespace Column

variable {paths : List (List String)} {c : Column} {g : Frame}

/-- The paths by which the columns in a column are marked, none if it goes as a whole. -/
def inside (paths : List (List String)) (c : Column) : List (List String) :=
  if (pathsThrough c.name paths).any List.isEmpty then [] else pathsThrough c.name paths

theorem inside_of_mem (h : [] ∈ pathsThrough c.name paths) : c.inside paths = [] :=
  if_pos (any_isEmpty_iff.mpr h)

theorem inside_of_not_mem (h : [] ∉ pathsThrough c.name paths) :
    c.inside paths = pathsThrough c.name paths :=
  if_neg (any_isEmpty_iff.not.mpr h)

theorem children_marked_of_leaf (hc : c.group? = none) : (c.marked paths).children = [] := by
  have hlayout : c.layout.children = [] := by
    cases c with
    | group label f => exact absurd hc (by simp [group?])
    | value _ _ _ _ => rfl
    | frames _ _ => rfl
  by_cases hthere : [] ∈ pathsThrough c.name paths
  · rw [marked_of_mem hthere, ← hlayout]
    cases c.layout
    rfl
  · rw [marked_leaf hc hthere, hlayout]

theorem children_marked (hg : c.group? = some g) :
    (c.marked paths).children = g.columns.map (marked (c.inside paths)) := by
  have hc := group?_eq_some_iff.mp hg
  by_cases hthere : [] ∈ pathsThrough c.name paths
  · have hlayout : c.layout.removed.children = g.columns.map (marked []) := by
      obtain ⟨columns, rowCount⟩ := g
      rw [hc, funext marked_nil, ← layouts_eq_map]
      rfl
    rw [marked_of_mem hthere, inside_of_mem hthere, hlayout]
  · rw [inside_of_not_mem hthere]
    conv_lhs => rw [hc]
    exact children_marked_group hthere

/-- Names lead on below a group as they do in its frame. -/
theorem exists_descend?_iff (hg : c.group? = some g) {names : List String} :
    (∃ d, c.descend? names = some d) ↔ ∃ d, g.find? names = some d := by
  rw [group?_eq_some_iff.mp hg]
  cases names with
  | nil => exact iff_of_true ⟨_, descend?_nil _⟩ ⟨_, Frame.find?_nil g⟩
  | cons name rest => exact Iff.rfl

end Column

namespace Frame

variable {f : Frame} {paths : List (List String)} {t node : Layout} {address : List Nat} {c : Column}

section Children

variable (ht : t.children = f.columns.map (Column.marked paths))

include ht

/-- The first step of an address leads to a column. -/
theorem exists_column_of_at? {i : Nat} {rest : List Nat} (h : t.at? (i :: rest) = some node) :
    ∃ c, f.columns[i]? = some c ∧ t.children[i]? = some (c.marked paths) ∧
      (c.marked paths).at? rest = some node ∧
      t.namesTo (i :: rest) = c.name :: (c.marked paths).namesTo rest := by
  rw [Layout.at?_cons, ht, List.getElem?_map] at h
  obtain ⟨child, hchild, hnode⟩ := Option.bind_eq_some_iff.mp h
  obtain ⟨c, hc, rfl⟩ := Option.map_eq_some_iff.mp hchild
  have hget : t.children[i]? = some (c.marked paths) := by rw [ht, List.getElem?_map, hchild]
  refine ⟨c, hc, hget, hnode, ?_⟩
  simp only [Layout.namesTo, hget, Column.name_marked]

end Children

/-- An address that goes on leads into a group. -/
theorem exists_group_of_at? {i : Nat} {rest : List Nat}
    (h : (c.marked paths).at? (i :: rest) = some node) : ∃ g, c.group? = some g := by
  rcases hg : c.group? with _ | g
  · rw [Layout.at?_cons, Column.children_marked_of_leaf hg] at h
    exact absurd h (by simp)
  · exact ⟨g, rfl⟩

/-! ### Names and addresses -/

/-- **The names on the way to a node lead to a column, and back to the node.** -/
theorem find?_namesTo (hf : f.WellFormed) (ht : t.children = f.columns.map (Column.marked paths))
    (h : t.at? address = some node) :
    (∃ c, f.find? (t.namesTo address) = some c) ∧
      t.addressOf? (t.namesTo address) = some address := by
  induction address generalizing f paths t with
  | nil => exact ⟨⟨_, find?_nil f⟩, Layout.addressOf?_nil t⟩
  | cons i rest ih =>
    obtain ⟨c, hc, hget, hnode, hnames⟩ := exists_column_of_at? ht h
    have hmem := List.mem_of_getElem? hc
    have hindex := childIndex?_of_children ht hf.nodup_names hc
    have hrest : (∃ d, c.descend? ((c.marked paths).namesTo rest) = some d) ∧
        (c.marked paths).addressOf? ((c.marked paths).namesTo rest) = some rest := by
      cases rest with
      | nil => exact ⟨⟨c, Column.descend?_nil c⟩, Layout.addressOf?_nil _⟩
      | cons j rest =>
        obtain ⟨g, hg⟩ := exists_group_of_at? hnode
        obtain ⟨hfind, hback⟩ := ih ((hf.of_mem hmem).frame hg) (Column.children_marked hg) hnode
        exact ⟨(Column.exists_descend?_iff hg).mpr hfind, hback⟩
    rw [hnames]
    constructor
    · rw [find?_cons, column?_name hf.nodup_names hmem]
      exact hrest.1
    · rw [Layout.addressOf?_cons, hindex, Option.bind_some, hget, Option.bind_some, hrest.2]
      rfl

/-- **Names that lead to a column lead to a node.** -/
theorem exists_addressOf? (hf : f.WellFormed) (ht : t.children = f.columns.map (Column.marked paths))
    {names : List String} (h : f.find? names = some c) :
    ∃ address node, t.addressOf? names = some address ∧ t.at? address = some node ∧
      t.namesTo address = names := by
  induction names generalizing f paths t with
  | nil => exact ⟨[], t, Layout.addressOf?_nil t, Layout.at?_nil t, rfl⟩
  | cons name rest ih =>
    obtain ⟨d, hd, hdescend⟩ := Option.bind_eq_some_iff.mp h
    obtain ⟨hmem, rfl⟩ := (column?_eq_some_iff hf.nodup_names).mp hd
    obtain ⟨i, hi⟩ := List.getElem?_of_mem hmem
    have hindex := childIndex?_of_children ht hf.nodup_names hi
    have hget : t.children[i]? = some (d.marked paths) := by
      rw [ht, List.getElem?_map, hi, Option.map_some]
    obtain ⟨address, node, haddress, hnode, hnames⟩ : ∃ address node,
        (d.marked paths).addressOf? rest = some address ∧
          (d.marked paths).at? address = some node ∧ (d.marked paths).namesTo address = rest := by
      cases rest with
      | nil => exact ⟨[], _, Layout.addressOf?_nil _, Layout.at?_nil _, rfl⟩
      | cons next rest =>
        rcases hg : d.group? with _ | g
        · rw [Column.descend?_cons_of_group?_eq_none hg] at hdescend
          exact absurd hdescend (by simp)
        · rw [Column.group?_eq_some_iff.mp hg] at hdescend
          exact ih ((hf.of_mem hmem).frame hg) (Column.children_marked hg) hdescend
    refine ⟨i :: address, node, ?_, ?_, ?_⟩
    · rw [Layout.addressOf?_cons, hindex, Option.bind_some, hget, Option.bind_some, haddress]
      rfl
    · rw [Layout.at?_cons, hget, Option.bind_some, hnode]
    · simp only [Layout.namesTo, hget, Column.name_marked, hnames]

/-- The path of an entry is the one of its address. -/
theorem segments_of_mem_taken {e : Taken} (he : e ∈ c.taken paths) :
    e.2.1.segments = c.name :: (c.marked paths).namesTo e.1 := by
  induction c using Column.groupInduction generalizing e paths with
  | leaf c hleaf =>
    by_cases hthere : [] ∈ pathsThrough c.name paths
    · rw [Column.taken_of_mem hthere, List.mem_singleton] at he
      rw [he]
      rfl
    · rw [Column.taken_leaf hleaf hthere] at he
      exact absurd he List.not_mem_nil
  | group label g ih =>
    by_cases hthere : [] ∈ pathsThrough label paths
    · rw [Column.taken_of_mem (c := .group label g) hthere, List.mem_singleton] at he
      rw [he]
      rfl
    · rw [Column.taken_group hthere] at he
      obtain ⟨e', he', rfl⟩ := List.mem_map.mp he
      obtain ⟨i, c, hi, e'', he'', rfl⟩ := Column.mem_takenAll.mp he'
      have hget : ((Column.group label g).marked paths).children[i]? =
          some (c.marked (pathsThrough label paths)) := by
        rw [Column.children_marked_group hthere, List.getElem?_map, hi, Option.map_some]
      change label :: e''.2.1.segments = label :: Layout.namesTo _ (i :: e''.1)
      rw [ih c (List.mem_of_getElem? hi) he'']
      simp only [Layout.namesTo, hget, Column.name_marked]

/-- **The path of an entry leads to the node at its address.** -/
theorem addressOf?_of_mem_takenAll (hf : f.WellFormed)
    (ht : t.children = f.columns.map (Column.marked paths)) {e : Taken}
    (he : e ∈ Column.takenAll paths f.columns) : t.addressOf? e.2.1.segments = some e.1 := by
  obtain ⟨s, hs⟩ := at?_of_mem_takenAll hf ht he
  have hnames : t.namesTo e.1 = e.2.1.segments := by
    obtain ⟨i, c, hi, e', he', rfl⟩ := Column.mem_takenAll.mp he
    have hget : t.children[i]? = some (c.marked paths) := by
      rw [ht, List.getElem?_map, hi, Option.map_some]
    change t.namesTo (i :: e'.1) = e'.2.1.segments
    rw [segments_of_mem_taken he']
    simp only [Layout.namesTo, hget, Column.name_marked]
  exact hnames ▸ (find?_namesTo hf ht hs).2

/-! ### Marks -/

/-- **A node is marked if nothing is left of its column**, and no path ends above it. -/
theorem isRemoved_at? (hf : f.WellFormed) (ht : t.children = f.columns.map (Column.marked paths))
    (hne : address ≠ []) (h : t.at? address = some node)
    (hc : f.find? (t.namesTo address) = some c) :
    node.isRemoved ↔ Spared paths (t.namesTo address).dropLast ∧
      c.leave? (pathsBelow (t.namesTo address) paths) = none := by
  induction address generalizing f paths t with
  | nil => exact absurd rfl hne
  | cons i rest ih =>
    obtain ⟨d, hd, -, hnode, hnames⟩ := exists_column_of_at? ht h
    have hmem := List.mem_of_getElem? hd
    rw [hnames, find?_cons, column?_name hf.nodup_names hmem, Option.bind_some] at hc
    rw [hnames, pathsBelow_cons]
    cases rest with
    | nil =>
      obtain rfl : d.marked paths = node := by simpa using hnode
      obtain rfl : d = c := by simpa [Layout.namesTo] using hc
      simp [Column.isRemoved_marked, Column.prune?_eq_leave?, Layout.namesTo]
    | cons j rest =>
      obtain ⟨g, hg⟩ := exists_group_of_at? hnode
      have hg' : g.WellFormed := (hf.of_mem hmem).frame hg
      obtain ⟨e, -, -, -, hnames'⟩ := exists_column_of_at? (Column.children_marked hg) hnode
      have hfind : g.find? ((d.marked paths).namesTo (j :: rest)) = some c := by
        rw [hnames'] at hc ⊢
        rwa [Column.group?_eq_some_iff.mp hg] at hc
      have hlast : (d.name :: (d.marked paths).namesTo (j :: rest)).dropLast =
          d.name :: ((d.marked paths).namesTo (j :: rest)).dropLast := by rw [hnames']; rfl
      rw [ih hg' (Column.children_marked hg) (List.cons_ne_nil _ _) hnode hfind, hlast, spared_cons]
      by_cases hthere : [] ∈ pathsThrough d.name paths
      · simp [Column.inside_of_mem hthere, hthere]
      · simp [Column.inside_of_not_mem hthere, hthere]

/-- **A column is left if no node on the way to its own is marked**, that one included. -/
theorem find?_pruned_iff_unmarked (hf : f.WellFormed)
    (ht : t.children = f.columns.map (Column.marked paths)) (h : t.at? address = some node) :
    (∃ d, (f.pruned paths).find? (t.namesTo address) = some d) ↔
      ∀ above, above <+: address → above ≠ [] →
        ∀ n, t.at? above = some n → n.isRemoved = false := by
  induction address generalizing f paths t with
  | nil =>
    refine iff_of_true ⟨_, find?_nil _⟩ fun above habove hne => ?_
    exact absurd (List.prefix_nil.mp habove) hne
  | cons i rest ih =>
    obtain ⟨c, hc, hget, hnode, hnames⟩ := exists_column_of_at? ht h
    have hmem := List.mem_of_getElem? hc
    -- the first node on the way, and those after it
    have hway : (∀ above, above <+: i :: rest → above ≠ [] →
          ∀ n, t.at? above = some n → n.isRemoved = false) ↔
        (c.marked paths).isRemoved = false ∧ ∀ above, above <+: rest → above ≠ [] →
          ∀ n, (c.marked paths).at? above = some n → n.isRemoved = false := by
      have hstep (above : List Nat) : t.at? (i :: above) = (c.marked paths).at? above := by
        rw [Layout.at?_cons, hget, Option.bind_some]
      constructor
      · intro hall
        refine ⟨hall [i] ⟨rest, rfl⟩ (List.cons_ne_nil _ _) _ (hstep []), ?_⟩
        · intro above habove _ n hn
          exact hall (i :: above) (List.cons_prefix_cons.mpr ⟨rfl, habove⟩) (List.cons_ne_nil _ _) n
            ((hstep above).trans hn)
      · rintro ⟨hfirst, hrest⟩ above habove hne n hn
        obtain ⟨j, above, rfl⟩ := List.exists_cons_of_ne_nil hne
        obtain ⟨rfl, hbehind⟩ := List.cons_prefix_cons.mp habove
        rw [hstep] at hn
        rcases eq_or_ne above [] with rfl | hne'
        · obtain rfl : c.marked paths = n := by simpa using hn
          exact hfirst
        · exact hrest above hbehind hne' n hn
    rw [hway, hnames, find?_cons, column?_pruned hf.nodup_names, column?_name hf.nodup_names hmem,
      Option.bind_some, Column.isRemoved_marked]
    cases hprune : c.prune? paths with
    | none => simp
    | some d =>
      simp only [Option.bind_some, Option.isNone_some, true_and]
      obtain ⟨hthere, ⟨hleaf, rfl⟩ | ⟨g, hg, rfl⟩⟩ := Column.prune?_eq_some hprune
      · cases rest with
        | nil =>
          refine iff_of_true ⟨d, Column.descend?_nil d⟩ fun above habove hne => ?_
          exact absurd (List.prefix_nil.mp habove) hne
        | cons j rest =>
          obtain ⟨g, hg⟩ := exists_group_of_at? hnode
          exact absurd (hleaf.symm.trans hg) (by simp)
      · have hinside := Column.inside_of_not_mem hthere
        have hinner := ih ((hf.of_mem hmem).frame hg) (hinside ▸ Column.children_marked hg) hnode
        rw [← hinner]
        exact Column.exists_descend?_iff rfl

end Frame

end Colonnade
