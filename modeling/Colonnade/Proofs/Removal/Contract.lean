import Colonnade.Proofs.Removal.Listing
import Colonnade.Proofs.Removal.Marks

/-!
# What a removal promises

A removal succeeds if and only if all its paths resolve, and otherwise fails like the lookup of the
first that does not (`Frame.remove_error_iff`). When it succeeds, the three parts of its answer agree
with one another and with the frame, `Removal.Fulfils`:

* the frame that remains has the columns that no path reaches, and the groups that something is left
  of;
* the list has the outermost of the paths, depth first, each with its column and its node;
* the layout has a node for every column, marked if the column is listed or is a group that has lost
  its columns.

`Frame.remove_fulfils` puts the parts together, each of which has been proved on its own.
-/

namespace Colonnade

/-- **A group that a removal empties**: no path ends at it or above it, some lead into it, and none of
its columns is left. -/
def Removal.Empties (removal : Removal) (f : Frame) (paths : List Path) (path : Path) : Prop :=
  (∃ label g, f.get path = .ok (.group label g)) ∧ (∀ q ∈ paths, ¬path.startsWith q) ∧
    (∃ q ∈ paths, q.startsWith path) ∧ ∀ name c, removal.frame.get (path.child name) ≠ .ok c

/-- **The answer to a removal of `paths` from `f`.** -/
structure Removal.Fulfils (removal : Removal) (f : Frame) (paths : List Path) : Prop where
  /-- A column that is no group stays, as it was, where no path ends at it or above it. -/
  leaf : ∀ path c, removal.frame.HasLeaf path c ↔
    f.HasLeaf path c ∧ ∀ q ∈ paths, ¬path.startsWith q
  /-- A group stays where no path ends at it or above it, and where paths lead into it only with one
  of its columns. -/
  group : ∀ path label g, f.get path = .ok (.group label g) →
    ((∃ c, removal.frame.get path = .ok c) ↔ (∀ q ∈ paths, ¬path.startsWith q) ∧
      ((∃ q ∈ paths, q.startsWith path) → ∃ name c, removal.frame.get (path.child name) = .ok c))
  /-- At every level, that of the frame included, what stays keeps its order, and the number of rows
  is as it was. -/
  level : ∀ names left, removal.frame.groupAt? names = some left →
    ∃ whole, f.groupAt? names = some whole ∧ left.names.Sublist whole.names ∧
      left.rowCount = whole.rowCount
  /-- The paths that are listed are those below no other path, -/
  listed : ∀ path, path ∈ removal.removed.map Removed.path ↔
    path ∈ paths ∧ ∀ q ∈ paths, path.startsWith q → q = path
  /-- each of them once, -/
  once : (removal.removed.map Removed.path).Nodup
  /-- and depth first, -/
  order : (removal.removed.map Removed.path).Sublist f.paths
  /-- with the columns that were there and their nodes. -/
  entry : ∀ e ∈ removal.removed, f.get e.path = .ok e.column ∧
    ∃ address, removal.layout.address? e.node = some address ∧
      removal.layout.addressOf? e.path.segments = some address
  /-- Every column has a node, -/
  node : ∀ path c, f.get path = .ok c → ∃ address node,
    removal.layout.addressOf? path.segments = some address ∧
      removal.layout.at? address = some node ∧ removal.layout.pathAt? address = some path
  /-- and every node but the root a column. -/
  column : ∀ address node, removal.layout.at? address = some node → address ≠ [] →
    ∃ path c, removal.layout.pathAt? address = some path ∧ f.get path = .ok c
  /-- Marked are the nodes of the columns that are listed and of the groups that are emptied, -/
  marked : ∀ address node path, removal.layout.at? address = some node →
    removal.layout.pathAt? address = some path →
      (node.isRemoved ↔ path ∈ removal.removed.map Removed.path ∨ removal.Empties f paths path)
  /-- not the root, -/
  root : removal.layout.isRemoved = false
  /-- and a column stays if neither its node nor one above it is marked. -/
  resolves : ∀ address node path, removal.layout.at? address = some node →
    removal.layout.pathAt? address = some path →
      ((∃ c, removal.frame.get path = .ok c) ↔ ∀ above, above <+: address →
        ∀ n, removal.layout.at? above = some n → n.isRemoved = false)

/-! ### Paths and their names -/

section Paths

variable {paths : List Path} {path : Path}

theorem spared_map_segments_iff :
    Spared (paths.map Path.segments) path.segments ↔ ∀ q ∈ paths, ¬path.startsWith q := by
  have hinit (q : Path) : path.startsWith q ↔ q.segments <+: path.segments :=
    List.isPrefixOf_iff_prefix
  simp only [Spared, List.forall_mem_map, hinit]
  exact forall₂_congr fun q _ => ⟨fun h => h q.nonempty, fun h _ => h⟩

theorem outermost_map_segments_iff :
    Outermost (paths.map Path.segments) path.segments ↔
      path ∈ paths ∧ ∀ q ∈ paths, path.startsWith q → q = path := by
  have hinit (q : Path) : path.startsWith q ↔ q.segments <+: path.segments :=
    List.isPrefixOf_iff_prefix
  have hinj (q : Path) : q.segments = path.segments ↔ q = path :=
    ⟨fun h => Path.ext h, fun h => h ▸ rfl⟩
  rw [Outermost, List.forall_mem_map, List.mem_map]
  simp only [hinit, hinj, exists_eq_right]

theorem pathsBelow_map_segments_ne_nil_iff :
    pathsBelow path.segments (paths.map Path.segments) ≠ [] ↔ ∃ q ∈ paths, q.startsWith path := by
  constructor
  · intro hne
    obtain ⟨rest, hrest⟩ := List.exists_mem_of_ne_nil _ hne
    obtain ⟨q, hq, heq⟩ := List.mem_map.mp (mem_pathsBelow.mp hrest)
    exact ⟨q, hq, Path.startsWith_iff.mpr ⟨rest, heq⟩⟩
  · rintro ⟨q, hq, hstarts⟩
    obtain ⟨rest, heq⟩ := Path.startsWith_iff.mp hstarts
    exact List.ne_nil_of_mem (mem_pathsBelow.mpr (List.mem_map.mpr ⟨q, hq, heq⟩))

theorem nil_not_mem_map_segments (paths : List Path) : [] ∉ paths.map Path.segments := by
  intro hmem
  obtain ⟨q, -, hq⟩ := List.mem_map.mp hmem
  exact q.nonempty hq

end Paths

/-- A path that ends at names or above them ends at the names, or above their last. -/
theorem prefix_iff_dropLast {names : List String} (hne : names ≠ []) (q : List String) :
    q <+: names ↔ q = names ∨ q <+: names.dropLast := by
  conv_lhs => rw [← List.dropLast_append_getLast hne, List.prefix_concat_iff,
    List.dropLast_append_getLast hne]

theorem spared_iff_dropLast {paths : List (List String)} {names : List String} (hne : names ≠ []) :
    Spared paths names ↔ names ∉ paths ∧ Spared paths names.dropLast := by
  constructor
  · exact fun h => ⟨fun hmem => h names hmem hne (List.prefix_refl _),
      fun q hq hq' hdrop => h q hq hq' ((prefix_iff_dropLast hne q).mpr (Or.inr hdrop))⟩
  · rintro ⟨hmem, h⟩ q hq hq' hinit
    rcases (prefix_iff_dropLast hne q).mp hinit with rfl | hdrop
    · exact hmem hq
    · exact h q hq hq' hdrop

theorem outermost_iff_dropLast {paths : List (List String)} {names : List String}
    (hnil : [] ∉ paths) (hne : names ≠ []) :
    Outermost paths names ↔ names ∈ paths ∧ Spared paths names.dropLast := by
  refine and_congr_right fun _ => ⟨fun h q hq _ hdrop => ?_, fun h q hq hinit => ?_⟩
  · -- the names without their last are shorter than the names
    obtain rfl := h q hq ((prefix_iff_dropLast hne q).mpr (Or.inr hdrop))
    have hlength := hdrop.length_le
    rw [List.length_dropLast] at hlength
    exact absurd (List.length_pos_iff.mpr hne) (by omega)
  · rcases (prefix_iff_dropLast hne q).mp hinit with heq | hdrop
    · exact heq
    · exact absurd hdrop (h q hq fun h => hnil (h ▸ hq))

namespace Frame

variable {f : Frame} {paths : List Path}

/-! ### Failure -/

/-- **A removal fails only where a path does not resolve**, with the error of the first. -/
theorem remove_error_iff (hf : f.WellFormed) {e : FrameError} :
    f.remove paths = .error e ↔ ∃ before path after, paths = before ++ path :: after ∧
      (∀ q ∈ before, ∃ c, f.get q = .ok c) ∧ f.get path = .error e := by
  have herror (path : Path) : discard (f.get path) = .error e ↔ f.get path = .error e := by
    cases f.get path <;> simp [discard, Functor.discard, Functor.mapConst, Except.map]
  have hok (path : Path) : discard (f.get path) = .ok ⟨⟩ ↔ ∃ c, f.get path = .ok c := by
    cases f.get path <;> simp [discard, Functor.discard, Functor.mapConst, Except.map]
  have hfirst : (paths.forM fun path => discard (f.get path)) = .error e ↔ _ := forM_eq_error_iff
  simp only [herror, hok] at hfirst
  rw [← hfirst]
  constructor
  · intro h
    rcases bind_eq_error_iff.mp h with hforM | ⟨⟨⟩, hforM, -⟩
    · exact hforM
    · -- where all paths resolve, the removal succeeds
      have hpaths : ∀ path ∈ paths, ∃ c, f.get path = .ok c := fun path hpath =>
        (hok path).mp (forM_eq_ok_iff.mp hforM path hpath)
      have hremoval := (remove_eq_ok_iff hf).mpr ⟨hpaths, rfl⟩
      exact absurd (h.symm.trans hremoval) (by simp)
  · exact fun h => bind_eq_error_iff.mpr (Or.inl h)

/-! ### Success -/

section Success

variable {names : List String} {address : List Nat} {node : Layout} {path : Path}

/-- The path of a node is its names. -/
theorem pathAt?_eq_some_iff {t : Layout} :
    t.pathAt? address = some path ↔ t.namesTo address = path.segments := by
  rw [Layout.pathAt?, Path.ofSegments?]
  by_cases hne : t.namesTo address ≠ []
  · rw [dif_pos hne, Option.some.injEq]
    exact ⟨fun h => h ▸ rfl, fun h => Path.ext h⟩
  · rw [dif_neg hne, not_not.mp hne]
    exact iff_of_false (by simp) fun h => path.nonempty h.symm

/-- A group that no path reaches, and of which nothing is left, is one that a removal empties. -/
theorem leave?_eq_none_iff_of_spared (hf : f.WellFormed) {c : Column} (hc : f.get path = .ok c)
    (hspared : ∀ q ∈ paths, ¬path.startsWith q) :
    c.leave? (pathsBelow path.segments (paths.map Path.segments)) = none ↔
      (∃ label g, f.get path = .ok (.group label g)) ∧ (∃ q ∈ paths, q.startsWith path) ∧
        ∀ name d, (f.pruned (paths.map Path.segments)).get (path.child name) ≠ .ok d := by
  have hfind := get_eq_ok_iff.mp hc
  have hspared' := spared_map_segments_iff.mpr hspared
  have hleft : c.leave? (pathsBelow path.segments (paths.map Path.segments)) = none ↔
      ¬∃ d, (f.pruned (paths.map Path.segments)).find? path.segments = some d := by
    simp [find?_pruned hf path.nonempty, hfind, hspared', Option.eq_none_iff_forall_ne_some]
  rw [hleft]
  rcases hg : c.group? with _ | g
  · -- a column that is no group is left
    refine iff_of_false (fun hnot => hnot ⟨c, ?_⟩) ?_
    · exact ((hasLeaf_pruned_iff hf path.nonempty).mpr ⟨⟨hfind, hg⟩, hspared'⟩).1
    · rintro ⟨⟨label, g, hgroup⟩, -⟩
      obtain rfl := Except.ok.inj (hc.symm.trans hgroup)
      exact absurd hg (by simp [Column.group?])
  · rw [Column.group?_eq_some_iff.mp hg] at hfind hc
    rw [isSome_find?_pruned_group hf path.nonempty hfind, pathsBelow_map_segments_ne_nil_iff]
    have hgroup : ∃ label g, f.find? path.segments = some (.group label g) := ⟨_, _, hfind⟩
    simp only [get_eq_ok_iff, Path.segments_child, hspared', hgroup, true_and, Classical.not_imp,
      not_exists, ne_eq]

/-- **What a mark means**: the column is listed, or a group that the removal empties. -/
theorem isRemoved_iff_listed_or_empties (hf : f.WellFormed) {c : Column} (hc : f.get path = .ok c)
    {removal : Removal} (hframe : removal.frame = f.pruned (paths.map Path.segments)) :
    (Spared (paths.map Path.segments) path.segments.dropLast ∧
        c.leave? (pathsBelow path.segments (paths.map Path.segments)) = none) ↔
      (path ∈ paths ∧ ∀ q ∈ paths, path.startsWith q → q = path) ∨
        removal.Empties f paths path := by
  rw [← outermost_map_segments_iff,
    outermost_iff_dropLast (nil_not_mem_map_segments paths) path.nonempty, Removal.Empties]
  by_cases hmem : path.segments ∈ paths.map Path.segments
  · -- the path is among those of the removal, so the group is not merely emptied
    have hnone : c.leave? (pathsBelow path.segments (paths.map Path.segments)) = none :=
      Column.leave?_eq_none_iff.mpr (Or.inl (mem_pathsBelow.mpr (by rwa [List.append_nil])))
    have hnot : ¬∀ q ∈ paths, ¬path.startsWith q := fun hspared =>
      spared_map_segments_iff.mpr hspared _ hmem path.nonempty (List.prefix_refl _)
    simp only [hnone, hmem, hnot, and_true, true_and, false_and, and_false, or_false]
  · have hdrop : Spared (paths.map Path.segments) path.segments.dropLast ↔
        ∀ q ∈ paths, ¬path.startsWith q := by
      rw [← spared_map_segments_iff, spared_iff_dropLast path.nonempty]
      exact ⟨fun h => ⟨hmem, h⟩, fun h => h.2⟩
    rw [hdrop, hframe]
    simp only [hmem, false_and, false_or]
    constructor
    · rintro ⟨hspared, hleave⟩
      obtain ⟨hg, hinto, hchild⟩ := (leave?_eq_none_iff_of_spared hf hc hspared).mp hleave
      exact ⟨hg, hspared, hinto, hchild⟩
    · rintro ⟨hg, hspared, hinto, hchild⟩
      exact ⟨hspared, (leave?_eq_none_iff_of_spared hf hc hspared).mpr ⟨hg, hinto, hchild⟩⟩

/-- Listed are the outermost of the paths. -/
theorem map_path_removed (hf : f.WellFormed) (hpaths : ∀ path ∈ paths, ∃ c, f.get path = .ok c) :
    (∀ path, path ∈ ((Column.takenAll (paths.map Path.segments) f.columns).map
        (fun e : Taken => e.2.1)) ↔ path ∈ paths ∧ ∀ q ∈ paths, path.startsWith q → q = path) ∧
      ((Column.takenAll (paths.map Path.segments) f.columns).map
        (fun e : Taken => e.2.1)).Sublist f.paths := by
  rw [map_path_takenAll f (nil_not_mem_map_segments paths)]
  refine ⟨fun path => ?_, List.filter_sublist⟩
  rw [List.mem_filter, decide_eq_true_eq, outermost_map_segments_iff, mem_paths hf]
  exact ⟨fun h => h.2, fun h => ⟨hpaths path h.1, h⟩⟩

end Success

/-- The parts of the answer to a removal of paths that resolve. -/
theorem fulfils (hf : f.WellFormed) (hpaths : ∀ path ∈ paths, ∃ c, f.get path = .ok c) :
    Removal.Fulfils
      { frame := f.pruned (paths.map Path.segments)
        removed := (Column.takenAll (paths.map Path.segments) f.columns).map fun e =>
          { path := e.2.1, column := e.2.2,
            node := (f.marked (paths.map Path.segments)).number e.1 }
        layout := f.marked (paths.map Path.segments) } f paths := by
  have ht : (f.marked (paths.map Path.segments)).children =
      f.columns.map (Column.marked (paths.map Path.segments)) := rfl
  obtain ⟨hlisted, horder⟩ := map_path_removed hf hpaths
  have hremoved : ((Column.takenAll (paths.map Path.segments) f.columns).map fun e : Taken =>
      ({ path := e.2.1, column := e.2.2,
         node := (f.marked (paths.map Path.segments)).number e.1 } : Removed)).map Removed.path =
        (Column.takenAll (paths.map Path.segments) f.columns).map fun e => e.2.1 := by
    rw [List.map_map]
    rfl
  constructor
  case leaf =>
    intro path c
    simp only [HasLeaf, get_eq_ok_iff, ← spared_map_segments_iff]
    exact hasLeaf_pruned_iff hf path.nonempty
  case group =>
    intro path label g hc
    rw [get_eq_ok_iff] at hc
    simp only [get_eq_ok_iff, ← spared_map_segments_iff, ← pathsBelow_map_segments_ne_nil_iff,
      Path.segments_child]
    exact isSome_find?_pruned_group hf path.nonempty hc
  case level =>
    intro names left hleft
    obtain ⟨whole, hwhole, rfl⟩ := groupAt?_of_pruned hf hleft
    exact ⟨whole, hwhole, names_pruned_sublist _ _, rfl⟩
  case listed => exact fun path => hremoved ▸ hlisted path
  case once => exact hremoved ▸ (nodup_paths hf).sublist horder
  case order => exact hremoved ▸ horder
  case entry =>
    refine List.forall_mem_map.mpr fun e he => ⟨?_, e.1, ?_, ?_⟩
    · exact get_eq_ok_iff.mpr (find?_of_mem_takenAll hf he)
    · obtain ⟨s, hs⟩ := at?_of_mem_takenAll hf ht he
      exact Layout.address?_number hs
    · exact addressOf?_of_mem_takenAll hf ht he
  case node =>
    intro path c hc
    obtain ⟨address, node, haddress, hnode, hnames⟩ :=
      exists_addressOf? hf ht (get_eq_ok_iff.mp hc)
    exact ⟨address, node, haddress, hnode, pathAt?_eq_some_iff.mpr hnames⟩
  case column =>
    intro address node hnode hne
    obtain ⟨⟨c, hc⟩, -⟩ := find?_namesTo hf ht hnode
    obtain ⟨i, rest, rfl⟩ := List.exists_cons_of_ne_nil hne
    obtain ⟨d, -, -, -, hnames⟩ := exists_column_of_at? ht hnode
    have hnames' : (f.marked (paths.map Path.segments)).namesTo (i :: rest) ≠ [] :=
      hnames ▸ List.cons_ne_nil _ _
    exact ⟨⟨_, hnames'⟩, c, pathAt?_eq_some_iff.mpr rfl, get_eq_ok_iff.mpr hc⟩
  case marked =>
    intro address node path hnode hpath
    rw [pathAt?_eq_some_iff] at hpath
    have hne : address ≠ [] := fun hnil => path.nonempty (by rw [← hpath, hnil]; rfl)
    obtain ⟨⟨c, hc⟩, -⟩ := find?_namesTo hf ht hnode
    rw [isRemoved_at? hf ht hne hnode hc, hremoved, hlisted path, hpath]
    rw [hpath] at hc
    exact isRemoved_iff_listed_or_empties hf (get_eq_ok_iff.mpr hc) rfl
  case root => rfl
  case resolves =>
    intro address node path hnode hpath
    rw [pathAt?_eq_some_iff] at hpath
    simp only [get_eq_ok_iff, ← hpath, find?_pruned_iff_unmarked hf ht hnode]
    -- the root is above every node, and has no mark
    refine forall₂_congr fun above habove => ⟨fun h n hn => ?_, fun h _ => h⟩
    rcases eq_or_ne above [] with rfl | hne
    · obtain rfl : f.marked (paths.map Path.segments) = n := by simpa using hn
      rfl
    · exact h hne n hn

/-- **What a removal promises.** It succeeds if and only if all paths resolve, fails like the first
that does not, and its answer agrees with the frame in all its parts. -/
theorem remove_fulfils (hf : f.WellFormed) (paths : List Path) :
    ((∃ removal, f.remove paths = .ok removal) ↔ ∀ path ∈ paths, ∃ c, f.get path = .ok c) ∧
      (∀ e, f.remove paths = .error e ↔ ∃ before path after, paths = before ++ path :: after ∧
        (∀ q ∈ before, ∃ c, f.get q = .ok c) ∧ f.get path = .error e) ∧
      ∀ removal, f.remove paths = .ok removal → removal.Fulfils f paths := by
  refine ⟨?_, fun e => remove_error_iff hf, fun removal hremoval => ?_⟩
  · constructor
    · rintro ⟨removal, hremoval⟩
      exact ((remove_eq_ok_iff hf).mp hremoval).1
    · exact fun hpaths => ⟨_, (remove_eq_ok_iff hf).mpr ⟨hpaths, rfl⟩⟩
  · obtain ⟨hpaths, rfl⟩ := (remove_eq_ok_iff hf).mp hremoval
    exact fulfils hf hpaths

/-- Two groups, one in the other, that are emptied by three paths of which two are the same. -/
theorem remove_fulfils_nested :
    let f : Frame :=
      ⟨[.group "g" ⟨[.ofTexts "x" [some "1"], .group "h" ⟨[.ofTexts "y" [none]], 1⟩], 1⟩,
        .ofTexts "a" [some "2"]], 1⟩
    let paths : List Path := [.below ["g", "h"] "y", .below ["g"] "x", .below ["g", "h"] "y"]
    f.WellFormed ∧ ∃ removal, f.remove paths = .ok removal ∧ removal.Fulfils f paths ∧
      removal.removed.map Removed.path = [.below ["g"] "x", .below ["g", "h"] "y"] ∧
      removal.frame.names = ["a"] := by
  intro f paths
  have hf : f.WellFormed := by
    simp [f, Frame.WellFormed, columnsWellFormed, Column.WellFormed, Column.ofTexts,
      Column.ofValues, cellsWellFormed, Value.ofText, Value.WellFormed, Column.name, Column.length]
  obtain ⟨removal, hremoval, hpaths, hnames⟩ : ∃ removal, f.remove paths = .ok removal ∧
      removal.removed.map Removed.path = [.below ["g"] "x", .below ["g", "h"] "y"] ∧
        removal.frame.names = ["a"] := ⟨_, rfl, rfl, rfl⟩
  exact ⟨hf, removal, hremoval, (remove_fulfils hf paths).2.2 removal hremoval, hpaths, hnames⟩

end Frame

end Colonnade
