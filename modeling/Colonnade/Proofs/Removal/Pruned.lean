import Colonnade.Proofs.Frame.Addresses
import Colonnade.Proofs.Outcome
import Colonnade.Proofs.Removal.Strip

/-!
# What a removal leaves of a frame

`Frame.pruned` is the frame that remains and `Frame.marked` the layout that goes with it. A removal
succeeds if all its paths resolve, and then it consists of these two and what was taken out
(`Frame.remove_eq_ok_iff`).

The two fit together in every group that is still there: its columns are what is left of the columns
it had, and the children of its node are their layouts (`Frame.groupAt?_pruned`).
-/

namespace Colonnade

namespace Frame

/-- **What is left of a frame**, which stays even if all its columns go. -/
def pruned (paths : List (List String)) (f : Frame) : Frame :=
  ⟨f.columns.filterMap (Column.prune? paths), f.rowCount⟩

/-- **The layout of a frame** with marks on what has gone. -/
def marked (paths : List (List String)) (f : Frame) : Layout :=
  .node "" false (f.columns.map (Column.marked paths))

variable {f : Frame} {paths : List (List String)}

@[simp] theorem pruned_nil (f : Frame) : f.pruned [] = f := by
  obtain ⟨columns, rowCount⟩ := f
  simp [pruned]

/-- The names that are left are those of the columns of which something is left. -/
theorem names_pruned (f : Frame) (paths : List (List String)) :
    (f.pruned paths).names =
      (f.columns.filter fun c => (c.prune? paths).isSome).map Column.name := by
  rw [names, pruned]
  induction f.columns with
  | nil => rfl
  | cons c cs ih =>
    cases h : c.prune? paths with
    | none => simpa [h] using ih
    | some d => simpa [h, Column.name_of_prune? h] using ih

theorem names_pruned_sublist (f : Frame) (paths : List (List String)) :
    (f.pruned paths).names.Sublist f.names := by
  rw [names_pruned, names]
  exact List.filter_sublist.map _

/-- What is left of the column of a name. -/
theorem column?_pruned (hf : f.names.Nodup) (name : String) :
    (f.pruned paths).column? name = (f.column? name).bind (Column.prune? paths) := by
  have hp : (f.pruned paths).names.Nodup := hf.sublist (names_pruned_sublist f paths)
  refine Option.ext fun d => ?_
  rw [column?_eq_some_iff hp, Option.bind_eq_some_iff]
  constructor
  · rintro ⟨hmem, rfl⟩
    obtain ⟨c, hc, hd⟩ := List.mem_filterMap.mp hmem
    exact ⟨c, (column?_eq_some_iff hf).mpr ⟨hc, (Column.name_of_prune? hd).symm⟩, hd⟩
  · rintro ⟨c, hc, hd⟩
    obtain ⟨hmem, rfl⟩ := (column?_eq_some_iff hf).mp hc
    exact ⟨List.mem_filterMap.mpr ⟨c, hmem, hd⟩, Column.name_of_prune? hd⟩

/-- What is left of well-formed columns makes a well-formed frame. -/
theorem wellFormed_pruned_of_columns (hf : f.WellFormed)
    (h : ∀ c ∈ f.columns, ∀ d, c.prune? paths = some d → d.WellFormed) :
    (f.pruned paths).WellFormed := by
  refine wellFormed_iff.mpr
    ⟨hf.nodup_names.sublist (names_pruned_sublist f paths), fun d hd => ?_, fun d hd => ?_⟩
  · obtain ⟨c, hc, hprune⟩ := List.mem_filterMap.mp hd
    rw [Column.length_of_prune? hprune]
    exact (wellFormed_iff.mp hf).2.1 c hc
  · obtain ⟨c, hc, hprune⟩ := List.mem_filterMap.mp hd
    exact h c hc d hprune

end Frame

/-- What is left of a well-formed column is well-formed. -/
theorem Column.wellFormed_of_prune? {paths : List (List String)} {c d : Column}
    (hc : c.WellFormed) (h : c.prune? paths = some d) : d.WellFormed := by
  induction c using groupInduction generalizing d paths with
  | leaf c hleaf =>
    obtain ⟨-, ⟨-, rfl⟩ | ⟨f, hf, -⟩⟩ := prune?_eq_some h
    · exact hc
    · exact absurd (hleaf.symm.trans hf) (by simp)
  | group label f ih =>
    obtain ⟨-, ⟨hleaf, -⟩ | ⟨g, hg, rfl⟩⟩ := prune?_eq_some h
    · exact absurd hleaf (by simp [group?])
    · obtain rfl : f = g := Option.some.inj hg
      have hf : f.WellFormed := (wellFormed_group _ _).mp hc
      refine (wellFormed_group _ _).mpr (Frame.wellFormed_pruned_of_columns hf fun c hmem d hd => ?_)
      exact ih c hmem (hf.of_mem hmem) hd

namespace Frame

variable {f : Frame}

theorem WellFormed.pruned (hf : f.WellFormed) (paths : List (List String)) :
    (f.pruned paths).WellFormed :=
  wellFormed_pruned_of_columns hf fun _ hc _ hd =>
    Column.wellFormed_of_prune? (hf.of_mem hc) hd

/-- **A removal of paths that resolve**, and what it consists of. -/
theorem remove_eq_ok_iff (hf : f.WellFormed) {paths : List Path} {removal : Removal} :
    f.remove paths = .ok removal ↔
      (∀ path ∈ paths, ∃ c, f.get path = .ok c) ∧
        removal =
          { frame := f.pruned (paths.map Path.segments)
            removed := (Column.takenAll (paths.map Path.segments) f.columns).map fun e =>
              { path := e.2.1, column := e.2.2,
                node := (f.marked (paths.map Path.segments)).number e.1 }
            layout := f.marked (paths.map Path.segments) } := by
  have hcheck : withRowCount (f.pruned (paths.map Path.segments)).columns f.rowCount =
      .ok (f.pruned (paths.map Path.segments)) := by
    have hwf := wellFormed_iff.mp (hf.pruned (paths.map Path.segments))
    exact withRowCount_eq_ok_iff.mpr ⟨rfl, hwf.1, hwf.2.1⟩
  have hresolve (path : Path) : discard (f.get path) = .ok ⟨⟩ ↔ ∃ c, f.get path = .ok c := by
    cases f.get path <;> simp [discard, Functor.discard, Functor.mapConst, Except.map]
  have hall : (paths.forM fun path => discard (f.get path)) = .ok ⟨⟩ ↔
      ∀ path ∈ paths, ∃ c, f.get path = .ok c := by
    rw [forM_eq_ok_iff]
    exact forall₂_congr fun path _ => hresolve path
  rw [remove, bind_eq_ok_iff, ← hall]
  simp only [Column.stripAll_eq, List.nil_append]
  constructor
  · rintro ⟨⟨⟩, hpaths, h⟩
    obtain ⟨frame, hframe, h⟩ := bind_eq_ok_iff.mp h
    obtain rfl := Except.ok.inj (hframe.symm.trans hcheck)
    exact ⟨hpaths, (Except.ok.inj h).symm⟩
  · rintro ⟨hpaths, rfl⟩
    exact ⟨⟨⟩, hpaths, bind_eq_ok_iff.mpr ⟨_, hcheck, rfl⟩⟩

section Children

variable {paths : List (List String)} {t : Layout} {i : Nat} {c : Column}
  (ht : t.children = f.columns.map (Column.marked paths)) (hf : f.names.Nodup)
  (hi : f.columns[i]? = some c)

include ht

/-- The layout has the names of the frame. -/
theorem map_name_children : t.children.map Layout.name = f.names := by
  rw [ht, List.map_map]
  exact List.map_congr_left fun c _ => Column.name_marked paths c

include hf

/-- **The layout keeps the names of what is left.** -/
theorem keeps_pruned : t.Keeps (f.pruned paths).names := by
  have hname (c : Column) : (Layout.name ∘ Column.marked paths) c = c.name :=
    Column.name_marked paths c
  refine ⟨map_name_children ht ▸ hf, ?_⟩
  rw [ht, List.filter_map, List.map_map, List.map_congr_left fun c _ => hname c, names_pruned]
  refine congrArg _ (List.filter_congr fun c _ => ?_)
  simp [Column.isRemoved_marked]

include hi

/-- The name of a column leads to its position in the layout. -/
theorem childIndex?_of_children : t.childIndex? c.name = some i := by
  have hget : t.children[i]? = some (c.marked paths) := by simp [ht, hi]
  have hindex := Layout.childIndex?_of_getElem? (map_name_children ht ▸ hf) hget
  rwa [Column.name_marked] at hindex

/-- And to its layout. -/
theorem child?_of_children : t.child? c.name = some (c.marked paths) := by
  rw [Layout.child?, childIndex?_of_children ht hf hi, Option.bind_some, ht, List.getElem?_map, hi]
  rfl

end Children

/-- **In every group that is still there, frame and layout fit together**: for some of the paths,
its columns are what is left of those it had, and the children of its node are their layouts. -/
theorem groupAt?_pruned (hf : f.WellFormed) {paths : List (List String)} {t : Layout}
    (ht : t.children = f.columns.map (Column.marked paths)) {names : List String} {old : Frame}
    (h : (f.pruned paths).groupAt? names = some old) :
    ∃ whole node inside, f.groupAt? names = some whole ∧ t.node? names = some node ∧
      old = whole.pruned inside ∧ node.children = whole.columns.map (Column.marked inside) := by
  induction names generalizing f paths t with
  | nil =>
    rw [groupAt?_nil, Option.some.injEq] at h
    exact ⟨f, t, paths, rfl, t.node?_nil, h.symm, ht⟩
  | cons name rest ih =>
    obtain ⟨d, inner, hd, hgroup, h⟩ := groupAt?_cons_eq_some_iff.mp h
    rw [column?_pruned hf.nodup_names] at hd
    obtain ⟨c, hc, hprune⟩ := Option.bind_eq_some_iff.mp hd
    obtain ⟨hmem, rfl⟩ := (column?_eq_some_iff hf.nodup_names).mp hc
    -- the column of the first name is still there, so it has not been taken as a whole
    obtain ⟨hthere, ⟨hleaf, rfl⟩ | ⟨g, hg, rfl⟩⟩ := Column.prune?_eq_some hprune
    · exact absurd (hleaf.symm.trans hgroup) (by simp)
    · obtain rfl : g.pruned (pathsThrough c.name paths) = inner := Option.some.inj hgroup
      obtain ⟨i, hi⟩ := List.getElem?_of_mem hmem
      have hchild := child?_of_children ht hf.nodup_names hi
      have hcg := Column.group?_eq_some_iff.mp hg
      have hchildren : (c.marked paths).children =
          g.columns.map (Column.marked (pathsThrough c.name paths)) := by
        conv_lhs => rw [hcg]
        exact Column.children_marked_group hthere
      obtain ⟨whole, node, inside, hwhole, hnode, hold, hmarked⟩ := ih ((hf.column hc).frame hg) hchildren h
      refine ⟨whole, node, inside, groupAt?_cons_eq_some_iff.mpr ⟨c, g, hc, hg, hwhole⟩, ?_, hold,
        hmarked⟩
      · rw [Layout.node?_cons, hchild, Option.bind_some, hnode]

end Frame

end Colonnade
