import Colonnade.Proofs.Removal.Gathering
import Colonnade.Proofs.Removal.Ungrouping

/-!
# Grouping and ungrouping

Columns side by side that are grouped become one column in their place, with all of them in it in the
order of the frame; and ungrouping puts them back where they were (`Frame.group_ungroup`). The name of
the group only has to differ from those of the columns that stay outside. It may be the name of one of the
columns in it: by the time the group is built, these have gone.

Both are moves, and what is common to them is an opening (`Opening`). Grouping leaves one of several
positions, and the group takes the first (`Frame.group_eq`). Ungrouping empties the group, which leaves one
of a single position, and all columns claim it (`Frame.ungroup_eq_replaceAt`); they are told apart by the
order in which they were taken out.
-/

namespace Colonnade

/-! ### Grouping -/

section Grouping

variable {f : Frame} {first run last : List Column} {name : String}

/-- Paths of columns side by side leave an opening. -/
theorem Opening.of_run {paths : List Path} (hf : f.WellFormed) (hcolumns : f.columns = first ++ run ++ last)
    (hpaths : ∀ path, path ∈ paths ↔ ∃ c ∈ run, path = Path.single c.name) :
    Opening f (paths.map Path.segments) first run last ∧
      ∀ c ∈ run, [] ∈ pathsThrough c.name (paths.map Path.segments) := by
  have hwhole : ∀ c ∈ run, [] ∈ pathsThrough c.name (paths.map Path.segments) := fun c hc =>
    mem_pathsThrough.mpr (List.mem_map.mpr ⟨.single c.name, (hpaths _).mpr ⟨c, hc, rfl⟩, rfl⟩)
  refine ⟨⟨hf, hcolumns, fun c hc => Column.prune?_of_mem (hwhole c hc), fun c hc => ?_⟩, hwhole⟩
  refine List.eq_nil_iff_forall_not_mem.mpr fun rest hrest => ?_
  obtain ⟨path, hpath, hsegments⟩ := List.mem_map.mp (mem_pathsThrough.mp hrest)
  obtain ⟨d, hd, rfl⟩ := (hpaths path).mp hpath
  have hdc : d.name = c.name := (List.cons.inj hsegments).1
  -- a column of the run has the name of one outside it
  have hnodup := hf.nodup_names
  rw [Frame.names, hcolumns, List.map_append, List.map_append, List.nodup_append,
    List.nodup_append] at hnodup
  obtain ⟨⟨-, -, hfirst⟩, -, hlast⟩ := hnodup
  have hdmem := List.mem_map_of_mem (f := Column.name) hd
  rcases List.mem_append.mp hc with hc | hc
  · exact hfirst _ (List.mem_map_of_mem hc) _ hdmem hdc.symm
  · exact hlast _ (List.mem_append_right _ hdmem) _ (List.mem_map_of_mem hc) hdc

/-- A frame stays well-formed if a group of a run of its columns takes their place, under a name that no
other column has. -/
theorem Frame.wellFormed_group_of_run (hf : f.WellFormed)
    (hcolumns : f.columns = first ++ run ++ last) (hname : ∀ c ∈ first ++ last, c.name ≠ name) :
    (Frame.mk run f.rowCount).WellFormed ∧
      (Frame.mk (first ++ [.group name ⟨run, f.rowCount⟩] ++ last) f.rowCount).WellFormed := by
  obtain ⟨hnodup, hlength, hinner⟩ := wellFormed_iff.mp hf
  rw [hcolumns] at hlength hinner
  rw [names, hcolumns] at hnodup
  have hsub : (first ++ last).Sublist (first ++ run ++ last) := by
    rw [List.append_assoc]
    exact (List.sublist_append_right run last).append_left first
  have hrun : run.Sublist (first ++ run ++ last) := by
    rw [List.append_assoc]
    exact (List.sublist_append_left run last).trans (List.sublist_append_right first _)
  have hgroup : (Frame.mk run f.rowCount).WellFormed :=
    wellFormed_iff.mpr ⟨hnodup.sublist (hrun.map _), fun c hc => hlength c (hrun.subset hc),
      fun c hc => hinner c (hrun.subset hc)⟩
  have hmem : ∀ c ∈ first ++ [Column.group name ⟨run, f.rowCount⟩] ++ last,
      c = .group name ⟨run, f.rowCount⟩ ∨ c ∈ first ++ run ++ last := by
    intro c hc
    simp only [List.mem_append, List.mem_singleton] at hc ⊢
    tauto
  refine ⟨hgroup, wellFormed_iff.mpr ⟨?_, fun c hc => ?_, fun c hc => ?_⟩⟩
  · have hperm : (first ++ [Column.group name ⟨run, f.rowCount⟩] ++ last).Perm
        (.group name ⟨run, f.rowCount⟩ :: (first ++ last)) := by
      rw [List.append_assoc]
      exact List.perm_middle
    refine (hperm.map Column.name).nodup_iff.mpr (List.nodup_cons.mpr ⟨?_, ?_⟩)
    · intro hmem
      obtain ⟨c, hc, hcn⟩ := List.mem_map.mp hmem
      exact hname c hc hcn
    · exact hnodup.sublist (hsub.map _)
  · rcases hmem c hc with rfl | hc
    · rfl
    · exact hlength c hc
  · rcases hmem c hc with rfl | hc
    · exact (Column.wellFormed_group _ _).mpr hgroup
    · exact hinner c hc

/-- **Grouping columns side by side** puts a group in their place. -/
theorem Frame.group_eq_ok {paths : List Path} (hf : f.WellFormed)
    (hcolumns : f.columns = first ++ run ++ last) (hrun : run ≠ [])
    (hpaths : ∀ path, path ∈ paths ↔ ∃ c ∈ run, path = Path.single c.name)
    (hname : ∀ c ∈ first ++ last, c.name ≠ name) :
    f.group paths name =
      .ok ⟨first ++ [.group name ⟨run, f.rowCount⟩] ++ last, f.rowCount⟩ := by
  obtain ⟨hopening, hwhole⟩ := Opening.of_run hf hcolumns hpaths
  have hresolves : ∀ path ∈ paths, ∃ c, f.get path = .ok c := by
    intro path hpath
    obtain ⟨c, hc, rfl⟩ := (hpaths path).mp hpath
    have hmem : c ∈ f.columns := by
      rw [hcolumns]
      exact List.mem_append_left _ (List.mem_append_right _ hc)
    refine ⟨c, get_eq_ok_iff.mpr ?_⟩
    rw [Path.segments_single, find?_cons, column?_name hf.nodup_names hmem, Option.bind_some,
      Column.descend?_nil]
  -- the columns are taken out as a whole, so the group takes the position of the first
  have hentries : Column.takenAll (paths.map Path.segments) f.columns =
      (run.zipIdx first.length).map fun e => ([e.2], Path.single e.1.name, e.1) := by
    rw [hcolumns, Column.takenAll_of_run hopening.kept, Column.flatMap_taken_of_whole hwhole]
  obtain ⟨c, rest, hcons⟩ := List.exists_cons_of_ne_nil hrun
  have hc : c ∈ run := hcons ▸ List.mem_cons_self
  have hfirst : f.FirstTouched (paths.map Path.segments) first.length c := by
    refine ⟨by simp [hcolumns, hcons], List.ne_nil_of_mem (hwhole c hc), fun j d hj hd => ?_⟩
    rw [hcolumns, List.append_assoc, List.getElem?_append_left hj] at hd
    exact hopening.kept d (List.mem_append_left last (List.mem_of_getElem? hd))
  have hslot : slot (paths.map Path.segments) first.length c = first.length := by
    rw [slot, hopening.gone c hc]
    rfl
  have hfree : name ∉ (f.pruned (paths.map Path.segments)).names := by
    rw [names, hopening.columns_pruned]
    intro hmem
    obtain ⟨d, hd, hdn⟩ := List.mem_map.mp hmem
    exact hname d hd hdn
  have hlast : ((Column.takenAll (paths.map Path.segments) f.columns).map
      fun e => e.2.1.last).Nodup := by
    have hnames : ((run.zipIdx first.length).map fun e => e.1).map Column.name =
        run.map Column.name := congrArg _ (List.zipIdx_map_fst _ _)
    have hsub : (run.map Column.name).Sublist f.names := by
      rw [names, hcolumns, List.append_assoc]
      exact ((List.sublist_append_left run last).trans (List.sublist_append_right first _)).map _
    rw [hentries, List.map_map]
    rw [List.map_map] at hnames
    exact hnames.symm ▸ hf.nodup_names.sublist hsub
  have hplace : ∀ e ∈ Column.takenAll (paths.map Path.segments) f.columns, e.1.length ≤ 1 := by
    rw [hentries]
    exact List.forall_mem_map.mpr fun e _ => Nat.le_refl 1
  have hgathered : ((Column.takenAll (paths.map Path.segments) f.columns).map fun e => e.2.2) = run := by
    rw [hentries, List.map_map]
    exact List.zipIdx_map_fst _ _
  rw [group_eq hf hresolves hfirst hfree (.inr hplace) hlast, hslot, hopening.leftBefore_eq,
    hopening.leftFrom_eq, hgathered]

end Grouping

/-! ### Ungrouping -/

section Ungrouping

variable {f g : Frame} {first run last : List Column} {name : String}

/-- **Ungrouping** puts the columns of a group in its place. -/
theorem Frame.ungroup_eq_ok (hg : g.WellFormed)
    (hcolumns : g.columns = first ++ [.group name ⟨run, g.rowCount⟩] ++ last) (hrun : run ≠ [])
    (hf : (Frame.mk (first ++ run ++ last) g.rowCount).WellFormed) :
    g.ungroup (.single name) = .ok ⟨first ++ run ++ last, g.rowCount⟩ := by
  have hlifts : Lifts g (Path.single name).last first run last := ⟨hcolumns, hrun, hf⟩
  exact ungroup_eq_replaceAt hlifts hg rfl

/-! ### There and back -/

/-- **Grouping then ungrouping is the identity.** Columns side by side, at least one, given in whatever
order and however often, are grouped under a name that no other column has, be it the name of one of them;
and when the group is taken apart again, the frame is what it was. -/
theorem Frame.group_ungroup (hf : f.WellFormed) (hcolumns : f.columns = first ++ run ++ last)
    (hrun : run ≠ []) {paths : List Path}
    (hpaths : ∀ path, path ∈ paths ↔ ∃ c ∈ run, path = Path.single c.name)
    (hname : ∀ c ∈ first ++ last, c.name ≠ name) :
    ∃ g, f.group paths name = .ok g ∧
      g.columns = first ++ [.group name ⟨run, f.rowCount⟩] ++ last ∧ g.rowCount = f.rowCount ∧
      g.ungroup (.single name) = .ok f := by
  obtain ⟨columns, rowCount⟩ := f
  obtain rfl : columns = first ++ run ++ last := hcolumns
  obtain ⟨-, hg⟩ := wellFormed_group_of_run hf rfl hname
  exact ⟨_, group_eq_ok hf rfl hrun hpaths hname, rfl, rfl, ungroup_eq_ok hg rfl hrun hf⟩

/-- A group and the column behind it, given the other way round, are grouped under the name of the
group. -/
theorem Frame.group_ungroup_same_name :
    let first := [Column.ofTexts "a" [some "1"]]
    let run := [Column.group "g" ⟨[.ofTexts "x" [none]], 1⟩, .ofTexts "b" [some "2"]]
    let last := [Column.ofTexts "c" [none]]
    let f : Frame := ⟨first ++ run ++ last, 1⟩
    let paths : List Path := [.single "b", .single "g"]
    (f.WellFormed ∧ run ≠ [] ∧ (∀ path, path ∈ paths ↔ ∃ c ∈ run, path = Path.single c.name) ∧
        ∀ c ∈ first ++ last, c.name ≠ "g") ∧
      ∃ g, f.group paths "g" = .ok g ∧
        g.columns = first ++ [.group "g" ⟨run, 1⟩] ++ last ∧ g.rowCount = 1 ∧
        g.ungroup (.single "g") = .ok f := by
  intro first run last f paths
  have hf : f.WellFormed := by
    simp [f, first, run, last, Frame.WellFormed, columnsWellFormed, Column.WellFormed,
      Column.ofTexts, Column.ofValues, cellsWellFormed, Value.ofText, Value.WellFormed, Column.name,
      Column.length]
  have hrun : run ≠ [] := List.cons_ne_nil _ _
  have hpaths : ∀ path, path ∈ paths ↔ ∃ c ∈ run, path = Path.single c.name := by
    simp [paths, run, Column.ofTexts, Column.ofValues, Column.name, or_comm]
  have hname : ∀ c ∈ first ++ last, c.name ≠ "g" := by
    simp [first, last, Column.ofTexts, Column.ofValues, Column.name]
  exact ⟨⟨hf, hrun, hpaths, hname⟩, group_ungroup hf rfl hrun hpaths hname⟩

end Ungrouping

end Colonnade
