import Colonnade.Proofs.Removal.Listing
import Colonnade.Proofs.Removal.Opening
import Colonnade.Proofs.Stack.Rows

/-!
# Groups taken apart

Ungrouping moves the columns of a group to the level of the group, at whatever depth it is. The group has
no part in the move. It goes because it loses its columns, and takes the groups around it along if it was
all they had; these are built again on the way to the level that its columns go to. At that level the
columns are put where the group was (`IsLeft.mergeBelow_eq`), and above it every level gets back what it
had, with one group in it that has changed (`Fills.mergeBelow_eq`). The frame that comes out is
`Frame.replaceAt`.

A group without columns is the exception. There is nothing to move, so the frame stays as it is, and the
group with it. `Frame.ungroup_lifts` has both cases.
-/

namespace Colonnade

/-! ### Another frame for a group -/

/-- A group with its frame changed; any other column as it is. -/
def Column.onFrame (h : Frame → Frame) : Column → Column
  | .group name f => .group name (h f)
  | c => c

/-- **The same frame with another frame for the group that names lead to.** -/
def Frame.replaceAt : Frame → List String → Frame → Frame
  | _, [], g => g
  | f, name :: rest, g =>
    ⟨f.columns.map fun c => if c.name = name then c.onFrame fun h => h.replaceAt rest g else c,
      f.rowCount⟩

namespace Frame

variable {f g inner level : Frame} {name : String} {rest names : List String}

@[simp] theorem replaceAt_nil (f g : Frame) : f.replaceAt [] g = g := rfl

@[simp] theorem rowCount_replaceAt_cons (f : Frame) (name : String) (rest : List String) (g : Frame) :
    (f.replaceAt (name :: rest) g).rowCount = f.rowCount := rfl

theorem name_replaceAt_column (name : String) (h : Frame → Frame) (c : Column) :
    (if c.name = name then c.onFrame h else c).name = c.name := by
  split
  · cases c <;> rfl
  · rfl

/-- The names of the level stay. -/
@[simp] theorem names_replaceAt_cons (f : Frame) (name : String) (rest : List String) (g : Frame) :
    (f.replaceAt (name :: rest) g).names = f.names := by
  rw [names, replaceAt, List.map_map]
  exact List.map_congr_left fun c _ => name_replaceAt_column name _ c

/-- A column of another name stays, and a group of the name has its frame changed. -/
theorem column?_replaceAt_cons (f : Frame) (name : String) (rest : List String) (g : Frame)
    (x : String) :
    (f.replaceAt (name :: rest) g).column? x =
      (f.column? x).map fun c =>
        if c.name = name then c.onFrame fun h => h.replaceAt rest g else c := by
  rw [column?, replaceAt, List.find?_map, column?]
  simp only [Function.comp_def, name_replaceAt_column]

/-- **The names lead to the other frame.** -/
theorem groupAt?_replaceAt (h : f.groupAt? names = some level) (g : Frame) :
    (f.replaceAt names g).groupAt? names = some g := by
  induction names generalizing f with
  | nil => rfl
  | cons name rest ih =>
    obtain ⟨c, inner, hc, hgroup, h⟩ := groupAt?_cons_eq_some_iff.mp h
    have hname : c.name = name := name_of_column?_eq_some hc
    rw [groupAt?_cons, column?_replaceAt_cons, hc, Option.map_some, if_pos hname, Option.bind_some,
      Column.group?_eq_some_iff.mp hgroup]
    exact ih h

/-- **What is neither around the group nor in it is as it was.** -/
theorem find?_replaceAt (h : f.groupAt? names = some level) (g : Frame) {other : List String}
    (hout : ¬names <+: other) (hin : ¬other <+: names) :
    (f.replaceAt names g).find? other = f.find? other := by
  induction names generalizing f other with
  | nil => exact absurd List.nil_prefix hout
  | cons name rest ih =>
    obtain ⟨x, tail, rfl⟩ := List.exists_cons_of_ne_nil fun hnil : other = [] =>
      hin (hnil ▸ List.nil_prefix)
    obtain ⟨c, inner, hc, hgroup, hrest⟩ := groupAt?_cons_eq_some_iff.mp h
    rw [find?_cons, find?_cons, column?_replaceAt_cons]
    by_cases hx : x = name
    · subst hx
      rw [List.cons_prefix_cons, and_iff_right rfl] at hout hin
      obtain ⟨y, tail, rfl⟩ := List.exists_cons_of_ne_nil fun hnil : tail = [] =>
        hin (hnil ▸ List.nil_prefix)
      rw [hc, Option.map_some, if_pos (name_of_column?_eq_some hc), Option.bind_some,
        Option.bind_some, Column.group?_eq_some_iff.mp hgroup]
      exact ih hrest hout hin
    · cases hd : f.column? x with
      | none => rfl
      | some d =>
        rw [Option.map_some, if_neg fun hdn => hx ((name_of_column?_eq_some hd).symm.trans hdn)]

/-- The frame stays well-formed if the other frame is and has the rows of the group. -/
theorem WellFormed.replaceAt (hf : f.WellFormed) (h : f.groupAt? names = some level)
    (hg : g.WellFormed) (hrows : g.rowCount = level.rowCount) :
    (f.replaceAt names g).WellFormed ∧ (f.replaceAt names g).rowCount = f.rowCount := by
  induction names generalizing f with
  | nil =>
    obtain rfl := Option.some.inj h
    exact ⟨hg, hrows⟩
  | cons name rest ih =>
    obtain ⟨c, inner, hc, hgroup, h⟩ := groupAt?_cons_eq_some_iff.mp h
    obtain ⟨hmem, hname⟩ := (column?_eq_some_iff hf.nodup_names).mp hc
    obtain ⟨hwf, hlength⟩ := ih ((hf.of_mem hmem).frame hgroup) h
    have hcolumn : ∀ d ∈ f.columns,
        (if d.name = name then d.onFrame fun h => h.replaceAt rest g else d).WellFormed ∧
          (if d.name = name then d.onFrame fun h => h.replaceAt rest g else d).length =
            f.rowCount := by
      intro d hd
      split
      next hdn =>
        obtain rfl : d = c :=
          List.inj_on_of_nodup_map hf.nodup_names hd hmem (hdn.trans hname.symm)
        have hdlength := hf.length_of_mem hd
        rw [Column.group?_eq_some_iff.mp hgroup] at hdlength ⊢
        exact ⟨(Column.wellFormed_group _ _).mpr hwf, hlength.trans hdlength⟩
      next => exact ⟨hf.of_mem hd, hf.length_of_mem hd⟩
    refine ⟨wellFormed_iff.mpr ⟨?_, List.forall_mem_map.mpr fun d hd => (hcolumn d hd).2,
      List.forall_mem_map.mpr fun d hd => (hcolumn d hd).1⟩, rfl⟩
    exact (names_replaceAt_cons f name rest g).symm ▸ hf.nodup_names

end Frame

/-! ### The columns of a group on their way -/

theorem pathsThrough_map_cons (name : String) (paths : List (List String)) :
    pathsThrough name (paths.map (name :: ·)) = paths := by
  rw [pathsThrough, List.filterMap_map]
  refine (List.filterMap_congr fun path _ => ?_).trans (List.filterMap_some)
  exact if_pos rfl

theorem pathsThrough_map_cons_of_ne {name other : String} (h : name ≠ other)
    (paths : List (List String)) : pathsThrough other (paths.map (name :: ·)) = [] := by
  rw [pathsThrough, List.filterMap_map]
  exact List.filterMap_eq_nil_iff.mpr fun path _ => if_neg h

/-- **A level with a group whose columns can take its place**: there are some, and their names differ from
those of the columns around the group. -/
structure Lifts (level : Frame) (label : String) (before run after : List Column) : Prop where
  columns : level.columns = before ++ [.group label ⟨run, level.rowCount⟩] ++ after
  nonempty : run ≠ []
  wellFormed : (Frame.mk (before ++ run ++ after) level.rowCount).WellFormed

/-- The paths of the columns of a group below `above`. -/
def innerPaths (above : List String) (label : String) (run : List Column) : List (List String) :=
  run.map fun c => above ++ [label, c.name]

theorem nil_not_mem_innerPaths (above : List String) (label : String) (run : List Column) :
    [] ∉ innerPaths above label run := by
  simp [innerPaths]

theorem innerPaths_nil (label : String) (run : List Column) :
    innerPaths [] label run = (run.map fun c => [c.name]).map (label :: ·) := by
  rw [innerPaths, List.map_map]
  rfl

theorem innerPaths_cons (name : String) (above : List String) (label : String) (run : List Column) :
    innerPaths (name :: above) label run = (innerPaths above label run).map (name :: ·) := by
  rw [innerPaths, innerPaths, List.map_map]
  rfl

/-- Past the name of the group they are the names of its columns, -/
theorem pathsThrough_innerPaths_nil (label : String) (run : List Column) :
    pathsThrough label (innerPaths [] label run) = run.map fun c => [c.name] := by
  rw [innerPaths_nil, pathsThrough_map_cons]

/-- and past the name of a group on the way they are the paths from there. -/
theorem pathsThrough_innerPaths_cons (name : String) (above : List String) (label : String)
    (run : List Column) :
    pathsThrough name (innerPaths (name :: above) label run) = innerPaths above label run := by
  rw [innerPaths_cons, pathsThrough_map_cons]

/-- What is taken out of a frame, on its way to the level below `above`. -/
def Frame.lifted (f : Frame) (above : List String) (paths : List (List String)) : List Taken :=
  (Column.takenAll paths f.columns).map (Taken.moved fun p => Path.below above p.last)

/-- The level is well-formed with the columns in the place of the group if their names are new there. -/
theorem Frame.wellFormed_lifted {level : Frame} {label : String} {before run after : List Column} {n : Nat}
    (hlevel : level.WellFormed) (hcolumns : level.columns = before ++ [.group label ⟨run, n⟩] ++ after)
    (hnames : ∀ c ∈ run, c.name ∉ (before ++ after).map Column.name) :
    (Frame.mk (before ++ run ++ after) level.rowCount).WellFormed := by
  obtain ⟨hnodup, hlength, hinner⟩ := wellFormed_iff.mp hlevel
  rw [hcolumns] at hlength hinner
  have hmem : Column.group label ⟨run, n⟩ ∈ before ++ [.group label ⟨run, n⟩] ++ after :=
    List.mem_append_left _ (List.mem_append_right _ (List.mem_singleton.mpr rfl))
  have hrun : (Frame.mk run n).WellFormed := (Column.wellFormed_group _ _).mp (hinner _ hmem)
  have hrows : n = level.rowCount := hlength _ hmem
  have hsub : (before ++ after).Sublist (before ++ [.group label ⟨run, n⟩] ++ after) := by
    rw [List.append_assoc]
    exact (List.sublist_append_right _ after).append_left before
  have hperm : (before ++ run ++ after).Perm (run ++ (before ++ after)) := by
    rw [List.append_assoc]
    exact List.perm_append_comm_assoc before run after
  refine wellFormed_iff.mpr ⟨?_, fun c hc => ?_, fun c hc => ?_⟩
  · refine (hperm.map Column.name).nodup_iff.mpr ?_
    rw [List.map_append, List.nodup_append]
    refine ⟨hrun.nodup_names, ?_, fun x hx y hy hxy => ?_⟩
    · rw [names, hcolumns] at hnodup
      exact hnodup.sublist (hsub.map _)
    · obtain ⟨c, hc, rfl⟩ := List.mem_map.mp hx
      exact hnames c hc (hxy ▸ hy)
  · rcases List.mem_append.mp (hperm.subset hc) with hc | hc
    · exact (hrun.length_of_mem hc).trans hrows
    · exact hlength c (hsub.subset hc)
  · rcases List.mem_append.mp (hperm.subset hc) with hc | hc
    · exact hrun.of_mem hc
    · exact hinner c (hsub.subset hc)

/-! ### The level of the group -/

section Level

variable {level : Frame} {label : String} {before run after : List Column}
variable (h : Lifts level label before run after) (hlevel : level.WellFormed)

include h hlevel

/-- Without its columns the group goes, and nothing else does. -/
theorem Lifts.opening :
    Opening level (innerPaths [] label run) before [.group label ⟨run, level.rowCount⟩] after := by
  have hinside := pathsThrough_innerPaths_nil label run
  have hthere : [] ∉ pathsThrough label (innerPaths [] label run) := by
    rw [hinside]
    simp
  have hempty : run.filterMap (Column.prune? (run.map fun c => [c.name])) = [] := by
    refine List.filterMap_eq_nil_iff.mpr fun c hc => Column.prune?_of_mem ?_
    exact mem_pathsThrough.mpr (List.mem_map_of_mem hc)
  refine ⟨hlevel, h.columns, List.forall_mem_singleton.mpr ?_, fun c hc => ?_⟩
  · rw [Column.prune?_group hthere, hinside, if_pos ⟨by simpa using h.nonempty, hempty⟩]
  · rw [innerPaths_nil]
    exact pathsThrough_map_cons_of_ne
      (Frame.name_ne_of_columns_around hlevel.nodup_names h.columns hc).symm _

/-- Its columns come from inside its position. -/
theorem Lifts.map_pending :
    (level.lifted [] (innerPaths [] label run)).map Taken.pending =
      run.zipIdx.map fun e => ⟨e.1.name, [], e.1, some [before.length, e.2]⟩ := by
  have hinside := pathsThrough_innerPaths_nil label run
  have hwhole : ∀ c ∈ run, [] ∈ pathsThrough c.name (pathsThrough label (innerPaths [] label run)) := by
    intro c hc
    rw [hinside]
    exact mem_pathsThrough.mpr (List.mem_map_of_mem hc)
  have hthere : [] ∉ pathsThrough label (innerPaths [] label run) := by
    rw [hinside]
    simp
  rw [Frame.lifted, h.columns, Column.takenAll_of_run (h.opening hlevel).kept, List.zipIdx_singleton,
    List.flatMap_singleton, Column.taken_group hthere, Column.takenAll,
    Column.flatMap_taken_of_whole hwhole, List.map_map, List.map_map, List.map_map, List.map_map]
  rfl

/-- **At their level the columns take the place of the group.** -/
theorem Lifts.mergeBelow_eq {t : Layout} (ht : t.children =
      level.columns.map (Column.marked (innerPaths [] label run))) {frame : Option Frame}
    (hframe : IsLeft frame level (innerPaths [] label run)) (depth : Nat) (way : List String) :
    Frame.mergeBelow (depth + 1) way (some t) frame
        ((level.lifted [] (innerPaths [] label run)).map Taken.pending) =
      .ok ⟨before ++ run ++ after, level.rowCount⟩ := by
  have hopening := h.opening hlevel
  have hputs : List.Forall₂ Pending.Puts
      ((level.lifted [] (innerPaths [] label run)).map Taken.pending) run := by
    rw [h.map_pending hlevel, List.forall₂_map_left_iff, List.forall₂_iff_get]
    refine ⟨by simp, fun i hi hi' => ?_⟩
    rw [List.get_eq_getElem, List.get_eq_getElem, List.getElem_zipIdx]
    exact ⟨rfl, rfl, rfl⟩
  have hnames := Frame.map_name_of_puts hputs
  have hdisjoint := h.wellFormed.nodup_names
  have hperm : (before ++ run ++ after).Perm (run ++ (before ++ after)) := by
    rw [List.append_assoc]
    exact List.perm_append_comm_assoc before run after
  rw [Frame.names, (hperm.map Column.name).nodup_iff, List.map_append, List.nodup_append] at hdisjoint
  obtain ⟨hnodup, -, hdisjoint⟩ := hdisjoint
  have hcolumns : before ++ run ++ after =
      level.leftBefore (innerPaths [] label run) before.length ++ run ++
        level.leftFrom (innerPaths [] label run) before.length := by
    rw [hopening.leftBefore_eq, hopening.leftFrom_eq]
  rw [hcolumns]
  refine hframe.mergeBelow_eq hlevel ht (hcolumns ▸ h.wellFormed) h.nonempty ?_ (fun c hc => ?_)
    fun c hc => ?_
  · rw [hnames, eraseDups_of_nodup hnodup]
  · -- all of them are anchored at the group
    refine Part.anchor?_eq_some (fun hnil => ?_) fun p hp => ?_
    · exact Part.named_members_eq_nil.mp hnil (hnames ▸ List.mem_map_of_mem hc)
    · have hp' := (Part.mem_named.mp hp).1
      rw [h.map_pending hlevel] at hp'
      obtain ⟨e, -, rfl⟩ := List.mem_map.mp hp'
      have hcolumn : level.columns[before.length]? = some (.group label ⟨run, level.rowCount⟩) := by
        simp [h.columns]
      rw [Frame.anchor?_of_place ht hcolumn rfl,
        hopening.gone _ (List.mem_singleton.mpr rfl)]
      rfl
  · refine Frame.join_of_puts hputs hnodup hc ?_
    -- outside the group no column has the name
    rw [Frame.column?_eq_none_iff, hframe.names_eq, Frame.names, hopening.columns_pruned]
    intro hmem
    exact hdisjoint _ (List.mem_map_of_mem hc) _ hmem rfl

end Level

/-! ### The levels above -/

section Above

variable {f g : Frame} {first last : List Column} {name label : String} {above : List String}
variable {run : List Column} (hf : f.WellFormed)
variable (hcolumns : f.columns = first ++ [.group name g] ++ last)

include hf hcolumns

/-- No path leads to or into the columns around the group. -/
theorem pathsThrough_innerPaths_of_mem {c : Column} (hc : c ∈ first ++ last) :
    pathsThrough c.name (innerPaths (name :: above) label run) = [] := by
  rw [innerPaths_cons]
  exact pathsThrough_map_cons_of_ne
    (Frame.name_ne_of_columns_around hf.nodup_names hcolumns hc).symm _

/-- What is taken out of a frame is taken out of the group on the way, and goes back into it. -/
theorem lifted_cons :
    f.lifted (name :: above) (innerPaths (name :: above) label run) =
      (g.lifted above (innerPaths above label run)).map (Taken.under [name] [first.length]) := by
  have hinside := pathsThrough_innerPaths_cons name above label run
  have hthere : [] ∉ pathsThrough name (innerPaths (name :: above) label run) :=
    hinside ▸ nil_not_mem_innerPaths above label run
  have hmoved (e : Taken) :
      Taken.moved (fun p => Path.below (name :: above) p.last)
          (Taken.under [] [first.length] (Taken.under [name] [] e)) =
        Taken.under [name] [first.length] (Taken.moved (fun p => Path.below above p.last) e) := by
    simp only [Taken.moved, Taken.under, Path.last_under]
    simp [Path.under, Path.below]
  rw [Frame.lifted, hcolumns, Column.takenAll_of_run fun c hc =>
    pathsThrough_innerPaths_of_mem hf hcolumns hc, List.zipIdx_singleton, List.flatMap_singleton,
    Column.taken_group hthere, hinside, Frame.lifted, List.map_map, List.map_map, List.map_map]
  exact List.map_congr_left fun e _ => hmoved e

/-- All of it has the name of the group, -/
theorem name_of_mem_lifted {e : Taken}
    (he : e ∈ f.lifted (name :: above) (innerPaths (name :: above) label run)) :
    e.pending.name = name := by
  rw [lifted_cons hf hcolumns] at he
  obtain ⟨e, -, rfl⟩ := List.mem_map.mp he
  rfl

theorem named_lifted (above : List String) (label : String) (run : List Column) :
    Taken.named (f.lifted (name :: above) (innerPaths (name :: above) label run)) name =
      (g.lifted above (innerPaths above label run)).map (Taken.under [name] [first.length]) := by
  rw [← lifted_cons hf hcolumns, Taken.named, List.filter_eq_self]
  intro e he
  simp [Taken.head?_segments, name_of_mem_lifted hf hcolumns he]

/-- and the position of the group. -/
theorem fills_lifted {t : Layout}
    (ht : t.children = f.columns.map (Column.marked (innerPaths (name :: above) label run))) :
    Fills f (innerPaths (name :: above) label run) t f.names
      (f.lifted (name :: above) (innerPaths (name :: above) label run)) := by
  have hname {i : Nat} {c : Column} (hi : f.columns[i]? = some c) : f.names[i]? = some c.name := by
    rw [Frame.names, List.getElem?_map, hi, Option.map_some]
  have hi : f.columns[first.length]? = some (.group name g) := by simp [hcolumns]
  refine ⟨ht, hf.nodup_names, hf.nodup_names, fun i c hi _ => hname hi, ?_⟩
  rw [lifted_cons hf hcolumns]
  exact List.forall_mem_map.mpr fun e _ => ⟨first.length, _, e.1, hi, hname hi, rfl⟩

end Above

section Way

variable {level f : Frame} {label : String} {before run after : List Column} {above : List String}
variable (h : Lifts level label before run after) (hf : f.WellFormed)
variable (hlevel : f.groupAt? above = some level)

include h hf hlevel

/-- The names lead to the group. -/
theorem Lifts.find? :
    f.find? (above ++ [label]) = some (.group label ⟨run, level.rowCount⟩) := by
  have hmem : Column.group label ⟨run, level.rowCount⟩ ∈ level.columns := by
    rw [h.columns]
    exact List.mem_append_left _ (List.mem_append_right _ (List.mem_singleton.mpr rfl))
  rw [Frame.find?_concat hlevel]
  exact Frame.column?_name (hf.groupAt hlevel).nodup_names hmem

/-- The paths of its columns resolve. -/
theorem Lifts.resolves : f.Resolves (innerPaths above label run) := by
  refine List.forall_mem_map.mpr fun c hc => ⟨by simp, c, ?_⟩
  have hfind := h.find? hf hlevel
  have hgroup : f.groupAt? (above ++ [label]) = some ⟨run, level.rowCount⟩ := by
    rw [Frame.groupAt?, hfind]
    rfl
  have hnodup : (Frame.mk run level.rowCount).names.Nodup := (hf.groupAt hgroup).nodup_names
  rw [← List.singleton_append, ← List.append_assoc, Frame.find?_concat hgroup]
  exact Frame.column?_name hnodup hc

/-- So something is taken out. -/
theorem Lifts.lifted_ne_nil : f.lifted above (innerPaths above label run) ≠ [] := by
  refine mt List.map_eq_nil_iff.mp (Column.takenAll_ne_nil hf (h.resolves hf hlevel) ?_)
  exact mt List.map_eq_nil_iff.mp h.nonempty

/-- And a merge that is as deep as its paths has a level for it. -/
theorem Lifts.exists_succ_eq {depth : Nat}
    (hdepth : ∀ e ∈ f.lifted above (innerPaths above label run), e.names.length ≤ depth) :
    ∃ d, depth = d + 1 := by
  obtain ⟨e, he⟩ := List.exists_mem_of_ne_nil _ (h.lifted_ne_nil hf hlevel)
  have hpos : 0 < e.names.length := List.length_pos_iff.mpr e.2.1.nonempty
  have hle := hdepth e he
  exact ⟨depth - 1, by omega⟩

end Way

/-- **Columns that are lifted out of a group come to the level of the group**, by induction on the way
there. -/
theorem Lifts.mergeBelow_replaceAt {level : Frame} {label : String} {before run after : List Column}
    (h : Lifts level label before run after) {above : List String} {f : Frame} (hf : f.WellFormed)
    (hlevel : f.groupAt? above = some level) {t : Layout}
    (ht : t.children = f.columns.map (Column.marked (innerPaths above label run)))
    {frame : Option Frame} (hframe : IsLeft frame f (innerPaths above label run)) {depth : Nat}
    (hdepth : ∀ e ∈ f.lifted above (innerPaths above label run), e.names.length ≤ depth)
    (way : List String) :
    Frame.mergeBelow depth way (some t) frame
        ((f.lifted above (innerPaths above label run)).map Taken.pending) =
      .ok (f.replaceAt above ⟨before ++ run ++ after, level.rowCount⟩) := by
  induction above generalizing f t frame depth way with
  | nil =>
    obtain ⟨d, rfl⟩ := h.exists_succ_eq hf hlevel hdepth
    obtain rfl := Option.some.inj hlevel
    exact h.mergeBelow_eq hf ht hframe d way
  | cons name above ih =>
    obtain ⟨d, rfl⟩ := h.exists_succ_eq hf hlevel hdepth
    obtain ⟨c, g, hc, hgroup, hrest⟩ := Frame.groupAt?_cons_eq_some_iff.mp hlevel
    have hmem := Frame.mem_of_column?_eq_some hc
    obtain rfl : c = .group name g :=
      (Frame.name_of_column?_eq_some hc : c.name = name) ▸ Column.group?_eq_some_iff.mp hgroup
    have hgwf : g.WellFormed := (Column.wellFormed_group _ _).mp (hf.of_mem hmem)
    obtain ⟨first, last, hcolumns⟩ := Frame.exists_columns_around hmem
    have hi : f.columns[first.length]? = some (.group name g) := by simp [hcolumns]
    have hinside := pathsThrough_innerPaths_cons name above label run
    have hthere : [] ∉ pathsThrough name (innerPaths (name :: above) label run) :=
      hinside ▸ nil_not_mem_innerPaths above label run
    have hfills := fills_lifted hf hcolumns ht
    have hnamed := named_lifted hf hcolumns above label run
    -- the group on the way gets what its own level says
    have hinner : ∀ frame, IsLeft frame g (pathsThrough name (innerPaths (name :: above) label run)) →
        Frame.mergeBelow d (way ++ [name])
          (some ((Column.group name g).marked (innerPaths (name :: above) label run))) frame
          ((g.lifted above (innerPaths above label run)).map Taken.pending) =
            .ok (g.replaceAt above ⟨before ++ run ++ after, level.rowCount⟩) := by
      intro frame hframe
      have hchildren := Column.children_marked_group (f := g) hthere
      rw [hinside] at hframe hchildren
      exact ih hgwf hrest hchildren hframe (Taken.length_names_le_of_named hnamed hdepth) _
    refine (hfills.mergeBelow_eq hframe (h.lifted_ne_nil hf hlevel) ?_
      (Frame.rowCount_replaceAt_cons f name above _) ?_ fun x => ?_).1
    · exact (hf.replaceAt hlevel h.wellFormed rfl).1
    · rw [Frame.names_replaceAt_cons]
    · rw [Frame.column?_replaceAt_cons]
      by_cases hx : x = name
      · subst hx
        rw [hfills.join_of_group hframe hi hthere (h.lifted_ne_nil hgwf hrest) hnamed hinner, hc,
          Option.map_some, if_pos (show (Column.group x g).name = x from rfl)]
        rfl
      · by_cases hmemx : x ∈ f.names
        · obtain ⟨c, hcx, rfl⟩ := List.mem_map.mp hmemx
          have hnone : Taken.named (f.lifted (name :: above) (innerPaths (name :: above) label run))
              c.name = [] := List.filter_eq_nil_iff.mpr fun e he => by
            simpa [Taken.head?_segments, name_of_mem_lifted hf hcolumns he] using Ne.symm hx
          rw [hfills.join_of_named_eq_nil hframe hcx hnone, Frame.column?_name hf.nodup_names hcx,
            Option.map_some, if_neg hx, Column.prune?_of_pathsThrough_eq_nil]
          rw [innerPaths_cons]
          exact pathsThrough_map_cons_of_ne (Ne.symm hx) _
        · rw [hfills.join_of_not_mem hframe hmemx, Frame.column?_eq_none_iff.mpr hmemx]
          rfl

/-! ### Ungrouping -/

/-- The path of a column beside the group at `path`. -/
theorem Path.eq_below_of_parent? (path p : Path) :
    (match path.parent? with
      | some parent => parent.child p.last
      | none => Path.single p.last) = Path.below path.segments.dropLast p.last := by
  rw [Path.parent?, Path.ofSegments?]
  by_cases h : path.segments.dropLast ≠ []
  · rw [dif_pos h]
    rfl
  · rw [dif_neg h, not_not.mp h]
    rfl

namespace Frame

variable {f level : Frame} {path : Path}

theorem get_eq_ok_iff_concat {c : Column} :
    f.get path = .ok c ↔ f.find? (path.segments.dropLast ++ [path.last]) = some c := by
  rw [Path.last, List.dropLast_concat_getLast, get_eq_ok_iff]

/-- Ungrouping is a move. -/
theorem ungroup_eq_move {label : String} {inner : Frame} (h : f.get path = .ok (.group label inner)) :
    f.ungroup path =
      f.move (inner.names.map path.child) fun p => .below path.segments.dropLast p.last := by
  rw [ungroup, h]
  exact congrArg (f.move _) (funext fun p => path.eq_below_of_parent? p)

/-- **Ungrouping puts the columns of a group in its place**, at whatever depth it is. -/
theorem ungroup_eq_replaceAt {before run after : List Column}
    (h : Lifts level path.last before run after) (hf : f.WellFormed)
    (hlevel : f.groupAt? path.segments.dropLast = some level) :
    f.ungroup path =
      .ok (f.replaceAt path.segments.dropLast ⟨before ++ run ++ after, level.rowCount⟩) := by
  have hget : f.get path = .ok (.group path.last ⟨run, level.rowCount⟩) :=
    get_eq_ok_iff_concat.mpr (h.find? hf hlevel)
  set paths := (Frame.mk run level.rowCount).names.map path.child with hpaths
  have hsegments : paths.map Path.segments =
      innerPaths path.segments.dropLast path.last run := by
    rw [hpaths, names, List.map_map, List.map_map, innerPaths]
    refine List.map_congr_left fun c _ => ?_
    have hway : path.segments = path.segments.dropLast ++ [path.last] :=
      (List.dropLast_concat_getLast path.nonempty).symm
    rw [Function.comp_apply, Function.comp_apply, Path.segments_child, hway]
    simp
  have hresolves : ∀ q ∈ paths, ∃ c, f.get q = .ok c := by
    intro q hq
    obtain ⟨-, c, hc⟩ := h.resolves hf hlevel _ (hsegments ▸ List.mem_map_of_mem hq)
    exact ⟨c, get_eq_ok_iff.mpr hc⟩
  obtain ⟨depth, hdepth, hmove⟩ :=
    move_eq_mergeBelow hf hresolves fun p => .below path.segments.dropLast p.last
  have hentries : (f.movedEntries paths fun p => .below path.segments.dropLast p.last) =
      f.lifted path.segments.dropLast (innerPaths path.segments.dropLast path.last run) := by
    rw [movedEntries, lifted, hsegments]
  rw [hentries] at hdepth hmove
  rw [hsegments] at hmove
  rw [ungroup_eq_move hget, hmove]
  exact h.mergeBelow_replaceAt hf hlevel rfl ⟨rfl, fun _ => rfl⟩ hdepth []

/-- A group without columns stays. -/
theorem ungroup_of_columns_eq_nil (hf : f.WellFormed) {label : String} {inner : Frame}
    (h : f.get path = .ok (.group label inner)) (hinner : inner.columns = []) :
    f.ungroup path = .ok f := by
  have hnone : inner.names.map path.child = [] := by rw [names, hinner]; rfl
  rw [ungroup_eq_move h, hnone, move, (remove_eq_ok_iff hf).mpr ⟨by simp, rfl⟩]
  show merge (some (f.pruned [])) (((Column.takenAll [] f.columns).map _).map _) _ = .ok f
  rw [Column.takenAll_nil, pruned_nil]
  exact merge_nil (some f) _

/-- **Ungrouping replaces a group by its columns, if it has any.** Let a path lead to a group, at whatever
depth, whose columns have other names than the columns around the group. If there are columns in it, the
level of the group comes to have them in its place, in their order, and everything else is as it was:
`replaceAt` says so of the whole frame, and every column that is neither around the group nor at its level
or below is as before. If there are none, all is as it was, and the group is still there. A path that
leads to any other column is an error. -/
theorem ungroup_lifts (hf : f.WellFormed) (path : Path) :
    (∀ c, f.get path = .ok c → c.group? = none →
      f.ungroup path = .error (.notAColumnGroup path)) ∧
    ∀ label inner, f.get path = .ok (.group label inner) →
      ∃ level before after, f.groupAt? path.segments.dropLast = some level ∧
        level.columns = before ++ [.group label inner] ++ after ∧
        ((∀ c ∈ inner.columns, c.name ∉ (before ++ after).map Column.name) →
          (inner.columns ≠ [] → ∃ g, f.ungroup path = .ok g ∧
            g = f.replaceAt path.segments.dropLast
              ⟨before ++ inner.columns ++ after, level.rowCount⟩ ∧
            g.groupAt? path.segments.dropLast =
              some ⟨before ++ inner.columns ++ after, level.rowCount⟩ ∧
            ∀ other, ¬path.segments.dropLast <+: other → ¬other <+: path.segments.dropLast →
              g.find? other = f.find? other) ∧
          (inner.columns = [] → f.ungroup path = .ok f)) := by
  constructor
  · intro c hc hleaf
    rw [ungroup, hc]
    cases c with
    | group label inner => exact absurd hleaf (by simp [Column.group?])
    | value _ _ _ _ => rfl
    | frames _ _ => rfl
  · intro label inner hget
    have hfind := get_eq_ok_iff_concat.mp hget
    obtain ⟨level, hlevel⟩ := exists_groupAt?_of_concat hfind
    rw [find?_concat hlevel] at hfind
    have hmem := mem_of_column?_eq_some hfind
    obtain rfl : label = path.last := name_of_column?_eq_some hfind
    obtain ⟨before, after, hcolumns⟩ := exists_columns_around hmem
    refine ⟨level, before, after, hlevel, hcolumns, fun hnames =>
      ⟨fun hne => ⟨_, ?_, rfl, ?_, fun other => ?_⟩, ungroup_of_columns_eq_nil hf hget⟩⟩
    · have hwf := hf.groupAt hlevel
      obtain ⟨run, n⟩ := inner
      obtain rfl : n = level.rowCount := hwf.length_of_mem hmem
      exact ungroup_eq_replaceAt ⟨hcolumns, hne, wellFormed_lifted hwf hcolumns hnames⟩ hf hlevel
    · exact groupAt?_replaceAt hlevel _
    · exact find?_replaceAt hlevel _

/-- A group with a column of its own name, which is all there is in the group around it; a group without
columns; and a column that is no group. -/
theorem ungroup_lifts_nested :
    let f : Frame :=
      ⟨[.group "q" ⟨[.group "p" ⟨[.ofTexts "p" [some "1"], .ofTexts "x" [none]], 1⟩], 1⟩,
        .group "e" ⟨[], 1⟩, .ofTexts "a" [some "2"]], 1⟩
    f.WellFormed ∧
      f.ungroup (.below ["q"] "p") = .ok
        ⟨[.group "q" ⟨[.ofTexts "p" [some "1"], .ofTexts "x" [none]], 1⟩, .group "e" ⟨[], 1⟩,
          .ofTexts "a" [some "2"]], 1⟩ ∧
      f.ungroup (.single "e") = .ok f ∧
      f.ungroup (.single "a") = .error (.notAColumnGroup (.single "a")) := by
  intro f
  have hf : f.WellFormed := by
    simp [f, Frame.WellFormed, columnsWellFormed, Column.WellFormed, Column.ofTexts,
      Column.ofValues, cellsWellFormed, Value.ofText, Value.WellFormed, Column.name, Column.length]
  refine ⟨hf, ?_, ?_, (ungroup_lifts hf (.single "a")).1 _ rfl rfl⟩
  · obtain ⟨level, before, after, hlevel, hcolumns, h⟩ :=
      (ungroup_lifts hf (.below ["q"] "p")).2 _ _ rfl
    obtain rfl := Option.some.inj hlevel
    -- there is nothing around the group
    obtain ⟨rfl, rfl⟩ : before = [] ∧ after = [] := by
      rcases before with _ | ⟨c, before⟩
      · exact ⟨rfl, (List.cons.inj hcolumns).2.symm⟩
      · exact absurd (congrArg List.length (List.cons.inj hcolumns).2) (by simp)
    obtain ⟨g, hg, rfl, -⟩ := (h fun _ _ => List.not_mem_nil).1 (List.cons_ne_nil _ _)
    exact hg
  · obtain ⟨level, before, after, -, -, h⟩ := (ungroup_lifts hf (.single "e")).2 _ _ rfl
    exact (h fun _ hc => absurd hc List.not_mem_nil).2 rfl

end Frame

end Colonnade
