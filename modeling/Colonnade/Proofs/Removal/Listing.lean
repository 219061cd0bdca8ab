import Colonnade.Proofs.Removal.Pruned

/-!
# All paths of a frame, and those that a removal lists

`Frame.paths` lists the paths of all columns of a frame depth first, a group before its columns. In a
well-formed frame it has the paths that resolve, each of them once (`Frame.mem_paths`,
`Frame.nodup_paths`).

A removal lists those of its own paths that lead into no column that goes as a whole, and it lists
them as they come in `Frame.paths`: `Frame.map_path_takenAll`.
-/

namespace Colonnade

/-! ### Paths depth first -/

mutual

/-- The path of a column and those of the columns inside it, counted from where the column is. -/
def Column.paths : Column → List Path
  | .value name _ _ _ => [.single name]
  | .frames name _ => [.single name]
  | .group name ⟨columns, _⟩ => .single name :: (Column.pathsAll columns).map (Path.under [name])

/-- The paths of columns side by side. -/
def Column.pathsAll : List Column → List Path
  | [] => []
  | c :: cs => c.paths ++ Column.pathsAll cs

end

/-- **The paths of all columns of a frame**, groups and others, depth first. -/
def Frame.paths (f : Frame) : List Path :=
  Column.pathsAll f.columns

@[simp] theorem Path.under_nil (p : Path) : p.under [] = p := rfl

theorem Path.under_injective (above : List String) : Function.Injective (Path.under above) := by
  intro p q h
  have hsegments : above ++ p.segments = above ++ q.segments := congrArg Path.segments h
  exact Path.ext (List.append_cancel_left hsegments)

namespace Column

variable {c : Column} {cs : List Column}

theorem pathsAll_eq_flatMap (cs : List Column) : pathsAll cs = cs.flatMap paths := by
  induction cs with
  | nil => rfl
  | cons c cs ih => rw [pathsAll, ih, List.flatMap_cons]

theorem paths_leaf (hc : c.group? = none) : c.paths = [.single c.name] := by
  cases c with
  | group label f => exact absurd hc (by simp [group?])
  | value _ _ _ _ => rw [paths, name]
  | frames _ _ => rw [paths, name]

theorem paths_group (label : String) (f : Frame) :
    (group label f).paths = .single label :: f.paths.map (Path.under [label]) := by
  obtain ⟨columns, rowCount⟩ := f
  rw [paths]
  rfl

/-- Every path of a column begins with its name. -/
theorem exists_segments_of_mem_paths {p : Path} (hp : p ∈ c.paths) :
    ∃ rest, p.segments = c.name :: rest := by
  rcases hc : c.group? with _ | f
  · rw [paths_leaf hc, List.mem_singleton] at hp
    exact ⟨[], by rw [hp]; rfl⟩
  · rw [group?_eq_some_iff.mp hc, paths_group] at hp
    rcases List.mem_cons.mp hp with rfl | hp
    · exact ⟨[], rfl⟩
    · obtain ⟨q, -, rfl⟩ := List.mem_map.mp hp
      exact ⟨q.segments, rfl⟩

end Column

namespace Frame

variable {f : Frame}

/-- The paths of a frame are those that resolve, if this is so for the columns in it. -/
theorem mem_paths_of_columns (hf : f.names.Nodup) (h : ∀ c ∈ f.columns, ∀ p : Path, p ∈ c.paths ↔
      ∃ rest, p.segments = c.name :: rest ∧ ∃ d, c.descend? rest = some d) (p : Path) :
    p ∈ f.paths ↔ ∃ d, f.find? p.segments = some d := by
  rw [paths, Column.pathsAll_eq_flatMap, List.mem_flatMap]
  constructor
  · rintro ⟨c, hc, hp⟩
    obtain ⟨rest, hrest, d, hd⟩ := (h c hc p).mp hp
    exact ⟨d, by rw [hrest, find?_cons, column?_name hf hc, Option.bind_some, hd]⟩
  · rintro ⟨d, hd⟩
    obtain ⟨name, rest, hsegments⟩ := List.exists_cons_of_ne_nil p.nonempty
    rw [hsegments, find?_cons] at hd
    obtain ⟨c, hcol, hd⟩ := Option.bind_eq_some_iff.mp hd
    have hc := mem_of_column?_eq_some hcol
    have hname : c.name = name := name_of_column?_eq_some hcol
    exact ⟨c, hc, (h c hc p).mpr ⟨rest, hname ▸ hsegments, d, hd⟩⟩

end Frame

/-- The paths of a column are those that lead to it or into it. -/
theorem Column.mem_paths {c : Column} (hc : c.WellFormed) (p : Path) : p ∈ c.paths ↔
    ∃ rest, p.segments = c.name :: rest ∧ ∃ d, c.descend? rest = some d := by
  induction c using groupInduction generalizing p with
  | leaf c hleaf =>
    rw [paths_leaf hleaf, List.mem_singleton]
    constructor
    · rintro rfl
      exact ⟨[], rfl, c, descend?_nil c⟩
    · rintro ⟨_ | ⟨name, rest⟩, hrest, d, hd⟩
      · exact Path.ext hrest
      · rw [descend?_cons_of_group?_eq_none hleaf] at hd
        exact absurd hd (by simp)
  | group label g ih =>
    have hg : g.WellFormed := (wellFormed_group _ _).mp hc
    have hinner := Frame.mem_paths_of_columns hg.nodup_names fun c hcg => ih c hcg (hg.of_mem hcg)
    rw [paths_group, List.mem_cons, List.mem_map]
    constructor
    · rintro (rfl | ⟨q, hq, rfl⟩)
      · exact ⟨[], rfl, _, descend?_nil _⟩
      · obtain ⟨d, hd⟩ := (hinner q).mp hq
        obtain ⟨name, rest, hsegments⟩ := List.exists_cons_of_ne_nil q.nonempty
        refine ⟨q.segments, rfl, d, ?_⟩
        rw [hsegments] at hd ⊢
        exact hd
    · rintro ⟨rest, hrest, d, hd⟩
      rcases eq_or_ne rest [] with rfl | hne
      · exact Or.inl (Path.ext hrest)
      · obtain ⟨name, tail, rfl⟩ := List.exists_cons_of_ne_nil hne
        exact Or.inr ⟨⟨name :: tail, hne⟩, (hinner _).mpr ⟨d, hd⟩, Path.ext hrest.symm⟩

/-- Columns side by side share no path. -/
theorem Column.nodup_pathsAll {cs : List Column} (hcs : (cs.map name).Nodup)
    (h : ∀ c ∈ cs, c.paths.Nodup) : (pathsAll cs).Nodup := by
  rw [pathsAll_eq_flatMap, List.nodup_flatMap]
  refine ⟨h, (List.pairwise_map.mp hcs).imp fun {c d} hne => ?_⟩
  intro p hpc hpd
  obtain ⟨rest, hrest⟩ := exists_segments_of_mem_paths hpc
  obtain ⟨rest', hrest'⟩ := exists_segments_of_mem_paths hpd
  exact hne (List.cons.inj (hrest.symm.trans hrest')).1

theorem Column.nodup_paths {c : Column} (hc : c.WellFormed) : c.paths.Nodup := by
  induction c using groupInduction with
  | leaf c hleaf =>
    rw [paths_leaf hleaf]
    exact List.nodup_singleton _
  | group label g ih =>
    have hg : g.WellFormed := (wellFormed_group _ _).mp hc
    rw [paths_group, List.nodup_cons]
    constructor
    · intro hmem
      obtain ⟨p, -, hp⟩ := List.mem_map.mp hmem
      exact p.nonempty (List.cons.inj (congrArg Path.segments hp)).2
    · exact (nodup_pathsAll hg.nodup_names fun c hcg => ih c hcg (hg.of_mem hcg)).map
        (Path.under_injective _)

namespace Frame

variable {f : Frame}

/-- **The paths of a frame are those that resolve.** -/
theorem mem_paths (hf : f.WellFormed) (p : Path) : p ∈ f.paths ↔ ∃ c, f.get p = .ok c := by
  simp only [get_eq_ok_iff]
  exact mem_paths_of_columns hf.nodup_names (fun c hc => Column.mem_paths (hf.of_mem hc)) p

/-- **Each of them is listed once.** -/
theorem nodup_paths (hf : f.WellFormed) : f.paths.Nodup :=
  Column.nodup_pathsAll hf.nodup_names fun _ hc => Column.nodup_paths (hf.of_mem hc)

end Frame

/-! ### Paths that a removal lists -/

/-- **The names are among the paths, and no others above them.** -/
def Outermost (paths : List (List String)) (names : List String) : Prop :=
  names ∈ paths ∧ ∀ q ∈ paths, q <+: names → q = names

instance (paths : List (List String)) : DecidablePred (Outermost paths) := fun names =>
  inferInstanceAs (Decidable (names ∈ paths ∧ ∀ q ∈ paths, q <+: names → q = names))

/-- Past a first name, the paths that begin with it decide. -/
theorem outermost_cons {paths : List (List String)} (hnil : [] ∉ paths) {name : String}
    {rest : List String} :
    Outermost paths (name :: rest) ↔ Outermost (pathsThrough name paths) rest := by
  rw [Outermost, Outermost, mem_pathsThrough]
  refine and_congr_right fun _ => ⟨fun h q hq hinit => ?_, fun h q hq hinit => ?_⟩
  · have heq := h (name :: q) (mem_pathsThrough.mp hq) (List.cons_prefix_cons.mpr ⟨rfl, hinit⟩)
    exact (List.cons.inj heq).2
  · obtain ⟨segment, tail, rfl⟩ := List.exists_cons_of_ne_nil fun h : q = [] => hnil (h ▸ hq)
    obtain ⟨rfl, htail⟩ := List.cons_prefix_cons.mp hinit
    rw [h tail (mem_pathsThrough.mpr hq) htail]

namespace Column

variable {paths : List (List String)}

/-- What is taken out of columns side by side, if it is known for each of them. -/
theorem map_path_takenAll {cs : List Column}
    (h : ∀ c ∈ cs, (c.taken paths).map (fun e => e.2.1) =
      c.paths.filter fun p => Outermost paths p.segments) :
    (takenAll paths cs).map (fun e => e.2.1) =
      (pathsAll cs).filter fun p => Outermost paths p.segments := by
  have hunder (i : Nat) (entries : List Taken) :
      (entries.map (Taken.under [] [i])).map (fun e => e.2.1) = entries.map fun e => e.2.1 := by
    rw [List.map_map]
    rfl
  have hzip (i : Nat) : (cs.zipIdx i).flatMap (fun e => (e.1.taken paths).map fun t => t.2.1) =
      cs.flatMap fun c => (c.taken paths).map fun t => t.2.1 := by
    conv_rhs => rw [← List.zipIdx_map_fst i cs, List.flatMap_map]
  rw [takenAll, List.map_flatMap, pathsAll_eq_flatMap, List.filter_flatMap]
  simp only [hunder, hzip]
  exact List.flatMap_congr h

/-- **What is taken out of a column**, by induction on the column. -/
theorem map_path_taken (hnil : [] ∉ paths) (c : Column) :
    (c.taken paths).map (fun e => e.2.1) = c.paths.filter fun p => Outermost paths p.segments := by
  induction c using groupInduction generalizing paths with
  | leaf c hleaf =>
    rw [paths_leaf hleaf]
    by_cases hthere : [] ∈ pathsThrough c.name paths
    · have hname : Outermost paths [c.name] := (outermost_cons hnil).mpr
        ⟨hthere, fun q _ hinit => List.prefix_nil.mp hinit⟩
      rw [taken_of_mem hthere]
      simp [hname]
    · have hname : ¬Outermost paths [c.name] := fun h => hthere ((outermost_cons hnil).mp h).1
      rw [taken_leaf hleaf hthere]
      simp [hname]
  | group label g ih =>
    have hlabel : (group label g).name = label := rfl
    rw [paths_group, List.filter_cons]
    by_cases hthere : [] ∈ pathsThrough label paths
    · -- the group goes as a whole, and what is in it is below a path
      have hname : Outermost paths [label] := (outermost_cons hnil).mpr
        ⟨hthere, fun q _ hinit => List.prefix_nil.mp hinit⟩
      have hinner : (g.paths.map (Path.under [label])).filter
          (fun p => Outermost paths p.segments) = [] := by
        refine List.filter_eq_nil_iff.mpr (List.forall_mem_map.mpr fun p _ => ?_)
        intro hp
        have hlist := (outermost_cons hnil).mp (of_decide_eq_true hp)
        exact p.nonempty (hlist.2 [] hthere List.nil_prefix).symm
      rw [taken_of_mem (c := .group label g) hthere, hinner]
      simp [hname, hlabel]
    · have hname : ¬Outermost paths [label] := fun h => hthere ((outermost_cons hnil).mp h).1
      have hcolumns : (takenAll (pathsThrough label paths) g.columns).map (fun e => e.2.1) =
          g.paths.filter fun p => Outermost (pathsThrough label paths) p.segments :=
        map_path_takenAll fun c hc => ih c hc hthere
      rw [taken_group hthere, List.map_map, List.filter_map]
      have hhead : decide (Outermost paths (Path.single label).segments) = false :=
        decide_eq_false hname
      have htail : ((fun p : Path => decide (Outermost paths p.segments)) ∘ Path.under [label]) =
          fun p => decide (Outermost (pathsThrough label paths) p.segments) :=
        funext fun p => decide_eq_decide.mpr (outermost_cons hnil)
      rw [hhead, htail, ← hcolumns, List.map_map]
      rfl

end Column

/-- **A removal lists the outermost of its paths, depth first.** -/
theorem Frame.map_path_takenAll (f : Frame) {paths : List (List String)} (hnil : [] ∉ paths) :
    (Column.takenAll paths f.columns).map (fun e => e.2.1) =
      f.paths.filter fun p => Outermost paths p.segments :=
  Column.map_path_takenAll fun c _ => Column.map_path_taken hnil c

end Colonnade
