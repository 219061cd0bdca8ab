import Colonnade.Proofs.Removal.Pruned

/-!
# What a removal takes out of a frame

Every entry of a removal says truly where a column was: its path leads to the column in the frame,
and its address to a node of the layout. Entries of different columns side by side are told apart by
the first name of their paths (`Column.filter_takenAll`).

`Column.prune?_of_taken` is what makes a removal something that can be repeated: the paths of the
entries, in any order, leave of a frame what the paths of the removal have left of it, however those
were nested and repeated.
-/

namespace Colonnade

/-! ### Paths that resolve -/

/-- **The paths lead to columns** of the frame. -/
def Frame.Resolves (f : Frame) (paths : List (List String)) : Prop :=
  ∀ path ∈ paths, path ≠ [] ∧ ∃ c, f.find? path = some c

variable {f : Frame} {paths : List (List String)} {c : Column}

/-- Paths that can be looked up resolve. -/
theorem Frame.resolves_map_segments {paths : List Path}
    (hpaths : ∀ path ∈ paths, ∃ c, f.get path = .ok c) : f.Resolves (paths.map Path.segments) := by
  refine List.forall_mem_map.mpr fun path hpath => ⟨path.nonempty, ?_⟩
  obtain ⟨c, hc⟩ := hpaths path hpath
  exact ⟨c, get_eq_ok_iff.mp hc⟩

/-- Past the name of a column, paths lead into it. -/
theorem Frame.Resolves.column (hpaths : f.Resolves paths) (hf : f.names.Nodup)
    (hc : c ∈ f.columns) {rest : List String} (h : rest ∈ pathsThrough c.name paths) :
    ∃ d, c.descend? rest = some d := by
  obtain ⟨-, d, hd⟩ := hpaths _ (mem_pathsThrough.mp h)
  rw [Frame.find?_cons, Frame.column?_name hf hc] at hd
  exact ⟨d, hd⟩

/-- Where a group does not go as a whole, the paths into it lead to columns of its frame. -/
theorem resolves_of_group {label : String} {g : Frame}
    (h : ∀ rest ∈ pathsThrough label paths, ∃ d, (Column.group label g).descend? rest = some d)
    (hthere : [] ∉ pathsThrough label paths) : g.Resolves (pathsThrough label paths) := by
  intro rest hrest
  have hne : rest ≠ [] := fun hnil => hthere (hnil ▸ hrest)
  obtain ⟨name, tail, rfl⟩ := List.exists_cons_of_ne_nil hne
  exact ⟨hne, h _ hrest⟩

/-- No path leads into a column that is no group. -/
theorem pathsThrough_eq_nil_of_leaf (hc : c.group? = none)
    (h : ∀ rest ∈ pathsThrough c.name paths, ∃ d, c.descend? rest = some d)
    (hthere : [] ∉ pathsThrough c.name paths) : pathsThrough c.name paths = [] := by
  refine List.eq_nil_iff_forall_not_mem.mpr fun rest hrest => ?_
  obtain ⟨d, hd⟩ := h rest hrest
  cases rest with
  | nil => exact hthere hrest
  | cons name tail =>
    rw [Column.descend?_cons_of_group?_eq_none hc] at hd
    exact absurd hd (by simp)

namespace Column

/-! ### Entries -/

/-- An entry of columns side by side is one of a column. -/
theorem mem_takenAll {cs : List Column} {e : Taken} :
    e ∈ takenAll paths cs ↔
      ∃ i c, cs[i]? = some c ∧ ∃ e' ∈ c.taken paths, e = Taken.under [] [i] e' := by
  rw [takenAll, List.mem_flatMap]
  constructor
  · rintro ⟨⟨c, i⟩, hmem, he⟩
    obtain ⟨e', he', rfl⟩ := List.mem_map.mp he
    exact ⟨i, c, List.mem_zipIdx_iff_getElem?.mp hmem, e', he', rfl⟩
  · rintro ⟨i, c, hc, e', he', rfl⟩
    exact ⟨(c, i), List.mem_zipIdx_iff_getElem?.mpr hc, List.mem_map_of_mem he'⟩

/-- The path of an entry begins with the name of the column. -/
theorem exists_segments_of_mem_taken {e : Taken} (he : e ∈ c.taken paths) :
    ∃ rest, e.2.1.segments = c.name :: rest := by
  by_cases hmem : [] ∈ pathsThrough c.name paths
  · rw [taken_of_mem hmem, List.mem_singleton] at he
    exact ⟨[], by rw [he]; rfl⟩
  · rcases hc : c.group? with _ | g
    · rw [taken_leaf hc hmem] at he
      exact absurd he List.not_mem_nil
    · rw [group?_eq_some_iff.mp hc, taken_group hmem] at he
      obtain ⟨e', -, rfl⟩ := List.mem_map.mp he
      exact ⟨_, rfl⟩

/-- Of columns with different keys only one has a given key. -/
theorem flatMap_zipIdx_of_key {α κ : Type} [DecidableEq κ] (key : Column → κ)
    (F : Column → Nat → List α) {cs : List Column} (hcs : (cs.map key).Nodup) {i : Nat}
    (h : cs[i]? = some c) (s : Nat) :
    (cs.zipIdx s).flatMap (fun e => if key e.1 = key c then F e.1 e.2 else []) = F c (s + i) := by
  induction cs generalizing i s with
  | nil => exact absurd h (by simp)
  | cons d cs ih =>
    rw [List.map_cons, List.nodup_cons] at hcs
    rw [List.zipIdx_cons, List.flatMap_cons]
    cases i with
    | zero =>
      obtain rfl : d = c := by simpa using h
      have hrest : (cs.zipIdx (s + 1)).flatMap
          (fun e => if key e.1 = key d then F e.1 e.2 else []) = [] := by
        refine List.flatMap_eq_nil_iff.mpr fun e he => if_neg fun hkey => hcs.1 ?_
        exact hkey ▸ List.mem_map_of_mem (List.fst_mem_of_mem_zipIdx he)
      rw [hrest, if_pos rfl, List.append_nil, Nat.add_zero]
    | succ i =>
      have hc : cs[i]? = some c := by simpa using h
      have hne : key d ≠ key c := fun hkey =>
        hcs.1 (hkey ▸ List.mem_map_of_mem (List.mem_of_getElem? hc))
      rw [if_neg hne, List.nil_append, ih hcs.2 hc, Nat.add_right_comm, Nat.add_assoc]

/-- **A key that the entries of a column share tells them from the others.** -/
theorem filter_takenAll_of_key {κ : Type} [BEq κ] [LawfulBEq κ] [DecidableEq κ] (key : Column → κ)
    (keyOf : Taken → κ) {cs : List Column} (hcs : (cs.map key).Nodup)
    (hkey : ∀ d ∈ cs, ∀ j, ∀ e ∈ d.taken paths, keyOf (Taken.under [] [j] e) = key d) {i : Nat}
    (h : cs[i]? = some c) :
    (takenAll paths cs).filter (fun e => keyOf e == key c) =
      (c.taken paths).map (Taken.under [] [i]) := by
  have hall : ∀ e ∈ cs.zipIdx,
      ((e.1.taken paths).map (Taken.under [] [e.2])).filter (fun e => keyOf e == key c) =
        if key e.1 = key c then (e.1.taken paths).map (Taken.under [] [e.2]) else [] := by
    rintro ⟨d, j⟩ hd
    have hd' := List.fst_mem_of_mem_zipIdx hd
    split
    next heq =>
      refine List.filter_eq_self.mpr (List.forall_mem_map.mpr fun e he => ?_)
      rw [hkey d hd' j e he, heq, beq_self_eq_true]
    next hne =>
      refine List.filter_eq_nil_iff.mpr (List.forall_mem_map.mpr fun e he => ?_)
      rw [hkey d hd' j e he, beq_iff_eq]
      exact hne
  rw [takenAll, List.filter_flatMap, List.flatMap_congr hall,
    flatMap_zipIdx_of_key key (fun d j => (d.taken paths).map (Taken.under [] [j])) hcs h 0,
    Nat.zero_add]

/-- **The entries with a name are those of the column of that name.** -/
theorem filter_takenAll {cs : List Column} (hcs : (cs.map name).Nodup) {i : Nat}
    (h : cs[i]? = some c) :
    (takenAll paths cs).filter (fun e => e.2.1.segments.head? == some c.name) =
      (c.taken paths).map (Taken.under [] [i]) := by
  have hsome : (cs.map fun d => some d.name).Nodup := by
    have hmap := hcs.map fun _ _ => Option.some.inj
    rwa [List.map_map] at hmap
  refine filter_takenAll_of_key (fun d => some d.name) (fun e => e.2.1.segments.head?) hsome
    (fun d _ j e he => ?_) h
  obtain ⟨rest, hrest⟩ := exists_segments_of_mem_taken he
  show e.2.1.segments.head? = some d.name
  rw [hrest, List.head?_cons]

/-! ### Entries say where columns were -/

/-- The path of an entry leads to its column, and its address to a node. -/
theorem descend?_of_mem_taken (hc : c.WellFormed) {e : Taken} (he : e ∈ c.taken paths) :
    (∀ rest, e.2.1.segments = c.name :: rest → c.descend? rest = some e.2.2) ∧
      ∃ s, (c.marked paths).at? e.1 = some s := by
  induction c using groupInduction generalizing e paths with
  | leaf c hleaf =>
    by_cases hmem : [] ∈ pathsThrough c.name paths
    · rw [taken_of_mem hmem, List.mem_singleton] at he
      subst he
      refine ⟨fun rest hrest => ?_, _, Layout.at?_nil _⟩
      obtain rfl : [] = rest := (List.cons.inj hrest).2
      exact descend?_nil c
    · rw [taken_leaf hleaf hmem] at he
      exact absurd he List.not_mem_nil
  | group label g ih =>
    by_cases hmem : [] ∈ pathsThrough label paths
    · rw [taken_of_mem (c := .group label g) hmem, List.mem_singleton] at he
      subst he
      refine ⟨fun rest hrest => ?_, _, Layout.at?_nil _⟩
      obtain rfl : [] = rest := (List.cons.inj hrest).2
      exact descend?_nil _
    · rw [taken_group hmem] at he
      obtain ⟨e', he', rfl⟩ := List.mem_map.mp he
      obtain ⟨i, c, hi, e'', he'', rfl⟩ := mem_takenAll.mp he'
      have hg : g.WellFormed := (wellFormed_group _ _).mp hc
      have hcg := List.mem_of_getElem? hi
      obtain ⟨hdescend, s, hs⟩ := ih c hcg (hg.of_mem hcg) he''
      constructor
      · intro rest hrest
        obtain rfl : e''.2.1.segments = rest := (List.cons.inj hrest).2
        obtain ⟨tail, htail⟩ := exists_segments_of_mem_taken he''
        rw [htail, descend?_group_cons, Frame.column?_name hg.nodup_names hcg, Option.bind_some]
        exact hdescend tail htail
      · refine ⟨s, ?_⟩
        have hchild : ((group label g).marked paths).children[i]? =
            some (c.marked (pathsThrough label paths)) := by
          rw [children_marked_group hmem, List.getElem?_map, hi]
          rfl
        change ((group label g).marked paths).at? (i :: e''.1) = some s
        rw [Layout.at?_cons, hchild, Option.bind_some, hs]

/-! ### Entries as paths -/

/-- Something is taken out of a frame, if this is so for a column in it that paths lead into. -/
theorem takenAll_ne_nil_of_columns (hf : f.names.Nodup) (hpaths : f.Resolves paths)
    (hne : paths ≠ []) (h : ∀ c ∈ f.columns, pathsThrough c.name paths ≠ [] → c.taken paths ≠ []) :
    takenAll paths f.columns ≠ [] := by
  obtain ⟨path, hpath⟩ := List.exists_mem_of_ne_nil _ hne
  obtain ⟨hpne, d, hd⟩ := hpaths path hpath
  obtain ⟨name, tail, rfl⟩ := List.exists_cons_of_ne_nil hpne
  obtain ⟨c, hcol, -⟩ := Option.bind_eq_some_iff.mp hd
  obtain ⟨hc, rfl⟩ := (Frame.column?_eq_some_iff hf).mp hcol
  obtain ⟨e, he⟩ := List.exists_mem_of_ne_nil _
    (h c hc (List.ne_nil_of_mem (mem_pathsThrough.mpr hpath)))
  obtain ⟨i, hi⟩ := List.getElem?_of_mem hc
  exact List.ne_nil_of_mem (mem_takenAll.mpr ⟨i, c, hi, e, he, rfl⟩)

/-- Something is taken out of a column that paths lead into, -/
theorem taken_ne_nil (hc : c.WellFormed)
    (h : ∀ rest ∈ pathsThrough c.name paths, ∃ d, c.descend? rest = some d)
    (hne : pathsThrough c.name paths ≠ []) : c.taken paths ≠ [] := by
  induction c using groupInduction generalizing paths with
  | leaf c hleaf =>
    by_cases hmem : [] ∈ pathsThrough c.name paths
    · rw [taken_of_mem hmem]
      exact List.cons_ne_nil _ _
    · exact absurd (pathsThrough_eq_nil_of_leaf hleaf h hmem) hne
  | group label g ih =>
    by_cases hmem : [] ∈ pathsThrough label paths
    · rw [taken_of_mem (c := .group label g) hmem]
      exact List.cons_ne_nil _ _
    · have hg : g.WellFormed := (wellFormed_group _ _).mp hc
      have hresolves := resolves_of_group h hmem
      rw [taken_group hmem]
      refine mt List.map_eq_nil_iff.mp (takenAll_ne_nil_of_columns hg.nodup_names hresolves hne ?_)
      exact fun c hcg => ih c hcg (hg.of_mem hcg)
        fun rest hrest => hresolves.column hg.nodup_names hcg hrest

/-- and out of a frame. -/
theorem takenAll_ne_nil (hf : f.WellFormed) (hpaths : f.Resolves paths) (hne : paths ≠ []) :
    takenAll paths f.columns ≠ [] :=
  takenAll_ne_nil_of_columns hf.nodup_names hpaths hne fun _ hc =>
    taken_ne_nil (hf.of_mem hc) fun _ hrest => hpaths.column hf.nodup_names hc hrest

/-- An entry with the name of a column is one of that column. -/
theorem exists_mem_takenAll_iff {cs : List Column} (hcs : (cs.map name).Nodup) (hc : c ∈ cs)
    (rest : List String) :
    (∃ e ∈ takenAll paths cs, e.2.1.segments = c.name :: rest) ↔
      ∃ e ∈ c.taken paths, e.2.1.segments = c.name :: rest := by
  constructor
  · rintro ⟨e, he, hrest⟩
    obtain ⟨i, hi⟩ := List.getElem?_of_mem hc
    have hfilter : e ∈ (c.taken paths).map (Taken.under [] [i]) := by
      rw [← filter_takenAll hcs hi]
      exact List.mem_filter.mpr ⟨he, by simp [hrest]⟩
    obtain ⟨e', he', rfl⟩ := List.mem_map.mp hfilter
    exact ⟨e', he', hrest⟩
  · rintro ⟨e, he, hrest⟩
    obtain ⟨i, hi⟩ := List.getElem?_of_mem hc
    exact ⟨_, mem_takenAll.mpr ⟨i, c, hi, e, he, rfl⟩, hrest⟩

/-- **Past the name of a column, `others` are the paths of what `paths` take out of it**, however
often and in whatever order they come. -/
def Repeats (others paths : List (List String)) (c : Column) : Prop :=
  ∀ rest, rest ∈ pathsThrough c.name others ↔
    ∃ e ∈ c.taken paths, e.2.1.segments = c.name :: rest

section Repeats

variable {others : List (List String)} {label : String} {g : Frame}

/-- For a group, they are the paths of what is taken out of its columns, -/
theorem Repeats.mem_iff (h : Repeats others paths (.group label g))
    (hthere : [] ∉ pathsThrough label paths) (rest : List String) :
    rest ∈ pathsThrough label others ↔
      ∃ e ∈ takenAll (pathsThrough label paths) g.columns, e.2.1.segments = rest := by
  refine (h rest).trans ?_
  rw [taken_group hthere]
  constructor
  · rintro ⟨_, hunder, hrest⟩
    obtain ⟨e, he, rfl⟩ := List.mem_map.mp hunder
    exact ⟨e, he, (List.cons.inj hrest).2⟩
  · rintro ⟨e, he, rfl⟩
    exact ⟨_, List.mem_map_of_mem he, rfl⟩

/-- do not take it as a whole either, -/
theorem Repeats.nil_not_mem (h : Repeats others paths (.group label g))
    (hthere : [] ∉ pathsThrough label paths) : [] ∉ pathsThrough label others := by
  intro hmem
  obtain ⟨e, -, hnil⟩ := (h.mem_iff hthere []).mp hmem
  exact e.2.1.nonempty hnil

/-- and are so for each of its columns. -/
theorem Repeats.column (h : Repeats others paths (.group label g))
    (hthere : [] ∉ pathsThrough label paths) (hg : g.names.Nodup) (hc : c ∈ g.columns) :
    Repeats (pathsThrough label others) (pathsThrough label paths) c := by
  intro rest
  rw [mem_pathsThrough, h.mem_iff hthere]
  exact exists_mem_takenAll_iff hg hc rest

/-- There are some of the one if there are some of the other. -/
theorem Repeats.eq_nil_iff (h : Repeats others paths (.group label g))
    (hg : (group label g).WellFormed)
    (hpaths : ∀ rest ∈ pathsThrough label paths, ∃ d, (group label g).descend? rest = some d)
    (hthere : [] ∉ pathsThrough label paths) :
    pathsThrough label others = [] ↔ pathsThrough label paths = [] := by
  constructor
  · intro hnil
    by_contra hne
    obtain ⟨e, he⟩ := List.exists_mem_of_ne_nil _ (taken_ne_nil hg hpaths hne)
    obtain ⟨rest, hrest⟩ := exists_segments_of_mem_taken he
    exact List.ne_nil_of_mem ((h rest).mpr ⟨e, he, hrest⟩) hnil
  · intro hnil
    refine List.eq_nil_iff_forall_not_mem.mpr fun rest hrest => ?_
    obtain ⟨e, he, -⟩ := (h.mem_iff hthere rest).mp hrest
    rw [hnil, takenAll_nil] at he
    exact List.not_mem_nil he

end Repeats

/-- **The paths of what is taken out of a column take out the same.** -/
theorem prune?_of_taken (hc : c.WellFormed)
    (h : ∀ rest ∈ pathsThrough c.name paths, ∃ d, c.descend? rest = some d)
    {others : List (List String)} (hothers : Repeats others paths c) :
    c.prune? others = c.prune? paths := by
  induction c using groupInduction generalizing paths others with
  | leaf c hleaf =>
    by_cases hmem : [] ∈ pathsThrough c.name paths
    · rw [prune?_of_mem hmem, prune?_of_mem]
      exact (hothers []).mpr ⟨_, taken_of_mem hmem ▸ List.mem_singleton_self _, rfl⟩
    · have hnone : [] ∉ pathsThrough c.name others := fun hothersMem => by
        obtain ⟨e, he, -⟩ := (hothers []).mp hothersMem
        rw [taken_leaf hleaf hmem] at he
        exact List.not_mem_nil he
      rw [prune?_leaf hleaf hmem, prune?_leaf hleaf hnone]
  | group label g ih =>
    by_cases hmem : [] ∈ pathsThrough label paths
    · have hmem' : [] ∈ pathsThrough (group label g).name paths := hmem
      rw [prune?_of_mem hmem', prune?_of_mem]
      exact (hothers []).mpr ⟨_, taken_of_mem hmem' ▸ List.mem_singleton_self _, rfl⟩
    · have hg : g.WellFormed := (wellFormed_group _ _).mp hc
      have hresolves := resolves_of_group h hmem
      have hcolumns : g.columns.filterMap (prune? (pathsThrough label others)) =
          g.columns.filterMap (prune? (pathsThrough label paths)) := by
        refine List.filterMap_congr fun c hcg => ?_
        exact ih c hcg (hg.of_mem hcg)
          (fun rest hrest => hresolves.column hg.nodup_names hcg hrest)
          (hothers.column hmem hg.nodup_names hcg)
      rw [prune?_group hmem, prune?_group (hothers.nil_not_mem hmem), hcolumns]
      simp only [ne_eq, hothers.eq_nil_iff hc h hmem]

end Column

namespace Frame

theorem find?_of_mem_takenAll (hf : f.WellFormed) {e : Taken}
    (he : e ∈ Column.takenAll paths f.columns) : f.find? e.2.1.segments = some e.2.2 := by
  obtain ⟨i, c, hi, e', he', rfl⟩ := Column.mem_takenAll.mp he
  have hc := List.mem_of_getElem? hi
  obtain ⟨rest, hrest⟩ := Column.exists_segments_of_mem_taken he'
  have hdescend := (Column.descend?_of_mem_taken (hf.of_mem hc) he').1 rest hrest
  change f.find? e'.2.1.segments = some e'.2.2
  rw [hrest, find?_cons, column?_name hf.nodup_names hc, Option.bind_some, hdescend]

theorem at?_of_mem_takenAll (hf : f.WellFormed) {t : Layout}
    (ht : t.children = f.columns.map (Column.marked paths)) {e : Taken}
    (he : e ∈ Column.takenAll paths f.columns) : ∃ s, t.at? e.1 = some s := by
  obtain ⟨i, c, hi, e', he', rfl⟩ := Column.mem_takenAll.mp he
  have hc := List.mem_of_getElem? hi
  obtain ⟨s, hs⟩ := (Column.descend?_of_mem_taken (hf.of_mem hc) he').2
  refine ⟨s, ?_⟩
  change t.at? (i :: e'.1) = some s
  rw [Layout.at?_cons, ht, List.getElem?_map, hi, Option.map_some, Option.bind_some, hs]

end Frame

end Colonnade
