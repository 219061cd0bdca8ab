import Colonnade.Proofs.Merge.Leaves
import Colonnade.Proofs.Removal.Pruned

/-!
# What a removal leaves at a path

`Frame.find?_pruned` says for any names, however deep, what they lead to in the frame that remains:
what is left there of the column that they have led to, provided that no path ends at it or above it.

What is left of a column depends on nothing but the paths past its names (`Column.leave?`), which
answers for columns of either kind:

* a column that is no group is there as it was or not at all (`Frame.hasLeaf_pruned_iff`);
* a group is there if nothing leads into it, or else if one of its columns is
  (`Frame.isSome_find?_pruned_group`);
* the columns of a group that is there are some of those it had, in their order
  (`Frame.groupAt?_of_pruned`).
-/

namespace Colonnade

/-! ### Paths past names -/

/-- What follows `names` in those of the paths that begin with them. -/
def pathsBelow (names : List String) (paths : List (List String)) : List (List String) :=
  names.foldl (fun paths name => pathsThrough name paths) paths

@[simp] theorem pathsBelow_nil (paths : List (List String)) : pathsBelow [] paths = paths := rfl

@[simp] theorem pathsBelow_cons (name : String) (rest : List String) (paths : List (List String)) :
    pathsBelow (name :: rest) paths = pathsBelow rest (pathsThrough name paths) := rfl

theorem mem_pathsBelow {names rest : List String} {paths : List (List String)} :
    rest ∈ pathsBelow names paths ↔ names ++ rest ∈ paths := by
  induction names generalizing paths with
  | nil => rfl
  | cons name names ih => rw [pathsBelow_cons, ih, mem_pathsThrough, List.cons_append]

theorem any_isEmpty_iff {paths : List (List String)} : paths.any List.isEmpty ↔ [] ∈ paths := by
  simp [List.any_eq_true]

/-- **No path ends at the names or above them.** -/
def Spared (paths : List (List String)) (names : List String) : Prop :=
  ∀ q ∈ paths, q ≠ [] → ¬q <+: names

theorem spared_cons {paths : List (List String)} {name : String} {rest : List String} :
    Spared paths (name :: rest) ↔
      [] ∉ pathsThrough name paths ∧ Spared (pathsThrough name paths) rest := by
  constructor
  · intro h
    refine ⟨fun hmem => ?_, fun q hq _ hinit => ?_⟩
    · exact h [name] (mem_pathsThrough.mp hmem) (List.cons_ne_nil _ _) ⟨rest, rfl⟩
    · exact h (name :: q) (mem_pathsThrough.mp hq) (List.cons_ne_nil _ _)
        (List.cons_prefix_cons.mpr ⟨rfl, hinit⟩)
  · rintro ⟨hthere, hrest⟩ q hq hne hinit
    obtain ⟨segment, tail, rfl⟩ := List.exists_cons_of_ne_nil hne
    obtain ⟨rfl, htail⟩ := List.cons_prefix_cons.mp hinit
    have hmem : tail ∈ pathsThrough segment paths := mem_pathsThrough.mpr hq
    exact hrest tail hmem (fun hnil => hthere (hnil ▸ hmem)) htail

@[simp] theorem spared_nil (paths : List (List String)) : Spared paths [] :=
  fun _ _ hne hinit => hne (List.prefix_nil.mp hinit)

/-! ### What is left of a column -/

namespace Column

/-- **What is left of a column** that the names lead to, if `inside` are the paths past them. -/
def leave? (inside : List (List String)) (c : Column) : Option Column :=
  if inside.any List.isEmpty then none
  else
    match c.group? with
    | none => some c
    | some f =>
      if inside ≠ [] ∧ (f.pruned inside).columns = [] then none
      else some (.group c.name (f.pruned inside))

variable {paths inside : List (List String)} {c d : Column} {f : Frame}

theorem leave?_of_mem (h : [] ∈ inside) : c.leave? inside = none := by
  rw [leave?, if_pos (any_isEmpty_iff.mpr h)]

theorem leave?_of_not_mem (h : [] ∉ inside) : c.leave? inside =
    match c.group? with
    | none => some c
    | some f =>
      if inside ≠ [] ∧ (f.pruned inside).columns = [] then none
      else some (.group c.name (f.pruned inside)) := by
  rw [leave?, if_neg (any_isEmpty_iff.not.mpr h)]

theorem prune?_eq_leave? (paths : List (List String)) (c : Column) :
    c.prune? paths = c.leave? (pathsThrough c.name paths) := by
  by_cases hthere : [] ∈ pathsThrough c.name paths
  · rw [prune?_of_mem hthere, leave?_of_mem hthere]
  · rw [leave?_of_not_mem hthere]
    rcases hc : c.group? with _ | f
    · exact prune?_leaf hc hthere
    · conv_lhs => rw [group?_eq_some_iff.mp hc, prune?_group hthere]
      rfl

theorem leave?_eq_some (h : c.leave? inside = some d) : [] ∉ inside ∧
    ((c.group? = none ∧ d = c) ∨
      ∃ f, c.group? = some f ∧ d = .group c.name (f.pruned inside) ∧
        (inside ≠ [] → (f.pruned inside).columns ≠ [])) := by
  by_cases hthere : [] ∈ inside
  · rw [leave?_of_mem hthere] at h
    exact absurd h (by simp)
  · rw [leave?_of_not_mem hthere] at h
    refine ⟨hthere, ?_⟩
    rcases hc : c.group? with _ | f
    · rw [hc] at h
      exact Or.inl ⟨rfl, (Option.some.inj h).symm⟩
    · rw [hc] at h
      by_cases hempty : inside ≠ [] ∧ (f.pruned inside).columns = []
      · exact absurd h (by simp [hempty])
      · simp only [hempty, if_false] at h
        exact Or.inr ⟨f, rfl, (Option.some.inj h).symm, fun hne hnil => hempty ⟨hne, hnil⟩⟩

theorem leave?_leaf (hc : c.group? = none) (hthere : [] ∉ inside) : c.leave? inside = some c := by
  rw [leave?_of_not_mem hthere, hc]

@[simp] theorem leave?_nil (c : Column) : c.leave? [] = some c := by
  rcases hc : c.group? with _ | f
  · exact leave?_leaf hc List.not_mem_nil
  · have hpruned : f.pruned [] = f := by
      obtain ⟨columns, rowCount⟩ := f
      simp [Frame.pruned]
    rw [leave?_of_not_mem List.not_mem_nil, hc]
    simp [hpruned, ← group?_eq_some_iff.mp hc]

/-- Nothing is left of a column that is taken, and of a group that is left without columns. -/
theorem leave?_eq_none_iff : c.leave? inside = none ↔ [] ∈ inside ∨
    ∃ f, c.group? = some f ∧ inside ≠ [] ∧ (f.pruned inside).columns = [] := by
  by_cases hthere : [] ∈ inside
  · simp [leave?_of_mem hthere, hthere]
  · rcases hc : c.group? with _ | f
    · simp [leave?_leaf hc hthere, hthere]
    · simp [leave?_of_not_mem hthere, hthere, hc]

end Column

/-! ### What names lead to -/

namespace Frame

variable {f g : Frame} {paths : List (List String)} {names : List String} {c d : Column}

/-- Past a column that goes on existing, names lead on into what is left of its frame. -/
theorem descend?_of_prune? (hg : c.group? = some g) (hthere : [] ∉ pathsThrough c.name paths)
    (hne : names ≠ []) :
    ((c.prune? paths).bind fun d => d.descend? names) =
      (g.pruned (pathsThrough c.name paths)).find? names := by
  obtain ⟨name, rest, rfl⟩ := List.exists_cons_of_ne_nil hne
  rw [Column.prune?_eq_leave?]
  cases hd : c.leave? (pathsThrough c.name paths) with
  | some d =>
    obtain ⟨-, ⟨hleaf, -⟩ | ⟨g', hg', rfl, -⟩⟩ := Column.leave?_eq_some hd
    · exact absurd (hleaf.symm.trans hg) (by simp)
    · obtain rfl := Option.some.inj (hg.symm.trans hg')
      rfl
  | none =>
    -- the group has gone because nothing is left in it, so names lead nowhere
    obtain hmem | ⟨g', hg', -, hempty⟩ := Column.leave?_eq_none_iff.mp hd
    · exact absurd hmem hthere
    · obtain rfl := Option.some.inj (hg.symm.trans hg')
      rw [find?_cons, column?, hempty]
      rfl

/-- **What names lead to in the frame that remains**, by induction on the names. -/
theorem find?_pruned (hf : f.WellFormed) (hne : names ≠ []) :
    (f.pruned paths).find? names = some d ↔
      ∃ c, f.find? names = some c ∧ Spared paths names ∧
        c.leave? (pathsBelow names paths) = some d := by
  induction names generalizing f paths with
  | nil => exact absurd rfl hne
  | cons name rest ih =>
    rw [find?_cons, find?_cons, column?_pruned hf.nodup_names, pathsBelow_cons, spared_cons]
    rcases hcol : f.column? name with _ | c
    · simp
    · have hname : c.name = name := name_of_column?_eq_some hcol
      subst hname
      simp only [Option.bind_some]
      by_cases hthere : [] ∈ pathsThrough c.name paths
      · simp [Column.prune?_of_mem hthere, hthere]
      · rcases eq_or_ne rest [] with rfl | hrest
        · simp [hthere, Column.prune?_eq_leave?]
        · rcases hg : c.group? with _ | g
          · -- nothing is below a column that is no group, before and after
            obtain ⟨next, tail, rfl⟩ := List.exists_cons_of_ne_nil hrest
            rw [Column.prune?_leaf hg hthere, Option.bind_some,
              Column.descend?_cons_of_group?_eq_none hg]
            simp
          · have hdescend : c.descend? rest = g.find? rest := by
              obtain ⟨next, tail, rfl⟩ := List.exists_cons_of_ne_nil hrest
              rw [Column.group?_eq_some_iff.mp hg]
              rfl
            rw [descend?_of_prune? hg hthere hrest, hdescend, ih ((hf.column hcol).frame hg) hrest]
            simp [hthere]

/-! ### Leaves and groups -/

/-- **A column that is no group is left, as it was, where no path ends at it or above.** -/
theorem hasLeaf_pruned_iff (hf : f.WellFormed) (hne : names ≠ []) :
    (f.pruned paths).find? names = some c ∧ c.group? = none ↔
      (f.find? names = some c ∧ c.group? = none) ∧ Spared paths names := by
  rw [find?_pruned hf hne]
  constructor
  · rintro ⟨⟨d, hd, hspared, hleave⟩, hc⟩
    obtain ⟨-, ⟨hleaf, rfl⟩ | ⟨g, -, rfl, -⟩⟩ := Column.leave?_eq_some hleave
    · exact ⟨⟨hd, hleaf⟩, hspared⟩
    · exact absurd hc (by simp [Column.group?])
  · rintro ⟨⟨hc, hleaf⟩, hspared⟩
    refine ⟨⟨c, hc, hspared, Column.leave?_leaf hleaf fun hmem => ?_⟩, hleaf⟩
    rw [mem_pathsBelow, List.append_nil] at hmem
    exact hspared names hmem hne (List.prefix_refl names)

/-- **A group that is left is one of some of its columns**, in their order. -/
theorem groupAt?_of_pruned (hf : f.WellFormed) (h : (f.pruned paths).groupAt? names = some g) :
    ∃ whole, f.groupAt? names = some whole ∧ g = whole.pruned (pathsBelow names paths) := by
  rcases eq_or_ne names [] with rfl | hne
  · exact ⟨f, rfl, (Option.some.inj h).symm⟩
  · obtain ⟨d, hd, hgroup⟩ := Option.bind_eq_some_iff.mp h
    obtain ⟨c, hc, -, hleave⟩ := (find?_pruned hf hne).mp hd
    obtain ⟨-, ⟨hleaf, rfl⟩ | ⟨whole, hwhole, rfl, -⟩⟩ := Column.leave?_eq_some hleave
    · exact absurd (hleaf.symm.trans hgroup) (by simp)
    · refine ⟨whole, ?_, (Option.some.inj hgroup).symm⟩
      rw [groupAt?, hc, Option.bind_some, hwhole]

/-- **A group is left where no path ends at it or above**, and where paths lead into it only if one of
its columns is left. -/
theorem isSome_find?_pruned_group (hf : f.WellFormed) (hne : names ≠ []) {label : String}
    (hc : f.find? names = some (.group label g)) :
    (∃ d, (f.pruned paths).find? names = some d) ↔
      Spared paths names ∧ (pathsBelow names paths ≠ [] →
        ∃ name d, (f.pruned paths).find? (names ++ [name]) = some d) := by
  constructor
  · rintro ⟨d, hd⟩
    obtain ⟨c, hc', hspared, hleave⟩ := (find?_pruned hf hne).mp hd
    obtain rfl := Option.some.inj (hc.symm.trans hc')
    refine ⟨hspared, fun hbelow => ?_⟩
    obtain ⟨-, ⟨hleaf, -⟩ | ⟨g', hg', rfl, hcolumns⟩⟩ := Column.leave?_eq_some hleave
    · exact absurd hleaf (by simp [Column.group?])
    · obtain rfl : g = g' := Option.some.inj hg'
      have hgroup : f.groupAt? names = some g := by rw [groupAt?, hc]; rfl
      have hg : g.WellFormed := hf.groupAt hgroup
      obtain ⟨e, he⟩ := List.exists_mem_of_ne_nil _ (hcolumns hbelow)
      refine ⟨e.name, e, ?_⟩
      rw [find?, Column.descend?_append, ← find?, hd, Option.bind_some, Column.descend?_group_cons,
        column?_name (hg.pruned _).nodup_names he, Option.bind_some, Column.descend?_nil]
  · rintro ⟨hspared, hbelow⟩
    by_cases hnil : pathsBelow names paths = []
    · exact ⟨_, (find?_pruned hf hne).mpr ⟨_, hc, hspared, by rw [hnil]; exact Column.leave?_nil _⟩⟩
    · -- the group is on the way to a column that is left
      obtain ⟨name, d, hd⟩ := hbelow hnil
      rw [find?, Column.descend?_append, ← find?] at hd
      obtain ⟨e, he, -⟩ := Option.bind_eq_some_iff.mp hd
      exact ⟨e, he⟩

end Frame

end Colonnade
