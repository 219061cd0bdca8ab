import Colonnade.Proofs.Merge.Leaves
import Colonnade.Proofs.Merge.StableMerge
import Colonnade.Proofs.Removal.Listing
import Colonnade.Schema

/-!
# Lookup, the list of leaves and the schema

`Frame.get` follows a path from group to group, and `Frame.leafPaths` walks through the whole frame
and writes down where it is. One is the inverse of the other:

* the walk writes down the paths of those columns that are no groups, and no others
  (`Frame.leafPaths_eq`);
* it goes depth first: where two paths part, the column at which the first goes on stands before the
  one at which the second does (`Frame.Precedes`, `Frame.pairwise_paths`);
* a path that resolves to no column breaks off at its first segment that names none, or at the first
  column in its way that is no group (`Frame.Misses`, `Frame.get_eq_error_iff`).

A schema looks up every path of the list and leaves out those that it does not find, of which there
is none.
-/

namespace Colonnade

/-! ### Where a path breaks off -/

namespace Frame

/-- **The error of a path**: `names` leads into a group of the frame and then on to a name that no column
has, or to a column that is no group although there are more names. The error shows the path up to
there, counted from further up. -/
def Misses (f : Frame) (above names : List String) (e : FrameError) : Prop :=
  ∃ before name rest g, names = before ++ name :: rest ∧ f.groupAt? before = some g ∧
    ((g.column? name = none ∧ e = .columnNotFound (.below (above ++ before) name)) ∨
      (rest ≠ [] ∧ ∃ c, g.column? name = some c ∧ c.group? = none ∧
        e = .notAColumnGroup (.below (above ++ before) name)))

variable {f : Frame} {above : List String} {name : String} {rest : List String} {e : FrameError}

/-- Where the first name is missing, that is the error. -/
theorem misses_of_column?_eq_none (h : f.column? name = none) :
    f.Misses above (name :: rest) e ↔ e = .columnNotFound (.below above name) := by
  constructor
  · rintro ⟨before, x, tail, g, hnames, hg, herror⟩
    cases before with
    | nil =>
      obtain ⟨rfl, rfl⟩ := List.cons.inj hnames
      obtain rfl := Option.some.inj hg
      rcases herror with ⟨-, rfl⟩ | ⟨-, c, hc, -⟩
      · rw [List.append_nil]
      · exact absurd (h.symm.trans hc) (by simp)
    | cons label before =>
      obtain ⟨rfl, -⟩ := List.cons.inj hnames
      rw [groupAt?_cons, h] at hg
      exact absurd hg (by simp)
  · rintro rfl
    exact ⟨[], name, rest, f, rfl, rfl, Or.inl ⟨h, by rw [List.append_nil]⟩⟩

/-- Where the first name leads to a column that is no group, the path must not go on. -/
theorem misses_of_leaf {c : Column} (h : f.column? name = some c) (hc : c.group? = none) :
    f.Misses above (name :: rest) e ↔ rest ≠ [] ∧ e = .notAColumnGroup (.below above name) := by
  constructor
  · rintro ⟨before, x, tail, g, hnames, hg, herror⟩
    cases before with
    | nil =>
      obtain ⟨rfl, rfl⟩ := List.cons.inj hnames
      obtain rfl := Option.some.inj hg
      rcases herror with ⟨hx, -⟩ | ⟨hrest, -, -, -, rfl⟩
      · exact absurd (h.symm.trans hx) (by simp)
      · exact ⟨hrest, by rw [List.append_nil]⟩
    | cons label before =>
      obtain ⟨rfl, -⟩ := List.cons.inj hnames
      rw [groupAt?_cons, h, Option.bind_some, hc] at hg
      exact absurd hg (by simp)
  · rintro ⟨hrest, rfl⟩
    exact ⟨[], name, rest, f, rfl, rfl, Or.inr ⟨hrest, c, h, hc, by rw [List.append_nil]⟩⟩

/-- Where the first name leads to a group, the error is that of the other names in it. -/
theorem misses_of_group {c : Column} {g : Frame} (h : f.column? name = some c)
    (hc : c.group? = some g) :
    f.Misses above (name :: rest) e ↔ g.Misses (above ++ [name]) rest e := by
  have happend (before : List String) : above ++ name :: before = above ++ [name] ++ before := by simp
  constructor
  · rintro ⟨before, x, tail, inner, hnames, hg, herror⟩
    cases before with
    | nil =>
      obtain ⟨rfl, rfl⟩ := List.cons.inj hnames
      obtain rfl := Option.some.inj hg
      rcases herror with ⟨hx, -⟩ | ⟨-, d, hd, hleaf, -⟩
      · exact absurd (h.symm.trans hx) (by simp)
      · obtain rfl := Option.some.inj (h.symm.trans hd)
        exact absurd (hc.symm.trans hleaf) (by simp)
    | cons label before =>
      obtain ⟨rfl, rfl⟩ := List.cons.inj hnames
      rw [groupAt?_cons, h, Option.bind_some, hc, Option.bind_some] at hg
      rw [happend] at herror
      exact ⟨before, x, tail, inner, rfl, hg, herror⟩
  · rintro ⟨before, x, tail, inner, rfl, hg, herror⟩
    refine ⟨name :: before, x, tail, inner, rfl, ?_, by rwa [happend]⟩
    rw [groupAt?_cons, h, Option.bind_some, hc, Option.bind_some, hg]

/-- **What a lookup reports**, by induction on the names that are left of the path. -/
theorem getFrom_eq_error_iff {path : Path} {names : List String} (hne : names ≠ [])
    (hpath : path.segments = above ++ names) :
    getFrom path above.length f names = .error e ↔ f.Misses above names e := by
  induction names generalizing f above with
  | nil => exact absurd rfl hne
  | cons name rest ih =>
    have hupTo : path.upTo above.length = .below above name := by
      refine Path.ext ?_
      show path.segments.take (above.length + 1) = above ++ [name]
      rw [hpath, List.take_length_add_append]
      rfl
    rcases hcol : f.column? name with _ | c
    · rw [misses_of_column?_eq_none hcol]
      cases rest with
      | nil => simp [getFrom, hcol, hupTo, eq_comm]
      | cons next rest => simp [getFrom, hcol, hupTo, eq_comm]
    · rcases hgroup : c.group? with _ | g
      · rw [misses_of_leaf hcol hgroup]
        cases rest with
        | nil => simp [getFrom, hcol]
        | cons next rest =>
          cases c with
          | group label g => exact absurd hgroup (by simp [Column.group?])
          | value _ _ _ _ => simp [getFrom, hcol, hupTo, eq_comm]
          | frames _ _ => simp [getFrom, hcol, hupTo, eq_comm]
      · rw [misses_of_group hcol hgroup]
        cases rest with
        | nil =>
          refine iff_of_false (by simp [getFrom, hcol]) ?_
          rintro ⟨before, x, tail, inner, hnames, -⟩
          exact absurd hnames (by simp)
        | cons next rest =>
          rw [Column.group?_eq_some_iff.mp hgroup] at hcol
          have hlength : (above ++ [name]).length = above.length + 1 := by simp
          simp only [getFrom, hcol]
          rw [← hlength]
          exact ih (List.cons_ne_nil _ _) (by simp [hpath])

/-- **A lookup fails where the path breaks off.** -/
theorem get_eq_error_iff {path : Path} : f.get path = .error e ↔ f.Misses [] path.segments e := by
  have hpath : path.segments = [] ++ path.segments := rfl
  exact getFrom_eq_error_iff path.nonempty hpath

/-! ### The walk through the leaves -/

theorem leavesBelow_eq (f : Frame) (above : List String) :
    f.leavesBelow above = Column.leavesBelow above f.columns := by
  cases f
  rw [leavesBelow]

/-- Beside each other, columns are walked through one by one. -/
theorem leavesBelow_eq_flatMap (above : List String) (cs : List Column) :
    Column.leavesBelow above cs = cs.flatMap fun c => Column.leavesBelow above [c] := by
  induction cs with
  | nil => simp [Column.leavesBelow]
  | cons c cs ih => cases c <;> simp [Column.leavesBelow, ih]

/-- In a frame, a path of one of its columns leads on from that column. -/
theorem groupAt?_of_mem_paths (hf : f.names.Nodup) {c : Column} (hc : c ∈ f.columns) {p : Path}
    (hp : p ∈ c.paths) :
    f.groupAt? p.segments = (c.descend? p.segments.tail).bind Column.group? := by
  obtain ⟨rest, hrest⟩ := Column.exists_segments_of_mem_paths hp
  rw [groupAt?, hrest, find?_cons, column?_name hf hc, Option.bind_some, List.tail_cons]

/-- The paths of a frame that do not lead to a group, by the columns in it. -/
theorem filter_paths_eq_flatMap (hf : f.names.Nodup) :
    (f.paths.filter fun p => (f.groupAt? p.segments).isNone) =
      f.columns.flatMap fun c =>
        c.paths.filter fun p => ((c.descend? p.segments.tail).bind Column.group?).isNone := by
  rw [paths, Column.pathsAll_eq_flatMap, List.filter_flatMap]
  refine List.flatMap_congr fun c hc => List.filter_congr fun p hp => ?_
  rw [groupAt?_of_mem_paths hf hc hp]

end Frame

/-- **The walk through a column** meets the paths in it that do not lead to a group. -/
theorem Column.leavesBelow_singleton {c : Column} (hc : c.WellFormed) (above : List String) :
    Column.leavesBelow above [c] =
      (c.paths.filter fun p => ((c.descend? p.segments.tail).bind Column.group?).isNone).map
        (Path.under above) := by
  induction c using Column.groupInduction generalizing above with
  | leaf c hleaf =>
    have hpaths : (c.paths.filter fun p =>
        ((c.descend? p.segments.tail).bind Column.group?).isNone) = [.single c.name] := by
      rw [paths_leaf hleaf]
      simp [hleaf]
    rw [hpaths, List.map_singleton]
    cases c with
    | group label g => exact absurd hleaf (by simp [group?])
    | value _ _ _ _ => rw [leavesBelow, leavesBelow]; rfl
    | frames _ _ => rw [leavesBelow, leavesBelow]; rfl
  | group label g ih =>
    have hg : g.WellFormed := (wellFormed_group _ _).mp hc
    have hinner : g.leavesBelow (above ++ [label]) =
        (g.paths.filter fun p => (g.groupAt? p.segments).isNone).map
          (Path.under (above ++ [label])) := by
      rw [Frame.filter_paths_eq_flatMap hg.nodup_names, List.map_flatMap, Frame.leavesBelow_eq,
        Frame.leavesBelow_eq_flatMap]
      exact List.flatMap_congr fun c hcg => ih c hcg (hg.of_mem hcg) _
    have hdescend (p : Path) :
        ((group label g).descend? p.segments).bind group? = g.groupAt? p.segments := by
      obtain ⟨name, rest, hsegments⟩ := List.exists_cons_of_ne_nil p.nonempty
      rw [hsegments]
      rfl
    -- the group itself is left out, and its paths are counted from it
    rw [leavesBelow, leavesBelow, List.append_nil, hinner, paths_group, List.filter_cons,
      if_neg (by simp [group?]), List.filter_map, List.map_map]
    refine congrArg₂ List.map (funext fun p => Path.ext (by simp)) (List.filter_congr fun p _ => ?_)
    simp [hdescend]

namespace Frame

variable {f : Frame}

/-- **The walk meets the paths that do not lead to a group.** -/
theorem leafPaths_eq (hf : f.WellFormed) :
    f.leafPaths = f.paths.filter fun p => (f.groupAt? p.segments).isNone := by
  rw [filter_paths_eq_flatMap hf.nodup_names, leafPaths, leavesBelow_eq, leavesBelow_eq_flatMap]
  refine List.flatMap_congr fun c hc => ?_
  rw [Column.leavesBelow_singleton (hf.of_mem hc), funext Path.under_nil, List.map_id']

theorem nodup_leafPaths (hf : f.WellFormed) : f.leafPaths.Nodup :=
  leafPaths_eq hf ▸ (nodup_paths hf).filter _

/-- **The walk writes down the paths of leaves.** -/
theorem mem_leafPaths (hf : f.WellFormed) (p : Path) : p ∈ f.leafPaths ↔ ∃ c, f.HasLeaf p c := by
  rw [leafPaths_eq hf, List.mem_filter, mem_paths hf]
  constructor
  · rintro ⟨⟨c, hc⟩, hgroup⟩
    refine ⟨c, hc, ?_⟩
    simpa [groupAt?, get_eq_ok_iff.mp hc] using hgroup
  · rintro ⟨c, hc, hgroup⟩
    exact ⟨⟨c, hc⟩, by simp [groupAt?, get_eq_ok_iff.mp hc, hgroup]⟩

/-! ### Depth first -/

/-- **Depth first**: two paths part in a group, and there the column at which the first goes on stands
before the one at which the second does. -/
def Precedes (f : Frame) (p q : Path) : Prop :=
  ∃ above g x y rest rest', f.groupAt? above = some g ∧ Before g.names x y ∧
    p.segments = above ++ x :: rest ∧ q.segments = above ++ y :: rest'

theorem Precedes.under {c : Column} {g : Frame} (hc : f.column? c.name = some c)
    (hg : c.group? = some g) {p q : Path} (h : g.Precedes p q) :
    f.Precedes (p.under [c.name]) (q.under [c.name]) := by
  obtain ⟨above, inner, x, y, rest, rest', hinner, hxy, hp, hq⟩ := h
  refine ⟨c.name :: above, inner, x, y, rest, rest', ?_, hxy, by simp [hp], by simp [hq]⟩
  rw [groupAt?_cons, hc, Option.bind_some, hg, Option.bind_some, hinner]

/-- The paths of columns side by side come depth first if those of each column do. -/
theorem pairwise_paths_of_columns (h : ∀ c ∈ f.columns, c.paths.Pairwise fun p q =>
      p.segments <+: q.segments ∨ f.Precedes p q) :
    f.paths.Pairwise fun p q => p.segments <+: q.segments ∨ f.Precedes p q := by
  rw [paths, Column.pathsAll_eq_flatMap, List.pairwise_flatMap]
  refine ⟨h, List.pairwise_iff_forall_sublist.mpr fun {c d} hcd p hp q hq => Or.inr ?_⟩
  obtain ⟨rest, hrest⟩ := Column.exists_segments_of_mem_paths hp
  obtain ⟨rest', hrest'⟩ := Column.exists_segments_of_mem_paths hq
  exact ⟨[], f, c.name, d.name, rest, rest', groupAt?_nil f, Before.map hcd Column.name, hrest, hrest'⟩

end Frame

/-- The paths of a column come depth first in every frame that it is a column of. -/
theorem Column.pairwise_paths {c : Column} (hc : c.WellFormed) {f : Frame}
    (hf : f.column? c.name = some c) :
    c.paths.Pairwise fun p q => p.segments <+: q.segments ∨ f.Precedes p q := by
  induction c using Column.groupInduction generalizing f with
  | leaf c hleaf =>
    rw [paths_leaf hleaf]
    exact List.pairwise_singleton _ _
  | group label g ih =>
    have hg : g.WellFormed := (wellFormed_group _ _).mp hc
    have hinner := Frame.pairwise_paths_of_columns fun d hd =>
      ih d hd (hg.of_mem hd) (Frame.column?_name hg.nodup_names hd)
    rw [paths_group, List.pairwise_cons, List.pairwise_map]
    constructor
    · intro p hp
      obtain ⟨q, -, rfl⟩ := List.mem_map.mp hp
      exact Or.inl (List.prefix_append [label] q.segments)
    · exact hinner.imp fun {p q} h => h.imp ((List.prefix_append_right_inj [label]).mpr ·)
        (Frame.Precedes.under hf rfl)

namespace Frame

variable {f : Frame}

/-- **All paths come depth first**, that of a group before those in it. -/
theorem pairwise_paths (hf : f.WellFormed) :
    f.paths.Pairwise fun p q => p.segments <+: q.segments ∨ f.Precedes p q :=
  pairwise_paths_of_columns fun _ hc =>
    Column.pairwise_paths (hf.of_mem hc) (column?_name hf.nodup_names hc)

/-- What more names lead to is in a group. -/
theorem exists_groupAt?_of_append {names : List String} {name : String} {rest : List String}
    {c : Column} (h : f.find? (names ++ name :: rest) = some c) : ∃ g, f.groupAt? names = some g := by
  rw [find?, Column.descend?_append, ← find?] at h
  obtain ⟨d, hd, hrest⟩ := Option.bind_eq_some_iff.mp h
  rcases hg : d.group? with _ | g
  · rw [Column.descend?_cons_of_group?_eq_none hg] at hrest
    exact absurd hrest (by simp)
  · exact ⟨g, by rw [groupAt?, hd, Option.bind_some, hg]⟩

/-- No leaf is below another. -/
theorem HasLeaf.eq_of_prefix {p q : Path} {c d : Column} (hp : f.HasLeaf p c) (hq : f.HasLeaf q d)
    (h : p.segments <+: q.segments) : p = q := by
  obtain ⟨rest, hrest⟩ := h
  cases rest with
  | nil => exact Path.ext (by rw [← hrest, List.append_nil])
  | cons name rest =>
    have hfind := get_eq_ok_iff.mp hq.1
    rw [← hrest] at hfind
    obtain ⟨g, hg⟩ := exists_groupAt?_of_append hfind
    rw [groupAt?, get_eq_ok_iff.mp hp.1, Option.bind_some, hp.2] at hg
    exact absurd hg (by simp)

/-- **The leaves come depth first.** -/
theorem pairwise_leafPaths (hf : f.WellFormed) : f.leafPaths.Pairwise f.Precedes := by
  have hpaths : f.leafPaths.Pairwise fun p q => p.segments <+: q.segments ∨ f.Precedes p q :=
    leafPaths_eq hf ▸ (pairwise_paths hf).filter _
  refine (hpaths.and (nodup_leafPaths hf)).imp_of_mem fun {p q} hp hq h => ?_
  obtain ⟨hpq | hpq, hne⟩ := h
  · obtain ⟨c, hc⟩ := (mem_leafPaths hf p).mp hp
    obtain ⟨d, hd⟩ := (mem_leafPaths hf q).mp hq
    exact absurd (hc.eq_of_prefix hd hpq) hne
  · exact hpq

/-! ### The schema -/

/-- **A schema has an entry for every leaf**, in the order of the leaves. -/
theorem leaves_schema (hf : f.WellFormed) :
    List.Forall₂ (fun path leaf => ∃ c, f.HasLeaf path c ∧
      leaf = { path, type := c.type, nullable := c.isNullable }) f.leafPaths f.schema.leaves := by
  have hfound : ∀ p ∈ f.leafPaths, ∃ c, f.HasLeaf p c := fun p hp => (mem_leafPaths hf p).mp hp
  rw [schema, leaves]
  generalize f.leafPaths = paths at hfound ⊢
  induction paths with
  | nil => exact .nil
  | cons p paths ih =>
    obtain ⟨⟨c, hc⟩, hrest⟩ := List.forall_mem_cons.mp hfound
    have hget : (f.get p).toOption = some c := by rw [hc.1]; rfl
    rw [List.filterMap_cons_some (by rw [hget]; rfl), List.map_cons]
    exact .cons ⟨c, hc, rfl⟩ (ih hrest)

/-- A path that leads to a group is looked up as that group. -/
theorem get_eq_ok_group_iff {path : Path} {g : Frame} :
    f.get path = .ok (.group path.last g) ↔ f.groupAt? path.segments = some g := by
  constructor
  · intro h
    rw [groupAt?, get_eq_ok_iff.mp h]
    rfl
  · intro h
    obtain ⟨c, hc, hg⟩ := Option.bind_eq_some_iff.mp h
    have hget : f.get path = .ok c := get_eq_ok_iff.mpr hc
    rw [hget, Column.group?_eq_some_iff.mp hg, name_of_get_eq_ok hget]

/-- **Lookup, the list of leaves and the schema agree.** The list has every path that resolves to a
column that is no group, once and depth first. Any other path resolves to the group that it leads to or
fails, with the error of the place where it breaks off. The schema has an entry for every path of the
list, in its order, with the type of the column and whether it may hold nulls. -/
theorem leafPaths_agree (hf : f.WellFormed) :
    f.leafPaths.Nodup ∧ f.leafPaths.Pairwise f.Precedes ∧
    (∀ path, path ∈ f.leafPaths ↔ ∃ c, f.HasLeaf path c) ∧
    (∀ path g, f.get path = .ok (.group path.last g) ↔ f.groupAt? path.segments = some g) ∧
    (∀ path, path ∉ f.leafPaths → f.groupAt? path.segments = none →
      ∃ e, f.get path = .error e ∧ f.Misses [] path.segments e) ∧
    (∀ path e, f.get path = .error e ↔ f.Misses [] path.segments e) ∧
    List.Forall₂ (fun path leaf => ∃ c, f.HasLeaf path c ∧
      leaf = { path, type := c.type, nullable := c.isNullable }) f.leafPaths f.schema.leaves := by
  refine ⟨nodup_leafPaths hf, pairwise_leafPaths hf, mem_leafPaths hf,
    fun path g => get_eq_ok_group_iff, fun path hpath hgroup => ?_, fun path e => get_eq_error_iff,
    leaves_schema hf⟩
  rcases hget : f.get path with e | c
  · exact ⟨e, rfl, get_eq_error_iff.mp hget⟩
  · have hleaf : c.group? = none := by
      rwa [groupAt?, get_eq_ok_iff.mp hget, Option.bind_some] at hgroup
    exact absurd ((mem_leafPaths hf path).mpr ⟨c, hget, hleaf⟩) hpath

/-- A group in a group, one without columns, and leaves of both kinds around them. -/
theorem leafPaths_agree_nested :
    let f : Frame :=
      ⟨[.ofTexts "a" [none], .group "g" ⟨[.frames "t" [.empty], .group "h" ⟨[.ofTexts "a" [some "1"]], 1⟩,
        .group "e" ⟨[], 1⟩], 1⟩, .ofTexts "z" [some "2"]], 1⟩
    f.WellFormed ∧
      f.leafPaths.map Path.segments = [["a"], ["g", "t"], ["g", "h", "a"], ["z"]] ∧
      f.leafPaths.Nodup ∧ f.leafPaths.Pairwise f.Precedes ∧
      f.get (.below ["g"] "x") = .error (.columnNotFound (.below ["g"] "x")) ∧
      f.get (.below ["a", "b"] "c") = .error (.notAColumnGroup (.single "a")) ∧
      List.Forall₂ (fun path leaf => ∃ c, f.HasLeaf path c ∧
        leaf = { path, type := c.type, nullable := c.isNullable }) f.leafPaths f.schema.leaves := by
  intro f
  have hf : f.WellFormed := by
    simp [f, wellFormed_iff, names, Column.WellFormed, Column.ofTexts, Column.ofValues, Column.name,
      Column.length, cellsWellFormed, framesWellFormed, Value.ofText, Value.WellFormed, Frame.empty]
  obtain ⟨hnodup, horder, -, -, -, -, hschema⟩ := leafPaths_agree hf
  exact ⟨hf, rfl, hnodup, horder, rfl, rfl, hschema⟩

/-- A path that is not in the list need not fail: it may lead to a group. -/
theorem not_fails_beside_leaves :
    ¬∀ f : Frame, f.WellFormed → ∀ path, path ∉ f.leafPaths → ∃ e, f.get path = .error e := by
  intro h
  obtain ⟨e, he⟩ := h ⟨[.group "g" ⟨[.ofTexts "x" [some "1"]], 1⟩], 1⟩ (by
    simp [wellFormed_iff, names, Column.WellFormed, Column.ofTexts, Column.ofValues, Column.name,
      Column.length, cellsWellFormed, Value.ofText, Value.WellFormed]) (.single "g") (by decide)
  exact absurd he (by simp [get, getFrom, column?, Column.name])

end Frame

end Colonnade
