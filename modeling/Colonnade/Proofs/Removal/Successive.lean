import Colonnade.Proofs.Removal.Survivors
import Colonnade.Proofs.Removal.Taken

/-!
# Removals one after the other

To a removal its paths are a set. In which order they come, and whether one comes twice, makes no
difference to what is left, to what is listed and to what is marked (`Column.strip_congr`).

Nor does it make a difference to what is left whether paths come at once or in two removals, if those of
the second lead to columns that the first has left (`Column.leave?_append`). A group may lose some of its
columns to the first and the rest to the second. It goes with the last of them, and so does a group around
it of which nothing else is left.

Both together are `Frame.remove_remove`.
-/

namespace Colonnade

theorem pathsThrough_append (name : String) (paths others : List (List String)) :
    pathsThrough name (paths ++ others) = pathsThrough name paths ++ pathsThrough name others :=
  List.filterMap_append

/-! ### The same paths in another order -/

section SamePaths

variable {paths others : List (List String)}

/-- Past a name the same paths are the same. -/
theorem mem_pathsThrough_congr (h : ∀ path, path ∈ others ↔ path ∈ paths) (name : String)
    (rest : List String) : rest ∈ pathsThrough name others ↔ rest ∈ pathsThrough name paths := by
  rw [mem_pathsThrough, mem_pathsThrough, h]

theorem isEmpty_congr (h : ∀ path, path ∈ others ↔ path ∈ paths) :
    others.isEmpty = paths.isEmpty := by
  rw [Bool.eq_iff_iff, List.isEmpty_iff, List.isEmpty_iff, List.eq_nil_iff_forall_not_mem,
    List.eq_nil_iff_forall_not_mem]
  exact forall_congr' fun path => not_congr (h path)

namespace Column

/-- **The same paths do the same to a column.** -/
theorem strip_congr (h : ∀ path, path ∈ others ↔ path ∈ paths) (above : List String)
    (address : List Nat) (c : Column) :
    c.strip above address others = c.strip above address paths := by
  induction c using groupInduction generalizing paths others above address with
  | leaf c hleaf =>
    rw [strip_eq, strip_eq, hleaf]
    simp only [mem_pathsThrough_congr h]
  | group label f ih =>
    have hinside := mem_pathsThrough_congr h label
    have hall (above : List String) (address : List Nat) (cs : List Column)
        (hcs : ∀ c ∈ cs, c ∈ f.columns) (i : Nat) :
        stripAll above address i (pathsThrough label others) cs =
          stripAll above address i (pathsThrough label paths) cs := by
      induction cs generalizing i with
      | nil => rfl
      | cons c cs ihcs =>
        rw [stripAll, stripAll, ih c (hcs c List.mem_cons_self) hinside,
          ihcs fun d hd => hcs d (List.mem_cons_of_mem c hd)]
    have hname : (group label f).name = label := rfl
    rw [strip_eq, strip_eq, hname]
    simp only [group?, hinside, isEmpty_congr hinside, hall _ _ f.columns fun _ hc => hc]

theorem prune?_congr (h : ∀ path, path ∈ others ↔ path ∈ paths) :
    prune? others = prune? paths :=
  funext fun c => by rw [prune?, strip_congr h, prune?]

theorem taken_congr (h : ∀ path, path ∈ others ↔ path ∈ paths) :
    taken others = taken paths :=
  funext fun c => by rw [taken, strip_congr h, taken]

theorem marked_congr (h : ∀ path, path ∈ others ↔ path ∈ paths) :
    marked others = marked paths :=
  funext fun c => by rw [marked, strip_congr h, marked]

end Column

end SamePaths

/-! ### Two removals -/

namespace Frame

variable {f : Frame} {paths others : List (List String)}

/-- Past the name of a column, the paths of the second removal lead into what the first has left of it. -/
theorem Resolves.left (h : (f.pruned paths).Resolves others) (hf : f.names.Nodup) {c : Column}
    (hc : c ∈ f.columns) {rest : List String} (hrest : rest ∈ pathsThrough c.name others) :
    ∃ d e, c.prune? paths = some d ∧ d.descend? rest = some e := by
  obtain ⟨-, e, he⟩ := h _ (mem_pathsThrough.mp hrest)
  rw [find?_cons, column?_pruned hf, column?_name hf hc, Option.bind_some] at he
  obtain ⟨d, hd, he⟩ := Option.bind_eq_some_iff.mp he
  exact ⟨d, e, hd, he⟩

/-- Two removals leave of a frame what they leave of its columns. -/
theorem pruned_append_of_columns (hf : f.names.Nodup) (h : (f.pruned paths).Resolves others)
    (hcolumns : ∀ c ∈ f.columns,
      (∀ rest ∈ pathsThrough c.name others, ∃ d e, c.prune? paths = some d ∧ d.descend? rest = some e) →
        c.prune? (paths ++ others) = (c.prune? paths).bind (Column.prune? others)) :
    f.pruned (paths ++ others) = (f.pruned paths).pruned others := by
  rw [pruned, pruned, pruned, List.filterMap_filterMap]
  exact congrArg (Frame.mk · f.rowCount)
    (List.filterMap_congr fun c hc => hcolumns c hc fun _ hrest => h.left hf hc hrest)

end Frame

namespace Column

variable {c : Column} {first second paths others : List (List String)}

/-- Two removals leave of a group what they leave of its frame, and the second takes nothing out of a
column that is no group without taking it as a whole. -/
theorem leave?_append_of_frame
    (h : ∀ rest ∈ second, ∃ d e, c.leave? first = some d ∧ d.descend? rest = some e)
    (hframe : ∀ f, c.group? = some f → (f.pruned first).Resolves second →
      f.pruned (first ++ second) = (f.pruned first).pruned second) :
    c.leave? (first ++ second) = (c.leave? first).bind (leave? second) := by
  rcases eq_or_ne second [] with rfl | hne
  · cases hd : c.leave? first <;> simp [hd]
  · obtain ⟨rest, hrest⟩ := List.exists_mem_of_ne_nil _ hne
    obtain ⟨d, e, hd, he⟩ := h rest hrest
    rw [hd, Option.bind_some]
    by_cases hthere : [] ∈ second
    · rw [leave?_of_mem hthere, leave?_of_mem (List.mem_append_right first hthere)]
    · have hnonempty : ∀ rest ∈ second, rest ≠ [] := fun rest hrest hnil => hthere (hnil ▸ hrest)
      obtain ⟨hfirst, ⟨hleaf, rfl⟩ | ⟨f, hf, rfl, -⟩⟩ := leave?_eq_some hd
      · obtain ⟨name, tail, rfl⟩ := List.exists_cons_of_ne_nil (hnonempty rest hrest)
        rw [descend?_cons_of_group?_eq_none hleaf] at he
        exact absurd he (by simp)
      · have hresolves : (f.pruned first).Resolves second := by
          intro rest hrest
          obtain ⟨d, e, hd', he⟩ := h rest hrest
          obtain rfl := Option.some.inj (hd.symm.trans hd')
          obtain ⟨name, tail, rfl⟩ := List.exists_cons_of_ne_nil (hnonempty rest hrest)
          exact ⟨List.cons_ne_nil _ _, e, he⟩
        have hboth : [] ∉ first ++ second := by simp [hfirst, hthere]
        rw [leave?_of_not_mem hboth, leave?_of_not_mem hthere, hf]
        simp only [group?, name, hframe f hf hresolves, ne_eq, List.append_eq_nil_iff, hne, and_false,
          not_false_eq_true, true_and]

/-- What is left of a column is said by the paths past its name. -/
theorem prune?_append_of_leave?
    (h : c.leave? (pathsThrough c.name paths ++ pathsThrough c.name others) =
      (c.leave? (pathsThrough c.name paths)).bind (leave? (pathsThrough c.name others))) :
    c.prune? (paths ++ others) = (c.prune? paths).bind (prune? others) := by
  rw [prune?_eq_leave?, pathsThrough_append, h, ← prune?_eq_leave?]
  refine Option.bind_congr fun d hd => ?_
  rw [prune?_eq_leave?, name_of_prune? hd]

/-- **What two removals leave of a column** is what is left of it if all paths come at once, by induction
on the column. -/
theorem leave?_append (hc : c.WellFormed)
    (h : ∀ rest ∈ second, ∃ d e, c.leave? first = some d ∧ d.descend? rest = some e) :
    c.leave? (first ++ second) = (c.leave? first).bind (leave? second) := by
  induction c using groupInduction generalizing first second with
  | leaf c hleaf =>
    exact leave?_append_of_frame h fun f hf => absurd (hleaf.symm.trans hf) (by simp)
  | group label f ih =>
    have hf : f.WellFormed := (wellFormed_group _ _).mp hc
    refine leave?_append_of_frame h fun g hg hresolves => ?_
    obtain rfl : f = g := Option.some.inj hg
    refine Frame.pruned_append_of_columns hf.nodup_names hresolves fun c hmem hinto => ?_
    rw [prune?_eq_leave?] at hinto
    exact prune?_append_of_leave? (ih c hmem (hf.of_mem hmem) hinto)

end Column

namespace Frame

variable {f : Frame}

/-- **What two removals leave of a frame.** -/
theorem pruned_append (hf : f.WellFormed) {paths others : List (List String)}
    (h : (f.pruned paths).Resolves others) :
    f.pruned (paths ++ others) = (f.pruned paths).pruned others := by
  refine pruned_append_of_columns hf.nodup_names h fun c hc hinto => ?_
  rw [Column.prune?_eq_leave?] at hinto
  exact Column.prune?_append_of_leave? (Column.leave?_append (hf.of_mem hc) hinto)

/-- What is found in the frame that remains was there before. -/
theorem exists_get_of_pruned (hf : f.WellFormed) {paths : List (List String)} {path : Path} {c : Column}
    (h : (f.pruned paths).get path = .ok c) : ∃ d, f.get path = .ok d := by
  obtain ⟨d, hd, -⟩ := (find?_pruned hf path.nonempty).mp (get_eq_ok_iff.mp h)
  exact ⟨d, get_eq_ok_iff.mpr hd⟩

/-- **Removals compose, and to each its paths are a set.** Of a frame from which columns are removed and
then, out of what is left, others, there remains what remains if all paths come at once. And the same paths
in another order, or some of them more than once, are the same removal: the frame, the list and the
layout. -/
theorem remove_remove (hf : f.WellFormed) {paths : List Path}
    (hpaths : ∀ path ∈ paths, ∃ c, f.get path = .ok c) :
    ∃ first, f.remove paths = .ok first ∧
      (∀ others : List Path, (∀ path ∈ others, ∃ c, first.frame.get path = .ok c) →
        ∃ second whole, first.frame.remove others = .ok second ∧
          f.remove (paths ++ others) = .ok whole ∧ second.frame = whole.frame) ∧
      ∀ others : List Path, (∀ path, path ∈ others ↔ path ∈ paths) → f.remove others = .ok first := by
  refine ⟨_, (remove_eq_ok_iff hf).mpr ⟨hpaths, rfl⟩, fun others hothers => ?_, fun others hsame => ?_⟩
  · have hwhole : ∀ path ∈ paths ++ others, ∃ c, f.get path = .ok c := by
      intro path hpath
      rcases List.mem_append.mp hpath with hpath | hpath
      · exact hpaths path hpath
      · exact exists_get_of_pruned hf (hothers path hpath).choose_spec
    refine ⟨_, _, (remove_eq_ok_iff (hf.pruned _)).mpr ⟨hothers, rfl⟩,
      (remove_eq_ok_iff hf).mpr ⟨hwhole, rfl⟩, ?_⟩
    rw [List.map_append]
    exact (pruned_append hf (resolves_map_segments hothers)).symm
  · have hsegments (segments : List String) :
        segments ∈ others.map Path.segments ↔ segments ∈ paths.map Path.segments := by
      simp only [List.mem_map, hsame]
    refine (remove_eq_ok_iff hf).mpr ⟨fun path hpath => hpaths path ((hsame path).mp hpath), ?_⟩
    simp only [pruned, marked, Column.takenAll, Column.prune?_congr hsegments,
      Column.taken_congr hsegments, Column.marked_congr hsegments]

/-- A group that loses one of its columns and all but one of those of the group in it to the first removal,
and the last of them to the second; the paths of the first come also in another order and twice. -/
theorem remove_remove_nested :
    let f : Frame :=
      ⟨[.group "g" ⟨[.ofTexts "x" [some "1"],
          .group "h" ⟨[.ofTexts "y" [none], .ofTexts "z" [some "2"]], 1⟩], 1⟩,
        .ofTexts "a" [some "3"]], 1⟩
    let paths : List Path := [.below ["g", "h"] "y", .below ["g"] "x"]
    let others : List Path := [.below ["g", "h"] "z"]
    let again : List Path := [.below ["g"] "x", .below ["g", "h"] "y", .below ["g"] "x"]
    (f.WellFormed ∧ ∀ path ∈ paths, ∃ c, f.get path = .ok c) ∧
      ∃ first, f.remove paths = .ok first ∧ first.frame.names = ["g", "a"] ∧
        (∃ second whole, first.frame.remove others = .ok second ∧
          f.remove (paths ++ others) = .ok whole ∧ second.frame = whole.frame ∧
            second.frame.names = ["a"]) ∧
        f.remove again = .ok first := by
  intro f paths others again
  have hf : f.WellFormed := by
    simp [f, Frame.WellFormed, columnsWellFormed, Column.WellFormed, Column.ofTexts,
      Column.ofValues, cellsWellFormed, Value.ofText, Value.WellFormed, Column.name, Column.length]
  have hpaths : ∀ path ∈ paths, ∃ c, f.get path = .ok c :=
    List.forall_mem_cons.mpr ⟨⟨_, rfl⟩, List.forall_mem_singleton.mpr ⟨_, rfl⟩⟩
  obtain ⟨first, hfirst, hcompose, hset⟩ := remove_remove hf hpaths
  obtain ⟨left, hleft, hnames, hget⟩ : ∃ left, f.remove paths = .ok left ∧
      left.frame.names = ["g", "a"] ∧ ∃ c, left.frame.get (.below ["g", "h"] "z") = .ok c :=
    ⟨_, rfl, rfl, _, rfl⟩
  obtain rfl := Except.ok.inj (hfirst.symm.trans hleft)
  obtain ⟨second, whole, hsecond, hwhole, hframe⟩ :=
    hcompose others (List.forall_mem_singleton.mpr hget)
  obtain ⟨all, hall, hall'⟩ : ∃ all, f.remove (paths ++ others) = .ok all ∧ all.frame.names = ["a"] :=
    ⟨_, rfl, rfl⟩
  obtain rfl := Except.ok.inj (hwhole.symm.trans hall)
  refine ⟨⟨hf, hpaths⟩, first, hfirst, hnames,
    ⟨second, whole, hsecond, hwhole, hframe, hframe ▸ hall'⟩, hset again fun path => ?_⟩
  simp [again, paths, or_comm]

end Frame

end Colonnade
