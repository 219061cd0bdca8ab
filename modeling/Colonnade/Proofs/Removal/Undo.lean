import Mathlib
import Colonnade.Proofs.Merge.Success
import Colonnade.Proofs.Removal.Pruned

/-!
# Taking out what was put in

Removing the paths of requests that have been merged into a frame gives the frame back, wherever
the merge has placed the new columns: `Frame.remove_merge`. The layout may be of any frame and in any
state, for a walk along it never changes the order of what is there (`Frame.sublist_placedNames`).

A level says for every name what becomes of it, and the removal answers case by case:

| name | after the merge | after the removal |
| --- | --- | --- |
| without requests | as it was | as it was |
| of a group that is there | a group with more columns | what it was, by the level below |
| of a request that ends here | the column of the request | nothing, as a whole |
| only on the way of requests | a new group | nothing, for all its columns go |

A group that is there has to have a column, or it would be taken for one that the merge has made.
Nothing is asked of the columns of the requests.
-/

namespace Colonnade

/-- Lists in the order of a third, which has no member twice, are the same if their members are. -/
theorem eq_of_sublist_of_mem_iff {α : Type} {l m whole : List α} (hwhole : whole.Nodup)
    (hl : l.Sublist whole) (hm : m.Sublist whole) (h : ∀ a, a ∈ l ↔ a ∈ m) : l = m := by
  induction whole generalizing l m with
  | nil => rw [List.sublist_nil.mp hl, List.sublist_nil.mp hm]
  | cons a whole ih =>
    obtain ⟨hnot, hrest⟩ := List.nodup_cons.mp hwhole
    -- the first member of the whole is the first of both or of neither
    cases hl with
    | cons _ hl =>
      cases hm with
      | cons _ hm => exact ih hrest hl hm h
      | cons_cons _ hm => exact absurd (hl.subset ((h a).mpr List.mem_cons_self)) hnot
    | cons_cons _ hl =>
      cases hm with
      | cons _ hm => exact absurd (hm.subset ((h a).mp List.mem_cons_self)) hnot
      | cons_cons _ hm =>
        refine congrArg (a :: ·) (ih hrest hl hm fun b => ?_)
        have hb := h b
        simp only [List.mem_cons] at hb
        by_cases hba : b = a
        · subst hba
          exact iff_of_false (fun hmem => hnot (hl.subset hmem)) fun hmem => hnot (hm.subset hmem)
        · simpa [hba] using hb

/-! ### What a merge leaves as it is -/

namespace Frame

variable {below : MergeBelow} {above : List String} {layout : Option Layout}
variable {frame : Option Frame} {pending : List Pending} {depth : Nat} {r : Frame}

theorem sublist_placedNames (layout : Option Layout) (pending : List Pending)
    (names : List String) : names.Sublist (placedNames layout pending names) :=
  Walk.sublist_place _ _ _

/-- **What a merge with requests has done**: one level, of which every name is seated and filled. -/
theorem exists_level_of_mergeBelow (hp : pending ≠ []) (hdepth : ∀ p ∈ pending, p.rest.length < depth)
    (h : mergeBelow depth above layout frame pending = .ok r) :
    ∃ d, depth = d + 1 ∧ (frame.getD empty).names.Nodup ∧
      r.names = placedNames layout pending (frame.getD empty).names ∧
      r.rowCount = levelRows frame r.columns ∧
      ∀ name, ∃ b,
        (Part.named pending name).seat above ((frame.getD empty).column? name) = .ok b ∧
        (Part.named pending name).fill (mergeBelow d) above layout b = .ok (r.column? name) := by
  obtain ⟨p, hmem⟩ := List.exists_mem_of_ne_nil _ hp
  obtain ⟨d, rfl⟩ : ∃ d, depth = d + 1 :=
    Nat.exists_eq_succ_of_ne_zero (Nat.ne_zero_of_lt (hdepth p hmem))
  rw [mergeBelow_succ d above layout frame hp] at h
  have hnodup := nodup_names_of_mergeLevel h
  obtain ⟨hnames, hjoin, -, hrows⟩ := (mergeLevel_eq_ok_iff hnodup).mp h
  exact ⟨d, rfl, hnodup, hnames, hrows, fun name => bind_eq_ok_iff.mp (hjoin name)⟩

/-! ### Requests lead to columns -/

/-- **The names of a request lead to a column of the result.** -/
theorem exists_find?_of_mergeBelow (hdepth : ∀ p ∈ pending, p.rest.length < depth)
    (h : mergeBelow depth above layout frame pending = .ok r) {p : Pending} (hp : p ∈ pending) :
    ∃ c, r.find? p.names = some c := by
  induction depth generalizing above layout frame pending r p with
  | zero => exact absurd (hdepth p hp) (Nat.not_lt_zero _)
  | succ depth ih =>
    obtain ⟨d, hd, -, -, -, hname⟩ :=
      exists_level_of_mergeBelow (List.ne_nil_of_mem hp) hdepth h
    obtain rfl : depth = d := Nat.succ.inj hd
    obtain ⟨b, hseat, hfill⟩ := hname p.name
    have hmem : p ∈ (Part.named pending p.name).members := Part.mem_named.mpr ⟨hp, rfl⟩
    have hjoin : join (mergeBelow depth) above layout frame pending p.name =
        .ok (r.column? p.name) := bind_eq_ok_iff.mpr ⟨b, hseat, hfill⟩
    obtain ⟨c, hc⟩ := Option.isSome_iff_exists.mp
      ((isSome_of_join hjoin).mpr (Or.inr (List.mem_map_of_mem hp)))
    rw [Pending.names, find?_cons, hc, Option.bind_some]
    by_cases hnil : p.rest = []
    · exact ⟨c, by rw [hnil, Column.descend?_nil]⟩
    · -- the column is a group, and the rest of the names leads on in the level below
      rcases Part.fill_eq_ok hfill with ⟨hdeeper, -⟩ | ⟨-, -, r', hr', hcr⟩
      · exact absurd (Part.deeper_eq_nil_iff.mp hdeeper p hmem) hnil
      · obtain rfl := Option.some.inj (hc.symm.trans hcr)
        obtain ⟨q, hq, hnames, -⟩ := Part.exists_mem_deeper hmem hnil
          ((Part.named pending p.name).child layout).1
        obtain ⟨e, he⟩ := ih (fun q hq => length_rest_of_mem_deeper hdepth hq) hr' hq
        rw [Pending.names, find?_cons] at he
        refine ⟨e, ?_⟩
        rw [← hnames, Pending.names, Column.descend?_group_cons]
        exact he

/-! ### Requests leave no trace -/

/-- **The groups of a frame that requests lead into have columns.** -/
def Inhabits (f : Frame) (pending : List Pending) : Prop :=
  ∀ p ∈ pending, ∀ above below, p.names = above ++ below → above ≠ [] → below ≠ [] →
    ∀ g, f.groupAt? above = some g → g.columns ≠ []

/-- The names that requests for a name lead along from there. -/
theorem pathsThrough_map_names (pending : List Pending) (name : String) :
    pathsThrough name (pending.map Pending.names) =
      (Part.named pending name).members.map Pending.rest := by
  rw [Part.named, pathsThrough]
  induction pending with
  | nil => rfl
  | cons p pending ih =>
    by_cases h : p.name = name
    · simp [Pending.names, h, ih]
    · simp [Pending.names, h, ih]

/-- Where no request ends, they are the names of those that go on. -/
theorem pathsThrough_eq_names_deeper {name : String}
    (ht : (Part.named pending name).terminal = []) (i : Option Nat) :
    pathsThrough name (pending.map Pending.names) =
      ((Part.named pending name).deeper i).map Pending.names := by
  rw [pathsThrough_map_names, Part.deeper, List.map_filterMap, ← List.filterMap_eq_map]
  refine List.filterMap_congr fun p hp => ?_
  obtain ⟨q, hq⟩ := Pending.exists_deeper? (Part.terminal_eq_nil_iff.mp ht p hp) i
  simp [hq, (Pending.deeper?_eq_some hq).1]

theorem not_mem_pathsThrough {name : String} (ht : (Part.named pending name).terminal = []) :
    [] ∉ pathsThrough name (pending.map Pending.names) := by
  rw [pathsThrough_map_names]
  intro hmem
  obtain ⟨p, hp, hnil⟩ := List.mem_map.mp hmem
  exact Part.terminal_eq_nil_iff.mp ht p hp hnil

/-- In a group of the frame, the groups further in have columns, -/
theorem Inhabits.deeper {f g : Frame} (h : f.Inhabits pending) {c : Column} {name : String}
    (hc : f.column? name = some c) (hg : c.group? = some g) (i : Option Nat) :
    g.Inhabits ((Part.named pending name).deeper i) := by
  intro q hq above below heq _ hbelow k hk
  obtain ⟨p, hp, hrest, -⟩ := Part.exists_of_mem_deeper hq
  obtain ⟨hmem, rfl⟩ := Part.mem_named.mp hp
  refine h p hmem (p.name :: above) below ?_ (List.cons_ne_nil _ _) hbelow k
    (groupAt?_cons_eq_some_iff.mpr ⟨c, g, hc, hg, hk⟩)
  rw [Pending.names, hrest, heq]
  rfl

/-- and so has the group itself, if a request goes on into it. -/
theorem Inhabits.columns_ne_nil {f g : Frame} (h : f.Inhabits pending) {c : Column} {name : String}
    (hc : f.column? name = some c) (hg : c.group? = some g)
    (hd : (Part.named pending name).deeper none ≠ []) : g.columns ≠ [] := by
  obtain ⟨q, hq⟩ := List.exists_mem_of_ne_nil _ hd
  obtain ⟨p, hp, hrest, -⟩ := Part.exists_of_mem_deeper hq
  obtain ⟨hmem, rfl⟩ := Part.mem_named.mp hp
  refine h p hmem [p.name] p.rest rfl (List.cons_ne_nil _ _) ?_ g
    (groupAt?_cons_eq_some_iff.mpr ⟨c, g, hc, hg, rfl⟩)
  rw [hrest]
  exact List.cons_ne_nil _ _

/-- The empty frame has no groups. -/
theorem inhabits_empty (pending : List Pending) : empty.Inhabits pending := by
  intro p _ above below _ habove _ g hg
  obtain ⟨name, rest, rfl⟩ := List.exists_cons_of_ne_nil habove
  exact absurd hg (by simp [groupAt?_cons, column?, empty])

/-- **What is left of a name is the column it had**, if the level below leaves no trace: the
table above, row by row. -/
theorem prune?_of_fill (hf : (frame.getD empty).Inhabits pending) {name : String} {b : Option Column}
    (hseat : (Part.named pending name).seat above ((frame.getD empty).column? name) = .ok b)
    (hfill : (Part.named pending name).fill below above layout b = .ok (r.column? name))
    (hbelow : ∀ (above : List String) (layout : Option Layout) (inner : Option Frame) (i : Option Nat)
      (r' : Frame), (inner.getD empty).Inhabits ((Part.named pending name).deeper i) →
        below above layout inner ((Part.named pending name).deeper i) = .ok r' →
        (r'.pruned (((Part.named pending name).deeper i).map Pending.names)).columns =
            (inner.getD empty).columns ∧
          ((inner.getD empty).columns ≠ [] → r'.rowCount = (inner.getD empty).rowCount)) :
    (r.column? name).bind (Column.prune? (pending.map Pending.names)) =
      (frame.getD empty).column? name := by
  have hlabel : (Part.named pending name).name = name := rfl
  rcases Part.seat_eq_ok hseat with ⟨c, hc, ht, rfl⟩ | ⟨hnone, ht, rfl⟩ | ⟨t, hnone, ht, -⟩
  · have hname : c.name = name := name_of_column?_eq_some hc
    rcases Part.fill_eq_ok hfill with ⟨hd, hcr⟩ | ⟨hd, hgroups, r', hr', hcr⟩
    · -- no requests: the column is as it was
      have hpaths : pathsThrough c.name (pending.map Pending.names) = [] := by
        rw [hname, pathsThrough_eq_names_deeper ht none, hd]
        rfl
      rw [hcr, hc, Option.bind_some, Column.prune?_of_pathsThrough_eq_nil hpaths]
    · -- requests lead into a group that is there
      obtain ⟨g, hg⟩ := hgroups c rfl
      rw [Option.bind_some, hg] at hr'
      obtain ⟨hcolumns, hrows⟩ := hbelow _ _ (some g) _ r' (hf.deeper hc hg _) hr'
      have hne : g.columns ≠ [] := hf.columns_ne_nil hc hg hd
      rw [← pathsThrough_eq_names_deeper ht, Option.getD_some] at hcolumns
      replace hcolumns : r'.columns.filterMap
        (Column.prune? (pathsThrough name (pending.map Pending.names))) = g.columns := hcolumns
      rw [hcr, hc, Option.bind_some, hlabel, Column.prune?_group (not_mem_pathsThrough ht)]
      rw [hcolumns, if_neg fun hempty => hne hempty.2, hrows hne,
        Column.group?_eq_some_iff.mp hg, hname]
      cases g
      rfl
  · rcases Part.fill_eq_ok hfill with ⟨-, hcr⟩ | ⟨hd, -, r', hr', hcr⟩
    · rw [hcr, hnone]
      rfl
    · -- a new group: all of its columns go, and it goes with them
      obtain ⟨hcolumns, -⟩ := hbelow _ _ none _ r' (inhabits_empty _) hr'
      rw [← pathsThrough_eq_names_deeper ht] at hcolumns
      have hpaths : pathsThrough name (pending.map Pending.names) ≠ [] := by
        rw [pathsThrough_eq_names_deeper ht none]
        simpa using hd
      rw [hcr, hnone, Option.bind_some, hlabel, Column.prune?_group (not_mem_pathsThrough ht)]
      exact if_pos ⟨hpaths, hcolumns⟩
  · -- a request ends here, and what it has brought goes as a whole
    have hwhole : [] ∈ pathsThrough name (pending.map Pending.names) := by
      obtain ⟨hmem, hnil⟩ := Part.mem_terminal.mp (ht ▸ List.mem_singleton_self t)
      rw [pathsThrough_map_names]
      exact List.mem_map.mpr ⟨t, hmem, hnil⟩
    rw [hnone]
    cases hc : r.column? name with
    | none => rfl
    | some c => exact Column.prune?_of_mem ((name_of_column?_eq_some hc).symm ▸ hwhole)

/-- **Requests leave no trace** when their names are removed again, by induction on the depth. -/
theorem pruned_of_mergeBelow (hdepth : ∀ p ∈ pending, p.rest.length < depth)
    (hf : (frame.getD empty).Inhabits pending)
    (h : mergeBelow depth above layout frame pending = .ok r) :
    (r.pruned (pending.map Pending.names)).columns = (frame.getD empty).columns ∧
      ((frame.getD empty).columns ≠ [] → r.rowCount = (frame.getD empty).rowCount) := by
  induction depth generalizing above layout frame pending r with
  | zero =>
    have hp : pending = [] := List.eq_nil_iff_forall_not_mem.mpr fun p hp =>
      Nat.not_lt_zero _ (hdepth p hp)
    subst hp
    obtain rfl := Except.ok.inj (h.symm.trans (mergeBelow_nil 0 above layout frame))
    exact ⟨Column.filterMap_prune?_nil _, fun _ => rfl⟩
  | succ depth ih =>
    by_cases hp : pending = []
    · subst hp
      obtain rfl := Except.ok.inj (h.symm.trans (mergeBelow_nil (depth + 1) above layout frame))
      exact ⟨Column.filterMap_prune?_nil _, fun _ => rfl⟩
    · obtain ⟨d, hd, hnodup, hnames, hrows, hname⟩ := exists_level_of_mergeBelow hp hdepth h
      obtain rfl : depth = d := Nat.succ.inj hd
      have hr : r.names.Nodup := hnames ▸ nodup_placedNames hnodup
      have hleft : (r.pruned (pending.map Pending.names)).names.Nodup :=
        hr.sublist (names_pruned_sublist _ _)
      have hcolumn (name : String) : (r.pruned (pending.map Pending.names)).column? name =
          (frame.getD empty).column? name := by
        obtain ⟨b, hseat, hfill⟩ := hname name
        rw [column?_pruned hr]
        exact prune?_of_fill hf hseat hfill fun _ _ _ _ _ hinner hr' =>
          ih (fun q hq => length_rest_of_mem_deeper hdepth hq) hinner hr'
      constructor
      · -- both have the columns of the result that were there, in the order of the result
        refine columns_eq_of_names_eq hleft ?_ fun name _ => hcolumn name
        refine eq_of_sublist_of_mem_iff hr (names_pruned_sublist _ _) ?_ fun name => ?_
        · exact hnames ▸ sublist_placedNames layout pending _
        · rw [← not_iff_not, ← column?_eq_none_iff, ← column?_eq_none_iff, hcolumn]
      · intro hne
        cases frame with
        | none => exact absurd rfl hne
        | some f =>
          have hne' : f.columns ≠ [] := hne
          rw [hrows, levelRows]
          simp [hne']

/-! ### The removal -/

/-- A removal of paths that resolve is the check of what is left. -/
theorem remove_of_resolves {f : Frame} {paths : List Path}
    (hpaths : ∀ path ∈ paths, ∃ c, f.get path = .ok c) {left : Frame}
    (hleft : withRowCount (f.pruned (paths.map Path.segments)).columns f.rowCount = .ok left) :
    ∃ removal, f.remove paths = .ok removal ∧ removal.frame = left := by
  have hresolve : (paths.forM fun path => discard (f.get path)) = .ok ⟨⟩ := by
    refine forM_eq_ok_iff.mpr fun path hpath => ?_
    obtain ⟨c, hc⟩ := hpaths path hpath
    rw [hc]
    rfl
  have hstrip : (Column.stripAll [] [] 0 (paths.map Path.segments) f.columns).kept =
      (f.pruned (paths.map Path.segments)).columns := by
    rw [Column.stripAll_eq]
    rfl
  rw [← hstrip] at hleft
  rw [remove]
  exact ⟨_, bind_eq_ok_iff.mpr ⟨⟨⟩, hresolve, bind_eq_ok_iff.mpr ⟨left, hleft, rfl⟩⟩, rfl⟩

/-- **Removal undoes insertion.** When requests have been merged into a frame with columns, whose
groups on their way have columns too, then removing their paths gives the frame, whatever the
layout. -/
theorem remove_merge {f : Frame} {requests : List Request} {layout : Option Layout} {r : Frame}
    (hf : f.WellFormed) (hcolumns : f.columns ≠ [])
    (hgroups : ∀ q ∈ requests, ∀ path : Path, q.path.startsWith path → path ≠ q.path →
      ∀ label g, f.get path = .ok (.group label g) → g.columns ≠ [])
    (h : merge (some f) requests layout = .ok r) :
    ∃ removal, r.remove (requests.map Request.path) = .ok removal ∧ removal.frame = f := by
  have hdepth : ∀ p ∈ requests.map (Pending.ofRequest layout), p.rest.length < deepest requests :=
    fun _ hp => length_rest_lt_deepest hp
  have hnames : (requests.map (Pending.ofRequest layout)).map Pending.names =
      (requests.map Request.path).map Path.segments := by
    simp [Function.comp_def]
  have hinhabits : f.Inhabits (requests.map (Pending.ofRequest layout)) := by
    refine List.forall_mem_map.mpr fun q hq above below heq habove hbelow g hg => ?_
    rw [Pending.names_ofRequest] at heq
    obtain ⟨c, hc, hgroup⟩ := Option.bind_eq_some_iff.mp hg
    rw [Column.group?_eq_some_iff.mp hgroup] at hc
    refine hgroups q hq ⟨above, habove⟩ (Path.startsWith_iff.mpr ⟨below, heq⟩) ?_ c.name g
      (get_eq_ok_iff.mpr hc)
    rintro hpath
    rw [← hpath] at heq
    exact hbelow (by simpa using heq)
  have hinhabits' : ((some f).getD empty).Inhabits (requests.map (Pending.ofRequest layout)) :=
    hinhabits
  obtain ⟨hleft, hrows⟩ := pruned_of_mergeBelow hdepth hinhabits' h
  rw [hnames, Option.getD_some] at hleft
  refine remove_of_resolves ?_ ?_
  · refine List.forall_mem_map.mpr fun q hq => ?_
    obtain ⟨c, hc⟩ := exists_find?_of_mergeBelow hdepth h (List.mem_map_of_mem hq)
    rw [Pending.names_ofRequest] at hc
    exact ⟨c, get_eq_ok_iff.mpr hc⟩
  · have hsame : r.rowCount = f.rowCount := hrows hcolumns
    rw [hleft, hsame]
    obtain ⟨columns, rowCount⟩ := f
    exact withRowCount_eq_ok_iff.mpr ⟨rfl, hf.1, hf.2.1⟩

/-- A group with a column from below it, a new group and a column to the left of what is there, placed
along the layout of another frame. -/
theorem remove_merge_nested :
    let f : Frame := ⟨[.group "g" ⟨[.ofTexts "x" [some "1"]], 1⟩, .ofTexts "a" [some "2"]], 1⟩
    let requests : List Request :=
      [{ path := .below ["g", "h"] "y", column := .ofTexts "t" [some "3"], node := some 1 },
        { path := .below ["g"] "h", column := .group "t" ⟨[.ofTexts "z" [none]], 1⟩ },
        { path := .below ["k"] "w", column := .ofTexts "t" [none], node := some 3 },
        { path := .single "b", column := .ofTexts "t" [some "4"], node := some 0 }]
    let layout : Layout := .node "" false [.node "b" true [], .node "g" false [.node "h" true []]]
    ∃ r removal, merge (some f) requests (some layout) = .ok r ∧ r ≠ f ∧
      r.remove (requests.map Request.path) = .ok removal ∧ removal.frame = f := by
  intro f requests layout
  have hf : f.WellFormed := by
    simp [f, Frame.WellFormed, columnsWellFormed, Column.WellFormed, Column.ofTexts,
      Column.ofValues, cellsWellFormed, Value.ofText, Value.WellFormed, Column.name, Column.length]
  obtain ⟨r, hr, hrows⟩ : ∃ r, merge (some f) requests (some layout) = .ok r ∧
      r.columns.length = 4 := ⟨_, by cbv, by cbv⟩
  have hne : r ≠ f := by
    rintro rfl
    exact absurd hrows (by decide)
  have hgroups : ∀ q ∈ requests, ∀ path : Path, q.path.startsWith path → path ≠ q.path →
      ∀ label g, f.get path = .ok (.group label g) → g.columns ≠ [] := by
    -- there is one group in the frame, and it holds a column
    intro q _ path _ _ label g hg hempty
    rw [get_eq_ok_iff] at hg
    obtain ⟨name, rest, hsegments⟩ := List.exists_cons_of_ne_nil path.nonempty
    rw [hsegments, find?_cons] at hg
    have hleaf (text : Option String) (label' : String) (below : List String) :
        (Column.ofTexts label' [text]).descend? below ≠ some (.group label g) := by
      cases below <;> simp [Column.ofTexts, Column.ofValues, Column.descend?]
    by_cases hg' : name = "g"
    · cases rest with
      | nil =>
        obtain ⟨-, rfl⟩ : _ ∧ _ = g := by simpa [hg', column?, f, Column.name] using hg
        exact absurd hempty (List.cons_ne_nil _ _)
      | cons next rest =>
        subst hg'
        obtain ⟨c, hc, hbelow⟩ := Option.bind_eq_some_iff.mp (show
          (column? ⟨[.ofTexts "x" [some "1"]], 1⟩ next).bind (Column.descend? · rest) = _ from hg)
        obtain rfl := List.mem_singleton.mp (List.mem_of_find?_eq_some hc)
        exact hleaf _ _ _ hbelow
    · obtain ⟨c, hc, hbelow⟩ := Option.bind_eq_some_iff.mp hg
      rcases List.mem_pair.mp (List.mem_of_find?_eq_some hc) with rfl | rfl
      · exact hg' (name_of_column?_eq_some hc).symm
      · exact hleaf _ _ _ hbelow
  obtain ⟨removal, hremoval, hframe⟩ := remove_merge hf (List.cons_ne_nil _ _) hgroups hr
  exact ⟨r, removal, hr, hne, hremoval, hframe⟩

end Frame

end Colonnade
