import Colonnade.Proofs.Merge.Order
import Colonnade.Proofs.Merge.Rearranged
import Colonnade.Proofs.Removal.Listing
import Colonnade.Proofs.Removal.Restore
import Colonnade.Proofs.Removal.Survivors
import Colonnade.Proofs.Stack.Rows

/-!
# Some of it is back

What a removal took out may be put back by several merges, each with the layout of the removal. This
file is about the frame in between, `Regaining`: some entries are back, the others are still out, and it
is not said where the columns stand.

* `Regaining.exists_merge` – **the next entry can be merged too**, and then it is back. Without the
  layout this is one insertion after the other, and what is placed otherwise is the same frame in another
  order.
* `Regaining.find?_eq_none_iff` – **a column is there if the removal had left it or an entry has brought
  it**. An entry brings more than its own column: what is inside of that, and the groups on the way to
  it (`Taken.Brings`).
* `Frame.exists_place_of_mem_takenAll` – an entry has a place at every level on its way: the position
  that the column on the way had there, if that column has gone.
-/

namespace Colonnade

/-! ### What an entry brings -/

/-- Of a path and the names of a column in a group, one begins with the other if the path leads through
the column or ends above it. -/
theorem prefix_or_prefix_concat_iff {path above : List String} {x : String} :
    above ++ [x] <+: path ∨ path <+: above ++ [x] ↔
      (∃ rest, path = above ++ x :: rest) ∨ path <+: above := by
  rw [List.prefix_concat_iff]
  constructor
  · rintro (⟨rest, rfl⟩ | rfl | h)
    · exact Or.inl ⟨rest, by rw [List.append_assoc]; rfl⟩
    · exact Or.inl ⟨[], rfl⟩
    · exact Or.inr h
  · rintro (⟨rest, rfl⟩ | h)
    · exact Or.inl ⟨rest, by rw [List.append_assoc]; rfl⟩
    · exact Or.inr (Or.inr h)

/-- **An entry brings** its column, what is inside of it and the groups on the way to it. -/
def Removed.Brings (r : Removed) (names : List String) : Prop :=
  names <+: r.path.segments ∨ r.path.segments <+: names

namespace Taken

/-- The same for an entry as a level counts it. -/
def Brings (e : Taken) (names : List String) : Prop :=
  names <+: e.names ∨ e.names <+: names

variable {es inner : List Taken} {e : Taken} {name : String} {rest : List String} {i : Nat}

/-- An entry brings what begins with its first name, -/
theorem Brings.name_eq (h : e.Brings (name :: rest)) : e.pending.name = name := by
  rw [Brings, names_eq_cons e] at h
  rcases h with h | h
  · exact (List.cons_prefix_cons.mp h).1.symm
  · exact (List.cons_prefix_cons.mp h).1

/-- and all that is on its way. -/
theorem brings_singleton (e : Taken) : e.Brings [e.pending.name] := by
  rw [Brings, names_eq_cons e]
  exact Or.inl (List.cons_prefix_cons.mpr ⟨rfl, List.nil_prefix⟩)

theorem brings_under_iff : (e.under [name] [i]).Brings (name :: rest) ↔ e.Brings rest := by
  have hnames : (e.under [name] [i]).names = name :: e.names := rfl
  rw [Brings, Brings, hnames, List.cons_prefix_cons, List.cons_prefix_cons]
  simp

/-- **Entries of a group bring what is in it.** -/
theorem exists_brings_cons_iff (h : named es name = inner.map (under [name] [i])) :
    (∃ e ∈ es, e.Brings (name :: rest)) ↔ ∃ e ∈ inner, e.Brings rest := by
  constructor
  · rintro ⟨e, he, hbrings⟩
    have hmem : e ∈ named es name := mem_named.mpr ⟨he, hbrings.name_eq⟩
    obtain ⟨e', he', rfl⟩ := List.mem_map.mp (h ▸ hmem)
    exact ⟨e', he', brings_under_iff.mp hbrings⟩
  · rintro ⟨e, he, hbrings⟩
    have hmem : e.under [name] [i] ∈ named es name := h ▸ List.mem_map_of_mem he
    exact ⟨_, (mem_named.mp hmem).1, brings_under_iff.mpr hbrings⟩

end Taken

/-! ### What is there -/

/-- Something is left of a group into which something goes back. -/
theorem Restoring.columns_ne_nil {f : Frame} {paths : List (List String)} {t : Layout}
    {back out : List Taken} (h : Restoring f paths t back out) (hback : back ≠ []) :
    (f.pruned (out.map Taken.names)).columns ≠ [] := by
  obtain ⟨depth, hdepth⟩ : ∃ depth, ∀ e ∈ back, e.names.length ≤ depth :=
    ⟨(back.map fun e => e.names.length).sum, fun e he =>
      List.le_sum_of_mem (List.mem_map_of_mem he)⟩
  have hleft : IsLeft (some (f.pruned paths)) f paths := ⟨rfl, fun _ => rfl⟩
  exact (restores_mergeBelow depth [] _ h hback hdepth hleft).2

/-- **What is there when some of it is back**: what the removal had left and what has been brought, by
induction on the names that lead to it. -/
theorem Restoring.find?_eq_none_iff {f : Frame} {paths : List (List String)} {t : Layout}
    {back out : List Taken} (h : Restoring f paths t back out) {names : List String} {d : Column}
    (hd : f.find? names = some d) :
    (f.pruned (out.map Taken.names)).find? names = none ↔
      (f.pruned paths).find? names = none ∧ ¬∃ e ∈ back, e.Brings names := by
  induction names generalizing f paths t back out with
  | nil => simp
  | cons name rest ih =>
    have hnodup := h.wellFormed.nodup_names
    rw [Frame.find?_cons] at hd
    obtain ⟨c, hc, hdescend⟩ := Option.bind_eq_some_iff.mp hd
    obtain ⟨hmem, rfl⟩ := (Frame.column?_eq_some_iff hnodup).mp hc
    obtain ⟨i, hi⟩ := List.getElem?_of_mem hmem
    rw [Frame.find?_cons, Frame.find?_cons, Frame.column?_pruned hnodup, Frame.column?_pruned hnodup,
      hc, Option.bind_some, Option.bind_some]
    by_cases hback : Taken.named back c.name = []
    · -- nothing has been brought into the column
      have hnone : ¬∃ e ∈ back, e.Brings (c.name :: rest) := by
        rintro ⟨e, he, hbrings⟩
        have hmem : e ∈ Taken.named back c.name := Taken.mem_named.mpr ⟨he, hbrings.name_eq⟩
        exact List.not_mem_nil (hback ▸ hmem)
      rw [h.prune?_of_named_eq_nil hi hback]
      exact (and_iff_left hnone).symm
    · obtain ⟨e, he⟩ := List.exists_mem_of_ne_nil _ hback
      obtain ⟨hentry, hname⟩ := Taken.mem_named.mp he
      by_cases hwhole : [] ∈ pathsThrough c.name paths
      · -- it went as a whole and is back as a whole
        obtain ⟨hone, hout⟩ := h.of_whole hi hwhole hback
        have hpaths : pathsThrough c.name (out.map Taken.names) = [] := by
          rw [Taken.pathsThrough_map_names, hout, List.map_nil]
        rw [Column.prune?_of_pathsThrough_eq_nil hpaths, Option.bind_some, hdescend]
        refine iff_of_false (by simp) fun hno => hno.2 ⟨e, hentry, Or.inr ?_⟩
        obtain rfl := List.mem_singleton.mp (hone ▸ he)
        exact List.cons_prefix_cons.mpr ⟨rfl, List.nil_prefix⟩
      · rcases hleaf : c.group? with _ | g
        · have hperm := h.perm_named hi
          rw [Column.taken_leaf hleaf hwhole, List.map_nil] at hperm
          exact absurd (List.append_eq_nil_iff.mp hperm.eq_nil).1 hback
        · have hg' := Column.group?_eq_some_iff.mp hleaf
          rw [hg'] at hi
          obtain ⟨back', out', hback', hout', hg⟩ := h.group hi hwhole
          have hthere : [] ∉ pathsThrough c.name (out.map Taken.names) := by
            rw [Taken.pathsThrough_of_named hout']
            intro hnil
            obtain ⟨e, -, he⟩ := List.mem_map.mp hnil
            exact e.2.1.nonempty he
          rcases eq_or_ne rest [] with rfl | hrest
          · -- the group is back as soon as something in it is
            have hne : back' ≠ [] := fun hnil => hback (by rw [hback', hnil, List.map_nil])
            have hleft : c.prune? (out.map Taken.names) ≠ none := by
              rw [hg', Column.prune?_group hthere, Taken.pathsThrough_of_named hout',
                if_neg fun hno => hg.columns_ne_nil hne hno.2]
              simp
            refine iff_of_false (by simpa using hleft) fun hno => hno.2 ⟨e, hentry, ?_⟩
            exact hname ▸ e.brings_singleton
          · rw [Frame.descend?_of_prune? hleaf hthere hrest,
              Frame.descend?_of_prune? hleaf hwhole hrest, Taken.pathsThrough_of_named hout',
              Taken.exists_brings_cons_iff hback']
            refine ih hg ?_
            obtain ⟨next, tail, rfl⟩ := List.exists_cons_of_ne_nil hrest
            rw [hg'] at hdescend
            exact hdescend

/-! ### The columns of a group -/

namespace Frame

variable {f inner : Frame} {above : List String} {x : String} {paths : List (List String)}

/-- **What is left of the columns of a group**, be there something left of the group or not. -/
theorem find?_pruned_concat (hf : f.WellFormed) (hspared : Spared paths above)
    (h : f.groupAt? above = some inner) (x : String) :
    (f.pruned paths).find? (above ++ [x]) = (inner.pruned (pathsBelow above paths)).column? x := by
  induction above generalizing f paths with
  | nil =>
    obtain rfl := Option.some.inj h
    exact find?_concat (groupAt?_nil _) x
  | cons name above ih =>
    obtain ⟨hthere, hspared⟩ := spared_cons.mp hspared
    obtain ⟨c, g, hc, hgroup, hinner⟩ := groupAt?_cons_eq_some_iff.mp h
    obtain ⟨hmem, rfl⟩ := (column?_eq_some_iff hf.nodup_names).mp hc
    rw [List.cons_append, find?_cons, column?_pruned hf.nodup_names, hc, Option.bind_some,
      descend?_of_prune? hgroup hthere (by simp), pathsBelow_cons]
    exact ih ((hf.of_mem hmem).frame hgroup) hspared hinner

end Frame

/-! ### Where an entry goes -/

namespace Column

variable {f g : Frame} {paths : List (List String)} {c : Column} {i : Nat}

/-- The entries of a group that did not go as a whole, as the level of the group counts them. -/
theorem filter_takenAll_group (hf : f.names.Nodup) (hi : f.columns[i]? = some c)
    (hg : c.group? = some g) (hthere : [] ∉ pathsThrough c.name paths) :
    (takenAll paths f.columns).filter (fun e => e.2.1.segments.head? == some c.name) =
      (takenAll (pathsThrough c.name paths) g.columns).map (Taken.under [c.name] [i]) := by
  have hunder : Taken.under [] [i] ∘ Taken.under [c.name] [] = Taken.under [c.name] [i] :=
    funext fun e => Taken.under_under [] [c.name] [i] [] e
  have htaken : c.taken paths =
      (takenAll (pathsThrough c.name paths) g.columns).map (Taken.under [c.name] []) := by
    conv_lhs => rw [group?_eq_some_iff.mp hg]
    exact taken_group hthere
  rw [filter_takenAll hf hi, htaken, List.map_map, hunder]

/-- **An entry further in** is one of the group of its first name, which did not go as a whole. -/
theorem exists_mem_takenAll_group (hf : f.names.Nodup) (hi : f.columns[i]? = some c)
    (hg : c.group? = some g) {e : Taken} (he : e ∈ takenAll paths f.columns) {names : List String}
    (hnames : e.names = c.name :: names) (hne : names ≠ []) :
    [] ∉ pathsThrough c.name paths ∧ ∃ e' ∈ takenAll (pathsThrough c.name paths) g.columns,
      e = e'.under [c.name] [i] ∧ e'.names = names := by
  have hhead : e ∈ (takenAll paths f.columns).filter
      fun e => e.2.1.segments.head? == some c.name :=
    Taken.mem_named.mpr ⟨he, (List.cons.inj ((Taken.names_eq_cons e).symm.trans hnames)).1⟩
  have hthere : [] ∉ pathsThrough c.name paths := by
    intro hwhole
    rw [filter_takenAll hf hi, taken_of_mem hwhole, List.map_singleton, List.mem_singleton] at hhead
    obtain rfl := hhead
    exact hne (List.cons.inj hnames).2.symm
  rw [filter_takenAll_group hf hi hg hthere] at hhead
  obtain ⟨e', he', rfl⟩ := List.mem_map.mp hhead
  exact ⟨hthere, e', he', rfl, (List.cons.inj hnames).2⟩

end Column

/-- **An entry has a place at every level on its way**: the group there has not been taken as a whole,
and the anchor of the entry is the position of the column on the way, if that has gone. -/
theorem Frame.exists_place_of_mem_takenAll {f inner : Frame} {paths : List (List String)} {t : Layout}
    (hf : f.WellFormed) (ht : t.children = f.columns.map (Column.marked paths)) {e : Taken}
    (he : e ∈ Column.takenAll paths f.columns) {above rest : List String} {y : String}
    (hnames : e.names = above ++ y :: rest) (hinner : f.groupAt? above = some inner) :
    Spared paths above ∧ ∃ node i, t.node? above = some node ∧
      node.children = inner.columns.map (Column.marked (pathsBelow above paths)) ∧
      inner.names[i]? = some y ∧
      (y ∉ (inner.pruned (pathsBelow above paths)).names → t.anchorAt? above e.1 = some i) := by
  induction above generalizing f paths t e with
  | nil =>
    obtain ⟨i, c, hi, e', he', rfl⟩ := Column.mem_takenAll.mp he
    obtain ⟨tail, htail⟩ := Column.exists_segments_of_mem_taken he'
    obtain ⟨rfl, -⟩ := List.cons.inj (htail.symm.trans hnames)
    obtain rfl := Option.some.inj hinner
    refine ⟨spared_nil paths, t, i, t.node?_nil, ht, ?_, fun hgone => ?_⟩
    · rw [Frame.names, List.getElem?_map, hi, Option.map_some]
    · have hremoved : (c.marked paths).isRemoved := by
        rw [Column.isRemoved_marked, Option.isNone_iff_eq_none]
        by_contra hleft
        obtain ⟨d, hd⟩ := Option.ne_none_iff_exists'.mp hleft
        refine hgone (Column.name_of_prune? hd ▸ List.mem_map_of_mem ?_)
        exact List.mem_filterMap.mpr ⟨c, List.mem_of_getElem? hi, hd⟩
      change t.anchorAt? [] (i :: e'.1) = some i
      rw [Layout.anchorAt?_nil, List.head?_cons, Option.bind_some, ht, List.getElem?_map, hi,
        Option.map_some, Option.map_some, if_pos hremoved]
  | cons name above ih =>
    obtain ⟨c, g, hc, hgroup, hinside⟩ := groupAt?_cons_eq_some_iff.mp hinner
    obtain ⟨hmem, rfl⟩ := (column?_eq_some_iff hf.nodup_names).mp hc
    obtain ⟨i, hi⟩ := List.getElem?_of_mem hmem
    obtain ⟨hthere, e', he', rfl, hbelow⟩ :=
      Column.exists_mem_takenAll_group hf.nodup_names hi hgroup he hnames (by simp)
    have hchildren : (c.marked paths).children =
        g.columns.map (Column.marked (pathsThrough c.name paths)) := by
      conv_lhs => rw [Column.group?_eq_some_iff.mp hgroup]
      exact Column.children_marked_group hthere
    obtain ⟨hspared, node, j, hnode, hmarked, hj, hanchor⟩ :=
      ih ((hf.of_mem hmem).frame hgroup) hchildren he' hbelow hinside
    refine ⟨spared_cons.mpr ⟨hthere, hspared⟩, node, j, ?_, hmarked, hj, fun hgone => ?_⟩
    · rw [Layout.node?_cons, child?_of_children ht hf.nodup_names hi, Option.bind_some, hnode]
    · change t.anchorAt? (c.name :: above) (i :: e'.1) = some j
      rw [Layout.anchorAt?_cons, child?_of_children ht hf.nodup_names hi, Option.bind_some,
        childIndex?_of_children ht hf.nodup_names hi, ← hanchor hgone]
      simp [Pending.placeBelow]

/-! ### The next entry -/

section Entries

variable {f : Frame} {paths : List (List String)} {t : Layout} {back out : List Taken} {e e' : Taken}

/-- The path of an entry does not lead into the column of another. -/
theorem Frame.eq_of_mem_takenAll (hpaths : f.Resolves paths) (he : e ∈ Column.takenAll paths f.columns)
    (he' : e' ∈ Column.takenAll paths f.columns) (h : e.2.1.startsWith e'.2.1) : e.2.1 = e'.2.1 := by
  have hnil : [] ∉ paths := fun hmem => (hpaths [] hmem).1 rfl
  have houter {e : Taken} (he : e ∈ Column.takenAll paths f.columns) :
      Outermost paths e.2.1.segments := by
    have hmem : e.2.1 ∈ f.paths.filter fun p => Outermost paths p.segments :=
      Frame.map_path_takenAll f hnil ▸ List.mem_map_of_mem he
    exact of_decide_eq_true (List.mem_filter.mp hmem).2
  have hprefix : e'.2.1.segments <+: e.2.1.segments := List.isPrefixOf_iff_prefix.mp h
  exact (Path.ext ((houter he).2 _ (houter he').1 hprefix)).symm

namespace Restoring

/-- The column of an entry is well-formed and has the rows of the frame. -/
theorem wellFormed_of_mem (h : Restoring f paths t back out) (he : e ∈ back) :
    e.2.2.WellFormed ∧ e.2.2.length = f.rowCount := by
  have hfind := Frame.find?_of_mem_takenAll h.wellFormed
    (h.perm.subset (List.mem_append_left out he))
  exact ⟨h.wellFormed.of_find? hfind, h.wellFormed.length_find? hfind⟩

/-- The next entry goes back as well. -/
theorem next (h : Restoring f paths t back (e :: out)) : Restoring f paths t (back ++ [e]) out :=
  ⟨h.wellFormed, h.resolves, h.children, List.append_cons back e out ▸ h.perm⟩

end Restoring

namespace Frame

/-- **Entries can be inserted one after the other**, if they come without the layout. -/
theorem foldlM_insert_of_restoring (h : Restoring f paths t back out) :
    ∃ k, (back.map fun e => (entryOf t e).request).foldlM (fun g r => g.insert r.path r.column)
        (f.pruned paths) = .ok k ∧
      k.WellFormed ∧ (f.pruned (out.map Taken.names)).Rearranged k := by
  have hf := h.wellFormed.pruned paths
  have hmerge := merge_restoring h
  rw [List.map_map] at hmerge
  have hwf : ∀ q ∈ back.map fun e => (entryOf t e).request,
      q.column.WellFormed ∧ q.column.length = f.rowCount :=
    List.forall_mem_map.mpr fun e he => h.wellFormed_of_mem he
  have hnone : ∃ k, merge (some (f.pruned paths)) (back.map fun e => (entryOf t e).request) none =
      .ok k := (Rearranged.refl (f.pruned paths)).exists_merge rfl hf hf rfl hwf ⟨_, hmerge⟩
  obtain ⟨k, hk⟩ := hnone
  have hshaped : ∀ q ∈ back.map fun e => (entryOf t e).request,
      q.column.Shaped ∧ q.column.length = f.rowCount :=
    fun q hq => ⟨(hwf q hq).1.shaped, (hwf q hq).2⟩
  refine ⟨k, foldlM_insert_of_merge hf.shaped hshaped ?_ hk, ?_, ?_⟩
  · refine List.pairwise_map.mpr (List.pairwise_of_forall_mem_list fun e he e' he' => ?_)
    rintro ⟨hstarts, hne⟩
    exact hne (eq_of_mem_takenAll h.resolves (h.perm.subset (List.mem_append_left out he))
      (h.perm.subset (List.mem_append_left out he')) hstarts)
  · exact wellFormed_merge hf (fun q hq => (hwf q hq).1) hk
  · exact rearranged_merge rfl (Rearranged.refl _) (fun q hq => (hwf q hq).2) hmerge hk

end Frame

/-- **Some entries are back** in a frame and the others still out, wherever its columns stand. -/
structure Regaining (f : Frame) (paths : List (List String)) (t : Layout) (back out : List Taken)
    (g : Frame) : Prop where
  restoring : Restoring f paths t back out
  wellFormed : g.WellFormed
  rearranged : (f.pruned (out.map Taken.names)).Rearranged g

namespace Regaining

variable {g : Frame}

/-- What the removal leaves is where it begins. -/
theorem start (h : Restoring f paths t [] out) : Regaining f paths t [] out (f.pruned paths) :=
  ⟨h, h.wellFormed.pruned paths, Frame.pruned_eq_of_restoring h ▸ Frame.Rearranged.refl _⟩

theorem mem_takenAll (h : Regaining f paths t back (e :: out) g) :
    e ∈ Column.takenAll paths f.columns :=
  h.restoring.perm.subset (List.mem_append_right back List.mem_cons_self)

theorem wellFormed_next (h : Regaining f paths t back (e :: out) g) :
    e.2.2.WellFormed ∧ e.2.2.length = f.rowCount :=
  h.restoring.next.wellFormed_of_mem (List.mem_append_right back (List.mem_singleton_self e))

/-- **The next entry can be merged too**, and then it is back. -/
theorem exists_merge (h : Regaining f paths t back (e :: out) g) :
    ∃ g', Frame.merge (some g) [(Frame.entryOf t e).request] (some t) = .ok g' ∧
      Regaining f paths t (back ++ [e]) out g' := by
  have hnext := h.restoring.next
  obtain ⟨hwf, hlength⟩ := h.wellFormed_next
  -- without the layout it is the last to be inserted
  obtain ⟨k', hk', -, hsame'⟩ := Frame.foldlM_insert_of_restoring hnext
  rw [List.map_append, List.map_singleton, Frame.foldlM_insert_append] at hk'
  obtain ⟨k, hk, hinsert⟩ := hk'
  obtain ⟨_, hk'', hkwf, hsame⟩ := Frame.foldlM_insert_of_restoring h.restoring
  obtain rfl := Except.ok.inj (hk.symm.trans hk'')
  -- and with the layout, into the same columns in another order, it can be merged as well
  have hkg : k.Rearranged g := hsame.symm.trans h.rearranged
  have hrows : k.rowCount = f.rowCount := hsame.rowCount_eq.symm
  have hone : ∀ q ∈ [({ path := e.2.1, column := e.2.2 } : Request)],
      q.column.WellFormed ∧ q.column.length = f.rowCount :=
    List.forall_mem_singleton.mpr ⟨hwf, hlength⟩
  have hrequest : [(Frame.entryOf t e).request].map (fun q => (q.path, q.column)) =
      [({ path := e.2.1, column := e.2.2 } : Request)].map fun q => (q.path, q.column) := rfl
  obtain ⟨g', hg'⟩ : ∃ g', Frame.merge (some g) [(Frame.entryOf t e).request] (some t) = .ok g' :=
    hkg.exists_merge hrequest hkwf h.wellFormed hrows hone ⟨k', hinsert⟩
  refine ⟨g', hg', hnext, ?_, ?_⟩
  · exact Frame.wellFormed_merge h.wellFormed (List.forall_mem_singleton.mpr hwf) hg'
  · exact hsame'.trans
      (Frame.rearranged_merge hrequest hkg (fun q hq => (hone q hq).2) hinsert hg')

/-- **What is there**: what the removal had left and what has been brought. -/
theorem find?_eq_none_iff (h : Regaining f paths t back out g) {names : List String} {d : Column}
    (hd : f.find? names = some d) :
    g.find? names = none ↔ (f.pruned paths).find? names = none ∧ ¬∃ e ∈ back, e.Brings names := by
  rw [← h.rearranged.find?_eq_none_iff, h.restoring.find?_eq_none_iff hd]

/-- The same for a column of a group. -/
theorem not_mem_names_iff (h : Regaining f paths t back out g) {above : List String}
    {inner old : Frame} (hinner : f.groupAt? above = some inner) (hold : g.groupAt? above = some old)
    {x : String} (hx : x ∈ inner.names) :
    x ∉ old.names ↔
      (f.pruned paths).find? (above ++ [x]) = none ∧ ¬∃ e ∈ back, e.Brings (above ++ [x]) := by
  obtain ⟨c, hc, rfl⟩ := List.mem_map.mp hx
  have hnodup := (h.restoring.wellFormed.groupAt hinner).nodup_names
  have hfind : f.find? (above ++ [c.name]) = some c := by
    rw [Frame.find?_concat hinner, Frame.column?_name hnodup hc]
  rw [← h.find?_eq_none_iff hfind, Frame.find?_concat hold, Frame.column?_eq_none_iff]

/-- The column of an entry that is still out is not there. -/
theorem find?_eq_none_of_mem_out (h : Regaining f paths t back out g) (he : e ∈ out) :
    g.find? e.names = none := by
  rw [← h.rearranged.find?_eq_none_iff, Option.eq_none_iff_forall_ne_some]
  intro d hd
  obtain ⟨-, -, hspared, -⟩ := (Frame.find?_pruned h.restoring.wellFormed e.2.1.nonempty).mp hd
  exact hspared e.names (List.mem_map_of_mem he) e.2.1.nonempty (List.prefix_refl _)

end Regaining

end Entries

end Colonnade
