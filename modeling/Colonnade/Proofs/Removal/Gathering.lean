import Colonnade.Proofs.Merge.Groups
import Colonnade.Proofs.Removal.Contract
import Colonnade.Proofs.Removal.Opening
import Colonnade.Proofs.Stack.Rows
import Mathlib.Data.Nat.Find

/-!
# Columns gathered in a new group

Grouping takes columns out of a frame, at whatever depth they are, and puts them into a new group at the
top. All requests have one name there and so become one column, and what is left is the question where
it stands. A column that goes as a whole, or a group that goes because it is emptied, anchors the request
at its own position, a group that loses only some of its columns at the position behind it. The least of
the anchors belongs to the first column that paths lead to or into, because positions only grow after it
(`Frame.anchor?_grouped`).

`Frame.group_eq` is the frame that comes out. `Frame.group_gathers` says the same of the answer to a
removal and of the paths in depth-first order.
-/

namespace Colonnade

/-! ### The requests for a new group -/

namespace Pending

/-- The requests that lead into a new group, from the entries of a removal: every column under the last
name of its path. -/
def grouped (name : String) (es : List Taken) : List Pending :=
  es.map fun e => ⟨name, [e.2.1.last], e.2.2, some e.1⟩

variable {name : String} {es : List Taken}

theorem members_grouped (name : String) (es : List Taken) :
    (Part.named (grouped name es) name).members = grouped name es := by
  refine List.filter_eq_self.mpr fun p hp => ?_
  obtain ⟨e, -, rfl⟩ := List.mem_map.mp hp
  exact beq_self_eq_true name

/-- They are for one name. -/
theorem eraseDups_grouped (hes : es ≠ []) :
    ((grouped name es).map Pending.name).eraseDups = [name] := by
  have hall : ∀ x ∈ ((grouped name es).map Pending.name).eraseDups, x = name := by
    intro x hx
    obtain ⟨p, hp, rfl⟩ := List.mem_map.mp (List.mem_eraseDups.mp hx)
    obtain ⟨e, -, rfl⟩ := List.mem_map.mp hp
    rfl
  obtain ⟨e, rest, rfl⟩ := List.exists_cons_of_ne_nil hes
  have hmem : name ∈ ((grouped name (e :: rest)).map Pending.name).eraseDups :=
    List.mem_eraseDups.mpr List.mem_cons_self
  refine List.perm_singleton.mp ((List.perm_ext_iff_of_nodup (nodup_eraseDups _)
    (List.nodup_singleton name)).mpr fun x => ?_)
  rw [List.mem_singleton]
  exact ⟨hall x, fun hx => hx ▸ hmem⟩

/-- A request has no anchor in a group that is not in the layout, nor in one where its node is the group
itself or not below it. -/
theorem anchor?_placeBelow (layout : Option Layout) (p : Pending) {i : Option Nat} {address : List Nat}
    (h : i = none ∨ address.length ≤ 1) (hp : p.place = placeBelow i (some address)) :
    p.anchor? layout = none := by
  cases layout with
  | none => rfl
  | some t =>
    rcases address with _ | ⟨j, _ | ⟨k, rest⟩⟩
    · simp [anchor?, hp, placeBelow]
    · by_cases hi : i = some j
      · simp [anchor?, hp, placeBelow, hi]
      · simp [anchor?, hp, placeBelow, hi]
    · obtain rfl : i = none := h.resolve_right (by simp)
      simp [anchor?, hp, placeBelow]

end Pending

/-- **Entries build a new group** with their columns in order. -/
theorem Frame.join_grouped {frame : Option Frame} {above : List String} {layout : Option Layout}
    {name : String} {es : List Taken} {n : Nat}
    (hfree : (frame.getD empty).column? name = none) (hes : es ≠ [])
    (hlast : ∀ e ∈ es, e.2.1.last = e.2.2.name)
    (hnodup : ((es.map fun e => e.2.2).map Column.name).Nodup)
    (hlength : ∀ c ∈ es.map fun e => e.2.2, c.length = n)
    (hplace : ∀ e ∈ es, (layout.bind fun t => t.childIndex? name) = none ∨ e.1.length ≤ 1)
    (depth : Nat) :
    join (mergeBelow (depth + 1)) above layout frame (Pending.grouped name es) name =
      .ok (some (.group name ⟨es.map fun e => e.2.2, n⟩)) := by
  have hdeeper (i : Option Nat) : (Part.named (Pending.grouped name es) name).deeper i =
      es.map fun e => ⟨e.2.1.last, [], e.2.2, Pending.placeBelow i (some e.1)⟩ := by
    have hsome : (Pending.deeper? i ∘ fun e : Taken => ⟨name, [e.2.1.last], e.2.2, some e.1⟩) =
        some ∘ fun e => ⟨e.2.1.last, [], e.2.2, Pending.placeBelow i (some e.1)⟩ := rfl
    rw [Part.deeper, Pending.members_grouped, Pending.grouped, List.filterMap_map, hsome,
      List.filterMap_eq_map]
  have hterminal : (Part.named (Pending.grouped name es) name).terminal = [] := by
    refine Part.terminal_eq_nil_iff.mpr ?_
    rw [Pending.members_grouped]
    exact List.forall_mem_map.mpr fun e _ => List.cons_ne_nil _ _
  have hne : (Part.named (Pending.grouped name es) name).deeper none ≠ [] := by
    rw [hdeeper]
    simpa using hes
  have hputs (i : Option Nat) : List.Forall₂ Pending.Puts
      (es.map fun e => ⟨e.2.1.last, [], e.2.2, Pending.placeBelow i (some e.1)⟩)
      (es.map fun e => e.2.2) := by
    rw [List.forall₂_map_left_iff, List.forall₂_map_right_iff]
    exact List.forall₂_same.mpr fun e he => ⟨hlast e he, rfl, rfl⟩
  rw [join, hfree, Part.seat_of_terminal_eq_nil hterminal]
  refine bind_eq_ok_iff.mpr ⟨none, rfl, ?_⟩
  rw [Part.fill_of_group hne (by simp), Part.mergeDeeper, Part.child_eq]
  refine map_eq_ok_iff.mpr ⟨_, map_eq_ok_iff.mpr ⟨⟨es.map fun e => e.2.2, n⟩, ?_, rfl⟩, rfl⟩
  simp only [hdeeper]
  refine mergeBelow_of_columns (hputs _) (by simpa using hes) hnodup hlength ?_ depth
  exact List.forall_mem_map.mpr fun e he => Pending.anchor?_placeBelow _ _ (hplace e he) rfl

/-! ### The place of the group -/

namespace Frame

variable {f : Frame} {paths : List (List String)} {i : Nat} {c : Column}

/-- **The first column that paths lead to or into.** -/
structure FirstTouched (f : Frame) (paths : List (List String)) (i : Nat) (c : Column) : Prop where
  column : f.columns[i]? = some c
  touched : pathsThrough c.name paths ≠ []
  before : ∀ (j : Nat) (d : Column), j < i → f.columns[j]? = some d → pathsThrough d.name paths = []

/-- The position of a new group: that of the column, if it has gone, or the one behind it. -/
def slot (paths : List (List String)) (i : Nat) (c : Column) : Nat :=
  if (c.prune? paths).isNone then i else i + 1

/-- There is one, if there are paths that resolve. -/
theorem exists_firstTouched (hf : f.names.Nodup) (hpaths : f.Resolves paths) (hne : paths ≠ []) :
    ∃ i c, f.FirstTouched paths i c := by
  obtain ⟨path, hpath⟩ := List.exists_mem_of_ne_nil _ hne
  obtain ⟨hpne, d, hd⟩ := hpaths path hpath
  obtain ⟨name, tail, rfl⟩ := List.exists_cons_of_ne_nil hpne
  obtain ⟨c, hcol, -⟩ := Option.bind_eq_some_iff.mp hd
  obtain ⟨hc, rfl⟩ := (column?_eq_some_iff hf).mp hcol
  obtain ⟨k, hk⟩ := List.getElem?_of_mem hc
  have hex : ∃ (j : Nat) (d : Column), f.columns[j]? = some d ∧ pathsThrough d.name paths ≠ [] :=
    ⟨k, c, hk, List.ne_nil_of_mem (mem_pathsThrough.mpr hpath)⟩
  classical
  obtain ⟨e, he, htouched⟩ := Nat.find_spec hex
  refine ⟨Nat.find hex, e, he, htouched, fun j d hj hd => ?_⟩
  by_contra hne
  exact Nat.find_min hex hj ⟨d, hd, hne⟩

section Anchor

variable (h : f.FirstTouched paths i c) (hf : f.WellFormed) (hpaths : f.Resolves paths)

include h

/-- Nothing is taken out of a column before the first. -/
theorem FirstTouched.le_of_taken {e : Taken} {j : Nat} {d : Column} (hd : f.columns[j]? = some d)
    (he : e ∈ d.taken paths) : i ≤ j := by
  by_contra hlt
  have hnone := h.before j d (by omega) hd
  rw [Column.taken, Column.strip_of_pathsThrough_eq_nil hnone] at he
  exact absurd he List.not_mem_nil

include hf hpaths

/-- **The requests for a new group are anchored at the first column** that paths lead to or into. -/
theorem anchor?_grouped {t : Layout} (ht : t.children = f.columns.map (Column.marked paths))
    (name : String) :
    (Part.named (Pending.grouped name (Column.takenAll paths f.columns)) name).anchor? (some t) =
      some (slot paths i c) := by
  have hanchor {j : Nat} {d : Column} (hd : f.columns[j]? = some d) (e : Taken) :
      Pending.anchor? (some t) ⟨name, [e.2.1.last], e.2.2, some (j :: e.1)⟩ =
        some (slot paths j d) := anchor?_of_place ht hd rfl
  rw [Part.anchor?_eq_min?, Pending.members_grouped, List.min?_eq_some_iff]
  constructor
  · obtain ⟨e, he⟩ := List.exists_mem_of_ne_nil _ (Column.taken_ne_nil
      (hf.of_mem (List.mem_of_getElem? h.column))
      (fun _ => hpaths.column hf.nodup_names (List.mem_of_getElem? h.column)) h.touched)
    refine List.mem_filterMap.mpr ⟨_, List.mem_map_of_mem (Column.mem_takenAll.mpr
      ⟨i, c, h.column, e, he, rfl⟩), ?_⟩
    exact hanchor h.column e
  · intro k hk
    obtain ⟨p, hp, hpk⟩ := List.mem_filterMap.mp hk
    obtain ⟨e, he, rfl⟩ := List.mem_map.mp hp
    obtain ⟨j, d, hd, e', he', rfl⟩ := Column.mem_takenAll.mp he
    obtain rfl := Option.some.inj ((hanchor hd e').symm.trans hpk)
    rcases Nat.lt_or_eq_of_le (h.le_of_taken hd he') with hlt | rfl
    · simp only [slot]
      split <;> split <;> omega
    · obtain rfl := Option.some.inj (h.column.symm.trans hd)
      exact Nat.le_refl _

end Anchor

/-! ### The frame with the group -/

/-- What is left of a frame stays well-formed with a group of what was taken out of it, under a name that
no other column has. -/
theorem wellFormed_gathered (hf : f.WellFormed) {name : String} {cs : List Column} (k : Nat)
    (hname : name ∉ (f.pruned paths).names) (hcs : (cs.map Column.name).Nodup)
    (hcolumns : ∀ c ∈ cs, c.WellFormed ∧ c.length = f.rowCount) :
    (Frame.mk (f.leftBefore paths k ++ [.group name ⟨cs, f.rowCount⟩] ++ f.leftFrom paths k)
      f.rowCount).WellFormed := by
  have hgroup : (Column.group name ⟨cs, f.rowCount⟩).WellFormed :=
    (Column.wellFormed_group _ _).mpr (wellFormed_iff.mpr
      ⟨hcs, fun c hc => (hcolumns c hc).2, fun c hc => (hcolumns c hc).1⟩)
  have hperm : (f.leftBefore paths k ++ [Column.group name ⟨cs, f.rowCount⟩] ++
      f.leftFrom paths k).Perm (.group name ⟨cs, f.rowCount⟩ :: (f.pruned paths).columns) := by
    rw [List.append_assoc, ← f.leftBefore_append_leftFrom paths k]
    exact List.perm_middle
  obtain ⟨hnodup, hlength, hinner⟩ := wellFormed_iff.mp (hf.pruned paths)
  refine wellFormed_iff.mpr ⟨?_, fun c hc => ?_, fun c hc => ?_⟩
  · exact (hperm.map Column.name).nodup_iff.mpr (List.nodup_cons.mpr ⟨hname, hnodup⟩)
  · rcases List.mem_cons.mp (hperm.subset hc) with rfl | hc
    · rfl
    · exact hlength c hc
  · rcases List.mem_cons.mp (hperm.subset hc) with rfl | hc
    · exact hgroup
    · exact hinner c hc

end Frame

namespace Frame

variable {f : Frame} {name : String} {paths : List Path} {i : Nat} {c : Column}

/-- **Grouping columns** puts them, in the order of the frame, into a group at the position of the first
column that paths lead to or into, or behind it if something of it is left. The name of the group may be
that of a column that goes as a whole if all of them are at the top. -/
theorem group_eq (hf : f.WellFormed) (hpaths : ∀ path ∈ paths, ∃ c, f.get path = .ok c)
    (hfirst : f.FirstTouched (paths.map Path.segments) i c)
    (hfree : name ∉ (f.pruned (paths.map Path.segments)).names)
    (hplace : name ∉ f.names ∨
      ∀ e ∈ Column.takenAll (paths.map Path.segments) f.columns, e.1.length ≤ 1)
    (hnodup : ((Column.takenAll (paths.map Path.segments) f.columns).map fun e => e.2.1.last).Nodup) :
    f.group paths name =
      .ok ⟨f.leftBefore (paths.map Path.segments) (slot (paths.map Path.segments) i c) ++
        [.group name
          ⟨(Column.takenAll (paths.map Path.segments) f.columns).map fun e => e.2.2, f.rowCount⟩] ++
        f.leftFrom (paths.map Path.segments) (slot (paths.map Path.segments) i c), f.rowCount⟩ := by
  have hresolves := resolves_map_segments hpaths
  obtain ⟨depth, hdepth, hmove⟩ :=
    move_eq_mergeBelow hf hpaths fun p => (Path.single name).child p.last
  set segments := paths.map Path.segments with hsegments
  set es := Column.takenAll segments f.columns with hes
  have hentries : (f.movedEntries paths fun p => (Path.single name).child p.last).map Taken.pending =
      Pending.grouped name es := by
    rw [movedEntries, List.map_map]
    rfl
  have hne : es ≠ [] := by
    refine Column.takenAll_ne_nil hf hresolves fun hnil => hfirst.touched ?_
    rw [hnil]
    rfl
  -- each of the new paths has two segments
  obtain ⟨d, rfl⟩ : ∃ d, depth = d + 1 + 1 := by
    obtain ⟨e, he⟩ := List.exists_mem_of_ne_nil _ hne
    exact Nat.exists_eq_add_of_le' (hdepth _ (List.mem_map_of_mem he))
  have hfind : ∀ e ∈ es, f.find? e.2.1.segments = some e.2.2 :=
    fun e he => find?_of_mem_takenAll hf he
  have hlast : ∀ e ∈ es, e.2.1.last = e.2.2.name :=
    fun e he => (name_of_get_eq_ok (get_eq_ok_iff.mpr (hfind e he))).symm
  have hnames : ((es.map fun e => e.2.2).map Column.name).Nodup := by
    rw [List.map_map]
    exact (List.map_congr_left hlast) ▸ hnodup
  have hcolumns : ∀ c ∈ es.map fun e => e.2.2, c.WellFormed ∧ c.length = f.rowCount :=
    List.forall_mem_map.mpr fun e he =>
      ⟨hf.of_find? (hfind e he), hf.length_find? (hfind e he)⟩
  have hgone : (f.marked segments).childIndex? name = none ∨ ∀ e ∈ es, e.1.length ≤ 1 := by
    refine hplace.imp_left fun hname => List.findIdx?_eq_none_iff.mpr fun s hs => ?_
    obtain ⟨d, hd, rfl⟩ := List.mem_map.mp hs
    rw [Column.name_marked, beq_eq_false_iff_ne]
    exact fun heq => hname (heq ▸ List.mem_map_of_mem hd)
  have hleft : IsLeft (some (f.pruned segments)) f segments := ⟨rfl, fun _ => rfl⟩
  rw [group, hmove, hentries]
  refine hleft.mergeBelow_eq hf rfl (wellFormed_gathered hf _ hfree hnames hcolumns)
    (List.cons_ne_nil _ _) (Pending.eraseDups_grouped hne) ?_ ?_
  · exact List.forall_mem_singleton.mpr (anchor?_grouped hfirst hf hresolves rfl name)
  · exact List.forall_mem_singleton.mpr (join_grouped (column?_eq_none_iff.mpr hfree) hne hlast hnames
      (fun c hc => (hcolumns c hc).2) (fun e he => hgone.elim .inl fun h => .inr (h e he)) d)

/-! ### As paths and names say it -/

/-- **The columns that go with a removal of paths**, depth first: those of the paths that no other is
above. -/
def outermost (f : Frame) (paths : List Path) : List Path :=
  f.paths.filter fun p => p ∈ paths ∧ ∀ q ∈ paths, p.startsWith q → q = p

/-- These are the paths of what is taken out. -/
theorem map_path_takenAll_eq (f : Frame) (paths : List Path) :
    ((Column.takenAll (paths.map Path.segments) f.columns).map fun e => e.2.1) =
      f.outermost paths := by
  rw [map_path_takenAll f (nil_not_mem_map_segments paths), outermost]
  exact List.filter_congr fun p _ => decide_eq_decide.mpr outermost_map_segments_iff

/-- Paths lead to a column or into it if one of them begins with its name. -/
theorem pathsThrough_ne_nil_iff {name : String} :
    pathsThrough name (paths.map Path.segments) ≠ [] ↔ ∃ p ∈ paths, p.startsWith (.single name) := by
  have hbelow : pathsBelow (Path.single name).segments (paths.map Path.segments) ≠ [] ↔
      ∃ p ∈ paths, p.startsWith (.single name) := pathsBelow_map_segments_ne_nil_iff
  rwa [Path.segments_single, pathsBelow_cons, pathsBelow] at hbelow

/-- A path that leads to a column or into it is below an outermost one that does so as well. -/
theorem FirstTouched.outermost (hf : f.WellFormed) (hpaths : f.Resolves (paths.map Path.segments))
    (h : f.FirstTouched (paths.map Path.segments) i c) :
    (∃ p ∈ f.outermost paths, p.startsWith (.single c.name)) ∧
      ∀ (j : Nat) (d : Column), j < i → f.columns[j]? = some d →
        ∀ p ∈ f.outermost paths, ¬p.startsWith (.single d.name) := by
  have hmem := List.mem_of_getElem? h.column
  constructor
  · obtain ⟨e, he⟩ := List.exists_mem_of_ne_nil _ (Column.taken_ne_nil (hf.of_mem hmem)
      (fun _ => hpaths.column hf.nodup_names hmem) h.touched)
    obtain ⟨rest, hrest⟩ := Column.exists_segments_of_mem_taken he
    refine ⟨e.2.1, ?_, Path.startsWith_iff.mpr ⟨rest, hrest⟩⟩
    rw [← map_path_takenAll_eq]
    exact List.mem_map.mpr
      ⟨_, Column.mem_takenAll.mpr ⟨i, c, h.column, e, he, rfl⟩, rfl⟩
  · intro j d hj hd p hp hstarts
    obtain ⟨hlisted, -⟩ := of_decide_eq_true (List.mem_filter.mp hp).2
    exact pathsThrough_ne_nil_iff.mpr ⟨p, hlisted, hstarts⟩ (h.before j d hj hd)

section Names

variable {segments : List (List String)}

/-- A column is left if its name is. -/
theorem isNone_prune?_iff (hf : f.names.Nodup) (hc : c ∈ f.columns) :
    (c.prune? segments).isNone ↔ c.name ∉ (f.pruned segments).names := by
  rw [← column?_eq_none_iff, column?_pruned hf, column?_name hf hc, Option.bind_some,
    Option.isNone_iff_eq_none]

/-- The names of what is left say on which side of a position it stands. -/
theorem filter_pruned_take (hf : f.names.Nodup) (segments : List (List String)) (k : Nat) :
    (f.pruned segments).columns.filter (fun d => d.name ∈ f.names.take k) =
        f.leftBefore segments k ∧
      (f.pruned segments).columns.filter (fun d => d.name ∉ f.names.take k) =
        f.leftFrom segments k := by
  have hbefore : ∀ d ∈ f.leftBefore segments k, d.name ∈ f.names.take k := by
    intro d hd
    obtain ⟨c, hc, hprune⟩ := List.mem_filterMap.mp hd
    rw [names, ← List.map_take, Column.name_of_prune? hprune]
    exact List.mem_map_of_mem hc
  have hfrom : ∀ d ∈ f.leftFrom segments k, d.name ∉ f.names.take k := by
    intro d hd hmem
    obtain ⟨c, hc, hprune⟩ := List.mem_filterMap.mp hd
    have hdrop : d.name ∈ f.names.drop k := by
      rw [names, ← List.map_drop, Column.name_of_prune? hprune]
      exact List.mem_map_of_mem hc
    exact List.disjoint_take_drop hf (Nat.le_refl k) hmem hdrop
  rw [← f.leftBefore_append_leftFrom segments k, List.filter_append, List.filter_append]
  constructor
  · rw [List.filter_eq_self.mpr fun d hd => decide_eq_true (hbefore d hd),
      List.filter_eq_nil_iff.mpr fun d hd => by simpa using hfrom d hd, List.append_nil]
  · rw [List.filter_eq_nil_iff.mpr fun d hd => by simpa using hbefore d hd,
      List.filter_eq_self.mpr fun d hd => decide_eq_true (hfrom d hd), List.nil_append]

end Names

/-- **A new group takes the slot of the first moved column.** Let `paths` be some that resolve, at any
depth, those that no other is above with different last segments, and `name` one that no column at the top
has. Then grouping succeeds. With `c` the first column at the top that an outermost path leads to or into
and `i` its position, the group stands behind what is left of the columns up to `i`, with `c` if something
of it is left, and before the rest; and in the group are the columns of the outermost paths, depth
first. -/
theorem group_gathers (hf : f.WellFormed) (hne : paths ≠ [])
    (hpaths : ∀ path ∈ paths, ∃ c, f.get path = .ok c) (hname : name ∉ f.names)
    (hnodup : ((f.outermost paths).map Path.last).Nodup) :
    ∃ removal g i c s cs, f.remove paths = .ok removal ∧ f.group paths name = .ok g ∧
      f.columns[i]? = some c ∧
      (∃ p ∈ f.outermost paths, p.startsWith (.single c.name)) ∧
      (∀ (j : Nat) (d : Column), j < i → f.columns[j]? = some d →
        ∀ p ∈ f.outermost paths, ¬p.startsWith (.single d.name)) ∧
      s = (if c.name ∈ removal.frame.names then i + 1 else i) ∧
      g.columns = removal.frame.columns.filter (fun d => d.name ∈ f.names.take s) ++
        [.group name ⟨cs, f.rowCount⟩] ++
        removal.frame.columns.filter (fun d => d.name ∉ f.names.take s) ∧
      g.rowCount = f.rowCount ∧
      List.Forall₂ (fun p c => f.get p = .ok c ∧ c.name = p.last) (f.outermost paths) cs := by
  have hresolves := resolves_map_segments hpaths
  obtain ⟨i, c, hfirst⟩ := exists_firstTouched hf.nodup_names hresolves (by simpa using hne)
  obtain ⟨htouched, hbefore⟩ := hfirst.outermost hf hresolves
  have hpath := map_path_takenAll_eq f paths
  have hlast : ((Column.takenAll (paths.map Path.segments) f.columns).map
      fun e => e.2.1.last).Nodup := by
    rw [← hpath, List.map_map] at hnodup
    exact hnodup
  have hleft : name ∉ (f.pruned (paths.map Path.segments)).names :=
    fun hmem => hname ((names_pruned_sublist f _).subset hmem)
  obtain ⟨hfront, hback⟩ := filter_pruned_take hf.nodup_names (paths.map Path.segments)
    (slot (paths.map Path.segments) i c)
  refine ⟨_, _, i, c, slot (paths.map Path.segments) i c,
    (Column.takenAll (paths.map Path.segments) f.columns).map fun e => e.2.2,
    (remove_eq_ok_iff hf).mpr ⟨hpaths, rfl⟩, group_eq hf hpaths hfirst hleft (.inl hname) hlast,
    hfirst.column, htouched, hbefore, ?_, ?_, rfl, ?_⟩
  · simp only [slot, isNone_prune?_iff hf.nodup_names (List.mem_of_getElem? hfirst.column), ite_not]
  · rw [hfront, hback]
  · rw [← hpath, List.forall₂_map_left_iff, List.forall₂_map_right_iff]
    refine List.forall₂_same.mpr fun e he => ?_
    have hget := get_eq_ok_iff.mpr (find?_of_mem_takenAll hf he)
    exact ⟨hget, name_of_get_eq_ok hget⟩

/-- A column out of a group that is emptied, one from the top and a group, with a path into it, out of a
group that stays: the new group stands behind the last of these. -/
theorem group_gathers_nested :
    let f : Frame :=
      ⟨[.ofTexts "a" [some "1"],
        .group "g" ⟨[.group "h" ⟨[.ofTexts "x" [none]], 1⟩, .ofTexts "y" [some "2"]], 1⟩,
        .ofTexts "b" [some "3"], .group "k" ⟨[.ofTexts "z" [some "4"]], 1⟩], 1⟩
    let paths : List Path := [.below ["k"] "z", .below ["g", "h"] "x", .below ["g"] "h", .single "b"]
    (f.WellFormed ∧ paths ≠ [] ∧ (∀ path ∈ paths, ∃ c, f.get path = .ok c) ∧ "n" ∉ f.names ∧
        ((f.outermost paths).map Path.last).Nodup) ∧
      ∃ removal g i c s cs, f.remove paths = .ok removal ∧ f.group paths "n" = .ok g ∧
        f.columns[i]? = some c ∧
        (∃ p ∈ f.outermost paths, p.startsWith (.single c.name)) ∧
        (∀ (j : Nat) (d : Column), j < i → f.columns[j]? = some d →
          ∀ p ∈ f.outermost paths, ¬p.startsWith (.single d.name)) ∧
        s = (if c.name ∈ removal.frame.names then i + 1 else i) ∧
        g.columns = removal.frame.columns.filter (fun d => d.name ∈ f.names.take s) ++
          [.group "n" ⟨cs, 1⟩] ++
          removal.frame.columns.filter (fun d => d.name ∉ f.names.take s) ∧
        g.rowCount = 1 ∧
        List.Forall₂ (fun p c => f.get p = .ok c ∧ c.name = p.last) (f.outermost paths) cs ∧
        g.names = ["a", "g", "n"] ∧ cs.map Column.name = ["h", "b", "z"] := by
  intro f paths
  have hf : f.WellFormed := by
    simp [f, Frame.WellFormed, columnsWellFormed, Column.WellFormed, Column.ofTexts,
      Column.ofValues, cellsWellFormed, Value.ofText, Value.WellFormed, Column.name, Column.length]
  have hne : paths ≠ [] := List.cons_ne_nil _ _
  have hpaths : ∀ path ∈ paths, ∃ c, f.get path = .ok c := by
    refine List.forall_mem_cons.mpr ⟨⟨_, rfl⟩, List.forall_mem_cons.mpr ⟨⟨_, rfl⟩, ?_⟩⟩
    exact List.forall_mem_cons.mpr ⟨⟨_, rfl⟩, List.forall_mem_singleton.mpr ⟨_, rfl⟩⟩
  have hname : "n" ∉ f.names := by
    simp [f, Frame.names, Column.name, Column.ofTexts, Column.ofValues]
  have hout : f.outermost paths = [.below ["g"] "h", .single "b", .below ["k"] "z"] := by
    decide +kernel
  have hnodup : ((f.outermost paths).map Path.last).Nodup := by
    rw [hout]
    decide
  obtain ⟨removal, g, i, c, s, cs, hremove, hgroup, hcolumn, hmoved, hbefore, hs, hg, hrows, hcs⟩ :=
    group_gathers hf hne hpaths hname hnodup
  -- the first of the columns that paths lead to or into is the one at 1
  obtain rfl : i = 1 := by
    rcases Nat.lt_trichotomy i 1 with hi | hi | hi
    · obtain rfl : i = 0 := by omega
      obtain rfl := Option.some.inj hcolumn
      rw [hout] at hmoved
      exact absurd hmoved (by decide)
    · exact hi
    · exact absurd rfl (hbefore 1 _ hi rfl (.below ["g"] "h") (hout ▸ List.mem_cons_self))
  obtain rfl := Option.some.inj hcolumn
  obtain ⟨r, hr, hframe⟩ : ∃ r, f.remove paths = .ok r ∧ r.frame =
      ⟨[.ofTexts "a" [some "1"], .group "g" ⟨[.ofTexts "y" [some "2"]], 1⟩], 1⟩ := ⟨_, rfl, rfl⟩
  obtain rfl := Except.ok.inj (hremove.symm.trans hr)
  obtain rfl : s = 2 := by
    rw [hs, hframe]
    rfl
  have hnames : g.names = ["a", "g", "n"] := by
    rw [names, hg, hframe]
    rfl
  refine ⟨⟨hf, hne, hpaths, hname, hnodup⟩, removal, g, 1, _, 2, cs, hremove, hgroup, hcolumn, hmoved,
    hbefore, hs, hg, hrows, hcs, hnames, ?_⟩
  rw [hout] at hcs
  obtain _ | ⟨⟨-, hh⟩, _ | ⟨⟨-, hb⟩, _ | ⟨⟨-, hz⟩, _ | _⟩⟩⟩ := hcs
  rw [List.map_cons, List.map_cons, List.map_cons, hh, hb, hz]
  rfl

end Frame

end Colonnade
