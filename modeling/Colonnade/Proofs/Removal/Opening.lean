import Colonnade.Proofs.Removal.Refill

/-!
# Columns that fill an opening

A removal leaves less of a frame, and an anchor parts what it leaves: some of it stands before the anchor
(`Frame.leftBefore`), and the rest from there on (`Frame.leftFrom`). What is put in with that one anchor
comes between the two, in the order of its requests, whatever it is. Where columns side by side have gone
and nothing else has changed, the two are what stands around the opening (`Opening`).

* `Frame.placedNames_of_opening` – **names with one anchor stand in the opening**;
* `Frame.mergeBelow_of_columns` – columns that are put into no frame make one;
* `IsLeft.mergeBelow_eq` – **a level with one anchor** gets what its names become, between what is left
  before it and what is left from it on.
-/

namespace Colonnade

/-! ### Lists by the order of their members -/

/-- A member comes before another if it does in one of two lists, or is in the first and the other in
the second. -/
theorem before_append_iff {α : Type} {l m : List α} {a b : α} :
    Before (l ++ m) a b ↔ Before l a b ∨ (a ∈ l ∧ b ∈ m) ∨ Before m a b := by
  rw [Before, List.sublist_append_iff]
  constructor
  · rintro ⟨first, second, heq, hfirst, hsecond⟩
    rcases first with _ | ⟨x, _ | ⟨y, first⟩⟩
    · cases heq
      exact .inr (.inr hsecond)
    · cases heq
      exact .inr (.inl ⟨List.singleton_sublist.mp hfirst, List.singleton_sublist.mp hsecond⟩)
    · obtain ⟨rfl, rfl, hnil⟩ : x = a ∧ y = b ∧ first ++ second = [] := by simpa using heq.symm
      obtain ⟨rfl, -⟩ := List.append_eq_nil_iff.mp hnil
      exact .inl hfirst
  · rintro (h | ⟨ha, hb⟩ | h)
    · exact ⟨[a, b], [], rfl, h, List.nil_sublist _⟩
    · exact ⟨[a], [b], rfl, List.singleton_sublist.mpr ha, List.singleton_sublist.mpr hb⟩
    · exact ⟨[], [a, b], rfl, List.nil_sublist _, h⟩

/-- Names that come before others stand no later. -/
theorem Before.noLater {l : List String} {x y : String} (h : Before l x y) (hl : l.Nodup) :
    Frame.NoLater l x y :=
  List.pairwise_iff_forall_sublist.mp (Frame.pairwise_noLater hl) h

/-- **Two lists of the same names are the same** if what comes before in the one does so in the
other. -/
theorem eq_of_before {l m : List String} (hl : l.Nodup) (hp : l.Perm m)
    (h : ∀ x y, Before m x y → Before l x y) : l = m := by
  refine List.Perm.eq_of_pairwise
    (fun x y hx hy (hxy : Before l x y) (hyx : Before l y x) => ?_) ?_ ?_ hp
  · exact Frame.eq_of_noLater hx (hp.mem_iff.mpr hy) (hxy.noLater hl) (hyx.noLater hl)
  · exact List.pairwise_iff_forall_sublist.mpr fun hxy => hxy
  · exact List.pairwise_iff_forall_sublist.mpr fun hxy => h _ _ hxy

namespace Frame

variable {t : Layout} {pending : List Pending}

/-! ### Names that are asked for once -/

section Once

variable (hnodup : (pending.map Pending.name).Nodup)

include hnodup

/-- New names that are asked for once are the names asked for. -/
theorem newNames_of_nodup {names : List String} (h : ∀ x ∈ pending.map Pending.name, x ∉ names) :
    newNames names pending = pending.map Pending.name := by
  rw [newNames, eraseDups_of_nodup hnodup, List.filter_eq_self]
  simpa using h

/-- A request for a name that is asked for once is all there is for it. -/
theorem members_of_nodup {p : Pending} (hp : p ∈ pending) :
    (Part.named pending p.name).members = [p] := by
  change (pending.filter fun q => q.name == p.name) = [p]
  induction pending with
  | nil => exact absurd hp List.not_mem_nil
  | cons q pending ih =>
    obtain ⟨hq, hrest⟩ := List.nodup_cons.mp hnodup
    rcases List.mem_cons.mp hp with rfl | hp
    · have hnone : (pending.filter fun r => r.name == p.name) = [] :=
        List.filter_eq_nil_iff.mpr fun r hr hname =>
          hq (List.mem_map.mpr ⟨r, hr, beq_iff_eq.mp hname⟩)
      rw [List.filter_cons, if_pos (beq_self_eq_true _), hnone]
    · have hne : q.name ≠ p.name := fun heq => hq (heq ▸ List.mem_map_of_mem hp)
      rw [List.filter_cons, if_neg (by simpa using hne), ih hrest hp]

end Once

/-! ### Names for one place -/

/-- **Names with one anchor fill the opening there**, as they come: what stands before the anchor stays
before them, and what stands behind it behind them. -/
theorem placedNames_of_opening {first last : List String} {k : Nat} (h : t.Keeps (first ++ last))
    (hfirst : ∀ y ∈ first, ∃ i, t.childIndex? y = some i ∧ i < k)
    (hlast : ∀ y ∈ last, ∃ i, t.childIndex? y = some i ∧ k ≤ i)
    (hanchor : ∀ x ∈ newNames (first ++ last) pending,
      (Part.named pending x).anchor? (some t) = some k) :
    placedNames (some t) pending (first ++ last) =
      first ++ newNames (first ++ last) pending ++ last := by
  have hmerge : StableMerge _ _ (first ++ last) (newNames (first ++ last) pending) _ :=
    stableMerge_placedNames h
  have hnodup : (first ++ last).Nodup :=
    h.kept ▸ h.nodup.sublist (List.filter_sublist.map Layout.name)
  -- where a new name and an old one stand
  have hbefore {x y : String} (hy : y ∈ first) (hx : x ∈ newNames (first ++ last) pending) :
      Before (placedNames (some t) pending (first ++ last)) y x := by
    obtain ⟨j, hj, hjk⟩ := hfirst y hy
    obtain ⟨i, hi, hcases⟩ :=
      hmerge.anchored x hx k (hanchor x hx) y (List.mem_append_left last hy)
    obtain rfl : j = i := Option.some.inj (hj.symm.trans hi)
    rwa [if_pos hjk] at hcases
  have hbehind {x y : String} (hy : y ∈ last) (hx : x ∈ newNames (first ++ last) pending) :
      Before (placedNames (some t) pending (first ++ last)) x y := by
    obtain ⟨j, hj, hjk⟩ := hlast y hy
    obtain ⟨i, hi, hcases⟩ :=
      hmerge.anchored x hx k (hanchor x hx) y (List.mem_append_right first hy)
    obtain rfl : j = i := Option.some.inj (hj.symm.trans hi)
    rwa [if_neg (by omega)] at hcases
  refine eq_of_before (nodup_placedNames hnodup) (hmerge.perm.trans ?_) fun x y hxy => ?_
  · rw [List.append_assoc, List.append_assoc]
    exact List.perm_append_comm.append_left first
  · rcases before_append_iff.mp hxy with hxy | ⟨hx, hy⟩ | hxy
    · rcases before_append_iff.mp hxy with hxy | ⟨hx, hy⟩ | hxy
      · exact (hxy.sublist (List.sublist_append_left first last)).sublist hmerge.old_order
      · exact hbefore hx hy
      · have horder := hmerge.new_order x y hxy
        rw [hanchor x hxy.mem_left, hanchor y hxy.mem_right] at horder
        simpa using horder
    · rcases List.mem_append.mp hx with hx | hx
      · exact (before_append_iff.mpr (.inr (.inl ⟨hx, hy⟩))).sublist hmerge.old_order
      · exact hbehind hy hx
    · exact (hxy.sublist (List.sublist_append_right first last)).sublist hmerge.old_order

end Frame

/-! ### Columns that are put in as they are -/

/-- **The request puts a column in** under its own name. -/
structure Pending.Puts (p : Pending) (c : Column) : Prop where
  name : p.name = c.name
  rest : p.rest = []
  column : p.column = c

namespace Frame

variable {layout : Option Layout} {pending : List Pending} {cs : List Column}
variable {below : MergeBelow} {above : List String} {frame : Option Frame}

section Puts

variable (hputs : List.Forall₂ Pending.Puts pending cs)

include hputs

theorem map_name_of_puts : pending.map Pending.name = cs.map Column.name := by
  induction hputs with
  | nil => rfl
  | cons h _ ih => rw [List.map_cons, List.map_cons, h.name, ih]

/-- **A column that is put in** where its name is free is there. -/
theorem join_of_puts (hnodup : (cs.map Column.name).Nodup) {c : Column} (hc : c ∈ cs)
    (hfree : (frame.getD empty).column? c.name = none) :
    join below above layout frame pending c.name = .ok (some c) := by
  obtain ⟨p, hp, h⟩ := exists_mem_of_forall₂ hputs hc
  have hmembers : (Part.named pending c.name).members = [p] := by
    rw [← h.name]
    exact members_of_nodup (map_name_of_puts hputs ▸ hnodup) hp
  rw [join_of_single hfree hmembers h.rest, h.column, Column.rename_name]

/-- **Columns that are put into no frame make one**, if none of them has an anchor. -/
theorem mergeBelow_of_columns (hne : cs ≠ []) (hnodup : (cs.map Column.name).Nodup) {n : Nat}
    (hlength : ∀ c ∈ cs, c.length = n) (hanchor : ∀ p ∈ pending, p.anchor? layout = none)
    (depth : Nat) : mergeBelow (depth + 1) above layout none pending = .ok ⟨cs, n⟩ := by
  have hnames := map_name_of_puts hputs
  have hp : pending ≠ [] := by
    rintro rfl
    exact hne (List.forall₂_nil_left_iff.mp hputs)
  have hnew : newNames [] pending = cs.map Column.name := by
    rw [newNames_of_nodup (hnames ▸ hnodup) (by simp), hnames]
  have hunanchored : ∀ x ∈ newNames [] pending, (Part.named pending x).anchor? layout = none := by
    intro x _
    rw [Part.anchor?_eq_min?, List.filterMap_eq_nil_iff.mpr fun p hp => ?_]
    · rfl
    · exact hanchor p (Part.mem_named.mp hp).1
  rw [mergeBelow_succ depth above layout none hp, mergeLevel_eq_ok_iff (by simp [empty, names])]
  refine ⟨?_, fun name => ?_, hlength, (levelRows_eq hne (by simp [empty]) hlength).symm⟩
  · exact ((placedNames_of_unanchored hunanchored).trans ((List.nil_append _).trans hnew)).symm
  · by_cases hname : name ∈ cs.map Column.name
    · obtain ⟨c, hc, rfl⟩ := List.mem_map.mp hname
      rw [join_of_puts hputs hnodup hc rfl, column?_name (f := ⟨cs, n⟩) hnodup hc]
    · rw [join_of_not_mem (hnames ▸ hname), column?_eq_none_iff (f := ⟨cs, n⟩) |>.mpr hname]
      rfl

end Puts

end Frame

/-! ### A level with one anchor -/

namespace Frame

/-- What is left of the columns before a position, -/
def leftBefore (paths : List (List String)) (k : Nat) (f : Frame) : List Column :=
  (f.columns.take k).filterMap (Column.prune? paths)

/-- and of those from it on. -/
def leftFrom (paths : List (List String)) (k : Nat) (f : Frame) : List Column :=
  (f.columns.drop k).filterMap (Column.prune? paths)

variable {f : Frame} {paths : List (List String)} {k : Nat}

theorem leftBefore_append_leftFrom (f : Frame) (paths : List (List String)) (k : Nat) :
    f.leftBefore paths k ++ f.leftFrom paths k = (f.pruned paths).columns := by
  rw [leftBefore, leftFrom, ← List.filterMap_append, List.take_append_drop, pruned]

section Layout

variable {t : Layout} (ht : t.children = f.columns.map (Column.marked paths))

include ht

/-- A request whose node is at or below a column is anchored at it, if it has gone, and behind it, if
something is left of it. -/
theorem anchor?_of_place {p : Pending} {i : Nat} {c : Column} {rest : List Nat}
    (hi : f.columns[i]? = some c) (hp : p.place = some (i :: rest)) :
    p.anchor? (some t) = some (if (c.prune? paths).isNone then i else i + 1) := by
  have hchild : t.children[i]? = some (c.marked paths) := by
    rw [ht, List.getElem?_map, hi, Option.map_some]
  simp [Pending.anchor?, hp, hchild, Column.isRemoved_marked]

variable (hf : f.names.Nodup)

include hf

/-- What is left before a position stands before it in the layout, -/
theorem childIndex?_of_mem_leftBefore {d : Column} (hd : d ∈ f.leftBefore paths k) :
    ∃ i, t.childIndex? d.name = some i ∧ i < k := by
  obtain ⟨c, hc, hprune⟩ := List.mem_filterMap.mp hd
  obtain ⟨i, hi⟩ := List.getElem?_of_mem hc
  rw [List.getElem?_take] at hi
  split at hi
  next hlt =>
    refine ⟨i, ?_, hlt⟩
    rw [Column.name_of_prune? hprune]
    exact childIndex?_of_children ht hf hi
  next => exact absurd hi (by simp)

/-- and what is left from it on does not. -/
theorem childIndex?_of_mem_leftFrom {d : Column} (hd : d ∈ f.leftFrom paths k) :
    ∃ i, t.childIndex? d.name = some i ∧ k ≤ i := by
  obtain ⟨c, hc, hprune⟩ := List.mem_filterMap.mp hd
  obtain ⟨i, hi⟩ := List.getElem?_of_mem hc
  rw [List.getElem?_drop] at hi
  refine ⟨k + i, ?_, Nat.le_add_right k i⟩
  rw [Column.name_of_prune? hprune]
  exact childIndex?_of_children ht hf hi

end Layout

end Frame

/-- **A level with one anchor** gets the columns that its names become between what is left before the
anchor and what is left from there on. -/
theorem IsLeft.mergeBelow_eq {f : Frame} {paths : List (List String)} {frame : Option Frame}
    (h : IsLeft frame f paths) (hf : f.WellFormed) {t : Layout}
    (ht : t.children = f.columns.map (Column.marked paths)) {k : Nat} {pending : List Pending}
    {block : List Column} {depth : Nat} {above : List String}
    (hwf : (Frame.mk (f.leftBefore paths k ++ block ++ f.leftFrom paths k) f.rowCount).WellFormed)
    (hne : block ≠ []) (hnames : (pending.map Pending.name).eraseDups = block.map Column.name)
    (hanchor : ∀ c ∈ block, (Part.named pending c.name).anchor? (some t) = some k)
    (hjoin : ∀ c ∈ block,
      Frame.join (Frame.mergeBelow depth) above (some t) frame pending c.name = .ok (some c)) :
    Frame.mergeBelow (depth + 1) above (some t) frame pending =
      .ok ⟨f.leftBefore paths k ++ block ++ f.leftFrom paths k, f.rowCount⟩ := by
  have hcolumns := f.leftBefore_append_leftFrom paths k
  have hbefore {c : Column} (hc : c ∈ f.leftBefore paths k) :=
    Frame.childIndex?_of_mem_leftBefore ht hf.nodup_names hc
  have hfrom {c : Column} (hc : c ∈ f.leftFrom paths k) :=
    Frame.childIndex?_of_mem_leftFrom ht hf.nodup_names hc
  set before := f.leftBefore paths k
  set after := f.leftFrom paths k
  have hp : pending ≠ [] := by
    rintro rfl
    exact hne (List.map_eq_nil_iff.mp hnames.symm)
  have hleft : (frame.getD .empty).names = before.map Column.name ++ after.map Column.name := by
    rw [h.names_eq, Frame.names, ← hcolumns, List.map_append]
  have hnodup := hwf.nodup_names
  have hmem (name : String) : name ∈ pending.map Pending.name ↔ name ∈ block.map Column.name := by
    rw [← hnames, List.mem_eraseDups]
  -- the names of the block are all new
  have hnew : Frame.newNames (before.map Column.name ++ after.map Column.name) pending =
      block.map Column.name := by
    rw [Frame.newNames, hnames, List.filter_eq_self]
    intro x hx
    rw [Frame.names, List.map_append, List.map_append, List.nodup_append,
      List.nodup_append] at hnodup
    obtain ⟨⟨-, -, hfirst⟩, -, hlast⟩ := hnodup
    simp only [decide_eq_true_eq, List.mem_append, not_or]
    exact ⟨fun hmem => hfirst x hmem x hx rfl,
      fun hmem => hlast x (List.mem_append_right _ hx) x hmem rfl⟩
  have hplaced : Frame.placedNames (some t) pending (before.map Column.name ++ after.map Column.name) =
      before.map Column.name ++ block.map Column.name ++ after.map Column.name := by
    rw [← hnew]
    refine Frame.placedNames_of_opening (k := k) ?_ ?_ ?_ ?_
    · exact hleft ▸ h.names_eq ▸ Frame.keeps_pruned ht hf.nodup_names
    · exact List.forall_mem_map.mpr fun c hc => hbefore hc
    · exact List.forall_mem_map.mpr fun c hc => hfrom hc
    · exact hnew ▸ List.forall_mem_map.mpr hanchor
  rw [Frame.mergeBelow_succ depth above (some t) _ hp,
    Frame.mergeLevel_eq_ok_iff (h.nodup_names hf.nodup_names)]
  refine ⟨?_, fun name => ?_, (Frame.wellFormed_iff.mp hwf).2.1, ?_⟩
  · rw [hleft, hplaced, Frame.names, List.map_append, List.map_append]
  · by_cases hname : name ∈ block.map Column.name
    · obtain ⟨c, hc, rfl⟩ := List.mem_map.mp hname
      rw [hjoin c hc, Frame.column?_name hnodup
        (List.mem_append_left after (List.mem_append_right before hc))]
    · rw [Frame.join_of_not_mem (mt (hmem name).mp hname)]
      refine congrArg _ (Option.ext fun c => ?_)
      rw [Frame.column?_eq_some_iff (h.nodup_names hf.nodup_names), Frame.column?_eq_some_iff hnodup,
        h.1, ← hcolumns]
      simp only [List.mem_append]
      have hother : c ∈ block → c.name ≠ name := fun hc heq =>
        hname (heq ▸ List.mem_map_of_mem hc)
      tauto
  · have hblock : before ++ block ++ after ≠ [] := by simp [hne]
    exact (Frame.levelRows_eq (n := f.rowCount) hblock h.2 (Frame.wellFormed_iff.mp hwf).2.1).symm

/-! ### What is taken out of columns side by side -/

namespace Column

variable {paths : List (List String)}

theorem taken_of_pathsThrough_eq_nil {c : Column} (h : pathsThrough c.name paths = []) :
    c.taken paths = [] := by
  rw [taken, strip_of_pathsThrough_eq_nil h]
  rfl

/-- If no path leads to or into the columns around a run, all is taken out of the run. -/
theorem takenAll_of_run {first run last : List Column}
    (h : ∀ c ∈ first ++ last, pathsThrough c.name paths = []) :
    takenAll paths (first ++ run ++ last) =
      (run.zipIdx first.length).flatMap fun e => (e.1.taken paths).map (Taken.under [] [e.2]) := by
  have hnone {cs : List Column} (hcs : ∀ c ∈ cs, pathsThrough c.name paths = []) (k : Nat) :
      ((cs.zipIdx k).flatMap fun e => (e.1.taken paths).map (Taken.under [] [e.2])) = [] := by
    refine List.flatMap_eq_nil_iff.mpr fun e he => ?_
    rw [taken_of_pathsThrough_eq_nil (hcs e.1 (List.fst_mem_of_mem_zipIdx he)), List.map_nil]
  rw [takenAll, List.zipIdx_append, List.zipIdx_append, List.flatMap_append, List.flatMap_append,
    hnone fun c hc => h c (List.mem_append_left last hc),
    hnone fun c hc => h c (List.mem_append_right first hc), List.nil_append, List.append_nil,
    Nat.zero_add]

/-- Columns that are taken as a whole are listed with their positions. -/
theorem flatMap_taken_of_whole {cs : List Column} (h : ∀ c ∈ cs, [] ∈ pathsThrough c.name paths)
    (k : Nat) :
    ((cs.zipIdx k).flatMap fun e => (e.1.taken paths).map (Taken.under [] [e.2])) =
      (cs.zipIdx k).map fun e => ([e.2], Path.single e.1.name, e.1) := by
  rw [List.map_eq_flatMap]
  refine List.flatMap_congr fun e he => ?_
  rw [taken_of_mem (h e.1 (List.fst_mem_of_mem_zipIdx he))]
  rfl

end Column

/-! ### A frame with an opening -/

/-- **Columns side by side have gone**, and those around them are as they were. -/
structure Opening (f : Frame) (paths : List (List String)) (first run last : List Column) : Prop where
  wellFormed : f.WellFormed
  columns : f.columns = first ++ run ++ last
  gone : ∀ c ∈ run, c.prune? paths = none
  kept : ∀ c ∈ first ++ last, pathsThrough c.name paths = []

namespace Opening

variable {f : Frame} {paths : List (List String)} {first run last : List Column}
variable (h : Opening f paths first run last)

include h

/-- What stands before the opening is left, -/
theorem leftBefore_eq : f.leftBefore paths first.length = first := by
  rw [Frame.leftBefore, h.columns, List.append_assoc, List.take_left,
    List.filterMap_congr fun c hc => Column.prune?_of_pathsThrough_eq_nil
      (h.kept c (List.mem_append_left last hc)), List.filterMap_some]

/-- and what stands behind it. -/
theorem leftFrom_eq : f.leftFrom paths first.length = last := by
  rw [Frame.leftFrom, h.columns, List.append_assoc, List.drop_left, List.filterMap_append,
    List.filterMap_eq_nil_iff.mpr h.gone, List.nil_append,
    List.filterMap_congr fun c hc => Column.prune?_of_pathsThrough_eq_nil
      (h.kept c (List.mem_append_right first hc)), List.filterMap_some]

theorem columns_pruned : (f.pruned paths).columns = first ++ last := by
  rw [← f.leftBefore_append_leftFrom paths first.length, h.leftBefore_eq, h.leftFrom_eq]

end Opening

end Colonnade
