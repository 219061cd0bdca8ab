import Colonnade.Proofs.Merge.Slot
import Colonnade.Proofs.Removal.Regained

/-!
# Putting columns back one by one

A layout is a snapshot, and a walk along it takes every column that is marked as removed for gone.
Merges of one column each, all with the layout of the removal, see a frame in which some of them are
back, and may put a column before others that it came after. `Frame.putBack_removed` is about such
merges, in any order:

* every one of them succeeds, and in the end all columns are there;
* **the frame is what it was if and only if its columns have come back in turn** (`InTurn`), which
  means that of two columns of a group the one that comes first is not back before the other;
* so it is if they come back from the last entry to the first, whatever was removed.

The state between two merges is `Regaining`. A single merge puts at most one new name into a group that
is there, and `Regaining.sublist_iff_of_merge` says when this is the place of the name. A group that was
not there has a single column, or comes as it was with the column of the entry
(`Regaining.sublist_of_merge_of_none`). Both are in the step, `Regaining.follows_iff_of_merge`, and the
run is an induction on the entries that are back.
-/

namespace Colonnade

/-- **Putting entries back one by one**, each by a merge of its own, with its node and the layout of the
removal. -/
def Removal.putBack (removal : Removal) (back : List Removed) : Except FrameError Frame :=
  back.foldlM (fun g r => Frame.merge (some g) [r.request] (some removal.layout)) removal.frame

/-! ### Orders -/

/-- **Columns are in the order of a frame**, in every group that is in both. -/
def Frame.Follows (g f : Frame) : Prop :=
  ∀ names inner inner', f.groupAt? names = some inner → g.groupAt? names = some inner' →
    inner'.names.Sublist inner.names

/-- One of the entries brings what the names lead to. -/
def Brought (back : List Removed) (names : List String) : Prop :=
  ∃ r ∈ back, r.Brings names

/-- **Entries come back in turn** to what is left of a frame: of two columns of a group that have gone,
if the one that comes first is back then so is the other, provided that it comes back at all. -/
def InTurn (f left : Frame) (back : List Removed) : Prop :=
  ∀ above inner x y, f.groupAt? above = some inner → Before inner.names x y →
    left.find? (above ++ [x]) = none → left.find? (above ++ [y]) = none →
      Brought back (above ++ [y]) → ∀ done, done <+: back →
        Brought done (above ++ [x]) → Brought done (above ++ [y])

/-- **An entry is next** after others: no column that has gone and comes before one that the entry is
the first to bring is back. -/
def NextInTurn (f left : Frame) (back : List Removed) (r : Removed) : Prop :=
  ∀ above inner x y, f.groupAt? above = some inner → Before inner.names x y →
    left.find? (above ++ [x]) = none → left.find? (above ++ [y]) = none →
      r.Brings (above ++ [y]) → ¬Brought back (above ++ [y]) → ¬Brought back (above ++ [x])

section Brought

variable {f left : Frame} {back done : List Removed} {r : Removed} {names : List String}

theorem Brought.mono (h : Brought done names) (hsub : done ⊆ back) : Brought back names := by
  obtain ⟨b, hb, hbrings⟩ := h
  exact ⟨b, hsub hb, hbrings⟩

theorem brought_concat_iff : Brought (back ++ [r]) names ↔ Brought back names ∨ r.Brings names := by
  simp [Brought, or_and_right, exists_or]

theorem brought_map_entryOf {t : Layout} {back : List Taken} :
    Brought (back.map (Frame.entryOf t)) names ↔ ∃ e ∈ back, e.Brings names := by
  simp only [Brought, List.mem_map, exists_exists_and_eq_and]
  rfl

/-- **Entries come back in turn if each of them is next** after those before it. -/
theorem inTurn_concat_iff :
    InTurn f left (back ++ [r]) ↔ InTurn f left back ∧ NextInTurn f left back r := by
  constructor
  · intro h
    constructor
    · intro above inner x y hinner hxy hx hy hbrought done hdone
      exact h above inner x y hinner hxy hx hy (brought_concat_iff.mpr (Or.inl hbrought)) done
        (hdone.trans (List.prefix_append back [r]))
    · intro above inner x y hinner hxy hx hy hbrings hnew hback
      exact hnew (h above inner x y hinner hxy hx hy (brought_concat_iff.mpr (Or.inr hbrings)) back
        (List.prefix_append back [r]) hback)
  · rintro ⟨h, hnext⟩ above inner x y hinner hxy hx hy hbrought done hdone hback
    rcases List.prefix_concat_iff.mp hdone with rfl | hearlier
    · exact hbrought
    · by_cases hold : Brought back (above ++ [y])
      · exact h above inner x y hinner hxy hx hy hold done hearlier hback
      · -- the last entry is the first to bring the column, so what comes before it cannot be back
        have hbrings := (brought_concat_iff.mp hbrought).resolve_left hold
        exact absurd (hback.mono hearlier.subset) (hnext above inner x y hinner hxy hx hy hbrings hold)

end Brought

/-! ### An entry at a level -/

/-- The name that a request has in a group is the one that its path goes on with. -/
theorem Request.nameIn?_eq_some_iff {r : Request} {names : List String} {y : String} :
    r.nameIn? names = some y ↔ ∃ rest, r.path.segments = names ++ y :: rest := by
  rw [nameIn?]
  constructor
  · intro h
    split at h
    next hprefix =>
      obtain ⟨rest, hrest⟩ := List.isPrefixOf_iff_prefix.mp hprefix
      rw [← hrest, List.getElem?_append_right (Nat.le_refl _), Nat.sub_self] at h
      obtain ⟨tail, rfl⟩ := List.head?_eq_some_iff.mp (List.head?_eq_getElem? ▸ h)
      exact ⟨tail, hrest.symm⟩
    next => exact absurd h (by simp)
  · rintro ⟨rest, hrest⟩
    have hprefix : names.isPrefixOf r.path.segments :=
      List.isPrefixOf_iff_prefix.mpr ⟨y :: rest, hrest.symm⟩
    rw [if_pos hprefix, hrest, List.getElem?_append_right (Nat.le_refl _), Nat.sub_self]
    rfl

/-- One request brings at most one new name. -/
theorem newcomers_singleton (r : Request) (names old : List String) :
    newcomers [r] names old = (r.nameIn? names).toList.filter (· ∉ old) := by
  rw [newcomers]
  cases h : r.nameIn? names with
  | none => simp [h]
  | some y =>
    have hone : [y].eraseDups = [y] := rfl
    simp [h, hone]

section Entry

variable {t : Layout} {e : Taken} {above old rest : List String} {y : String}

/-- An entry brings no new name where the one it goes on with is there, -/
theorem newcomers_eq_nil (h : ∀ y rest, e.names = above ++ y :: rest → y ∈ old) :
    newcomers [(Frame.entryOf t e).request] above old = [] := by
  rw [newcomers_singleton, List.filter_eq_nil_iff]
  intro y hy
  obtain ⟨rest, hrest⟩ := Request.nameIn?_eq_some_iff.mp (Option.mem_toList.mp hy)
  simpa using h y rest hrest

/-- and that one where it is not, -/
theorem newcomers_eq_singleton (h : e.names = above ++ y :: rest) (hy : y ∉ old) :
    newcomers [(Frame.entryOf t e).request] above old = [y] := by
  have hin : (Frame.entryOf t e).request.nameIn? above = some y :=
    Request.nameIn?_eq_some_iff.mpr ⟨rest, h⟩
  simp [newcomers_singleton, hin, hy]

/-- with the anchor of its address. -/
theorem anchorOf?_entry {s : Layout} (hs : t.at? e.1 = some s) (h : e.names = above ++ y :: rest) :
    t.anchorOf? [(Frame.entryOf t e).request] above y = t.anchorAt? above e.1 := by
  have hin : (Frame.entryOf t e).request.nameIn? above = some y :=
    Request.nameIn?_eq_some_iff.mpr ⟨rest, h⟩
  have hat : (Frame.entryOf t e).request.node.bind
      (fun n => (t.address? n).bind (t.anchorAt? above)) = t.anchorAt? above e.1 := by
    change (t.address? (t.number e.1)).bind (t.anchorAt? above) = _
    rw [Layout.address?_number hs, Option.bind_some]
  rw [Layout.anchorOf?, List.filter_singleton]
  cases hanchor : t.anchorAt? above e.1 <;> simp [hin, hat, hanchor]

end Entry

namespace Regaining

variable {f g g' : Frame} {paths : List (List String)} {t : Layout} {back out : List Taken} {e : Taken}
variable (h : Regaining f paths t back (e :: out) g)
variable (hmerge : Frame.merge (some g) [(Frame.entryOf t e).request] (some t) = .ok g')

include h hmerge

/-- The columns of a group after one entry has been merged. -/
theorem names_of_merge {above : List String} {merged base : Frame}
    (hmerged : g'.groupAt? above = some merged) (hbase : g.HadAt [(e.names, e.2.2)] above base) :
    merged.names = Frame.placedNames (t.node? above)
      (Frame.pendingAt (some t) [(Frame.entryOf t e).request] above) base.names := by
  have hg : ((some g).getD .empty).WellFormed := h.wellFormed
  have hbase' : ((some g).getD .empty).HadAt (([(Frame.entryOf t e).request].map
      (Pending.ofRequest (some t))).map Pending.entry) above base := by
    rw [Frame.entries_ofRequest]
    exact hbase
  exact Frame.names_of_mergeBelow hg
    (List.forall_mem_map.mpr (List.forall_mem_singleton.mpr h.wellFormed_next.1))
    (fun _ hp => Frame.length_rest_lt_deepest hp) hmerge hmerged hbase'

/-- No group is lost. -/
theorem exists_groupAt?_of_merge {above : List String} {inner : Frame}
    (hinner : g.groupAt? above = some inner) : ∃ merged, g'.groupAt? above = some merged := by
  have hg : ((some g).getD .empty).WellFormed := h.wellFormed
  exact Frame.exists_groupAt?_of_mergeBelow hg
    (List.forall_mem_map.mpr (List.forall_mem_singleton.mpr h.wellFormed_next.1))
    (fun _ hp => Frame.length_rest_lt_deepest hp) hmerge hinner

/-- Where the entry brings no new name, the columns are those that there were. -/
theorem names_eq_of_merge {above : List String} {merged base : Frame}
    (hmerged : g'.groupAt? above = some merged) (hbase : g.HadAt [(e.names, e.2.2)] above base)
    (hold : ∀ y rest, e.names = above ++ y :: rest → y ∈ base.names) : merged.names = base.names := by
  have hnone : newcomers [(Frame.entryOf t e).request] above base.names = [] := newcomers_eq_nil hold
  rw [h.names_of_merge hmerge hmerged hbase, Frame.placedNames_of_unanchored,
    Frame.newNames_pendingAt, hnone, List.append_nil]
  intro x hx
  rw [Frame.newNames_pendingAt, hnone] at hx
  exact absurd hx List.not_mem_nil

/-- **At the level where an entry brings a new name**, that name takes its place if and only if nothing
is back that comes before it there. -/
theorem sublist_iff_of_merge {above rest : List String} {y : String} {inner old merged : Frame}
    (hnames : e.names = above ++ y :: rest) (hinner : f.groupAt? above = some inner)
    (hold : g.groupAt? above = some old) (hmerged : g'.groupAt? above = some merged)
    (hy : y ∉ old.names) (horder : old.names.Sublist inner.names) :
    merged.names.Sublist inner.names ↔ ∀ x, Before inner.names x y →
      (f.pruned paths).find? (above ++ [x]) = none → ¬∃ d ∈ back, d.Brings (above ++ [x]) := by
  have hf := h.restoring.wellFormed
  obtain ⟨hspared, node, i, hnode, hchildren, hi, hanchor⟩ :=
    Frame.exists_place_of_mem_takenAll hf h.restoring.children h.mem_takenAll hnames hinner
  have hnodup := (hf.groupAt hinner).nodup_names
  have hleft (x : String) : x ∉ (inner.pruned (pathsBelow above paths)).names ↔
      (f.pruned paths).find? (above ++ [x]) = none := by
    rw [Frame.find?_pruned_concat hf hspared hinner, Frame.column?_eq_none_iff]
  have hsub : ∀ x ∈ (inner.pruned (pathsBelow above paths)).names, x ∈ old.names := by
    intro x hx
    by_contra hgone
    have hmem := (Frame.names_pruned_sublist inner (pathsBelow above paths)).subset hx
    exact (hleft x).mpr ((h.not_mem_names_iff hinner hold hmem).mp hgone).1 hx
  have hnew : Frame.newNames old.names (Frame.pendingAt (some t) [(Frame.entryOf t e).request] above) =
      [y] := by
    rw [Frame.newNames_pendingAt, newcomers_eq_singleton hnames hy]
  have hplace : (Part.named (Frame.pendingAt (some t) [(Frame.entryOf t e).request] above) y).anchor?
      (some node) = some i := by
    obtain ⟨s, hs⟩ := Frame.at?_of_mem_takenAll hf h.restoring.children h.mem_takenAll
    rw [← hnode, Frame.anchor?_pendingAt, anchorOf?_entry hs hnames,
      hanchor fun hleft => hy (hsub y hleft)]
  rw [h.names_of_merge hmerge hmerged (Or.inl hold), hnode,
    Frame.sublist_placedNames_iff hnodup hchildren hi hnew hplace horder hsub]
  refine forall₂_congr fun x hx => ?_
  have hthere := h.not_mem_names_iff hinner hold hx.mem_left
  have hleft' := hleft x
  tauto

/-- A group that was not there has the order that it had, once the entry has brought it. -/
theorem sublist_of_merge_of_none {above : List String} {inner merged : Frame}
    (hinner : f.groupAt? above = some inner) (hnone : g.groupAt? above = none)
    (hmerged : g'.groupAt? above = some merged) : merged.names.Sublist inner.names := by
  have hf := h.restoring.wellFormed
  by_cases hinside : ∃ rest, above = e.names ++ rest
  · -- it is in the column of the entry
    obtain ⟨rest, rfl⟩ := hinside
    have hbase : (e.2.2.descend? rest).bind Column.group? = some inner := by
      have hfind : f.find? e.names = some e.2.2 := Frame.find?_of_mem_takenAll hf h.mem_takenAll
      rw [Frame.groupAt?, Frame.find?, Column.descend?_append, ← Frame.find?, hfind] at hinner
      exact hinner
    have hhad : g.HadAt [(e.names, e.2.2)] (e.names ++ rest) inner :=
      Or.inr (Or.inl ⟨_, List.mem_singleton_self _, rest, rfl, hbase⟩)
    rw [h.names_eq_of_merge hmerge hmerged hhad fun y tail htail => ?_]
    have hlength := congrArg List.length htail
    simp only [List.length_append, List.length_cons] at hlength
    omega
  · have hhad : g.HadAt [(e.names, e.2.2)] above .empty :=
      Or.inr (Or.inr ⟨rfl, hnone, List.forall_mem_singleton.mpr fun rest hrest =>
        absurd ⟨rest, hrest⟩ hinside⟩)
    by_cases hway : ∃ y rest, e.names = above ++ y :: rest
    · -- it is on the way, and has a single column
      obtain ⟨y, rest, hnames⟩ := hway
      obtain ⟨-, -, i, -, -, hi, -⟩ :=
        Frame.exists_place_of_mem_takenAll hf h.restoring.children h.mem_takenAll hnames hinner
      have hperm : (Frame.placedNames (t.node? above) (Frame.pendingAt (some t)
          [(Frame.entryOf t e).request] above) []).Perm _ := Frame.placedNames_perm []
      rw [Frame.newNames_pendingAt, newcomers_eq_singleton hnames List.not_mem_nil] at hperm
      have hone : merged.names = [y] := by
        rw [h.names_of_merge hmerge hmerged hhad]
        exact List.perm_singleton.mp hperm
      rw [hone]
      exact List.singleton_sublist.mpr (List.mem_of_getElem? hi)
    · rw [h.names_eq_of_merge hmerge hmerged hhad fun y rest hnames => absurd ⟨y, rest, hnames⟩ hway]
      exact List.nil_sublist _

/-- Columns that are in order were so before the merge. -/
theorem follows_of_merge (horder : g'.Follows f) : g.Follows f := by
  intro names inner old hinner hold
  obtain ⟨merged, hmerged⟩ := h.exists_groupAt?_of_merge hmerge hold
  have hnames := h.names_of_merge hmerge hmerged (Or.inl hold)
  have hsub : old.names.Sublist merged.names := hnames ▸ Frame.sublist_placedNames _ _ _
  exact hsub.trans (horder names inner merged hinner hmerged)

/-- If they are in order after the merge, the entry was next. -/
theorem nextInTurn_of_merge (horder : g'.Follows f) :
    NextInTurn f (f.pruned paths) (back.map (Frame.entryOf t)) (Frame.entryOf t e) := by
  intro above inner x y hinner hxy hx hy hbrings hnew hback
  rw [brought_map_entryOf] at hnew hback
  -- the group is there, because the column that comes first is
  obtain ⟨c, hc⟩ := Option.ne_none_iff_exists'.mp
    (mt Frame.column?_eq_none_iff.mp (not_not_intro hxy.mem_left))
  rw [← Frame.find?_concat hinner] at hc
  obtain ⟨d, hd⟩ := Option.ne_none_iff_exists'.mp fun hnone =>
    ((h.find?_eq_none_iff hc).mp hnone).2 hback
  obtain ⟨old, hold⟩ := Frame.exists_groupAt?_of_concat hd
  obtain ⟨merged, hmerged⟩ := h.exists_groupAt?_of_merge hmerge hold
  have hgone : y ∉ old.names :=
    (h.not_mem_names_iff hinner hold hxy.mem_right).mpr ⟨hy, hnew⟩
  obtain ⟨rest, hnames⟩ : ∃ rest, e.names = above ++ y :: rest := by
    refine (prefix_or_prefix_concat_iff.mp hbrings).resolve_right ?_
    -- the entry is still out, so nothing can be there inside of its column
    rintro ⟨rest, rfl⟩
    have hout : (Column.group "" g).descend? (Frame.entryOf t e).path.segments = none :=
      h.find?_eq_none_of_mem_out List.mem_cons_self
    rw [Frame.find?, List.append_assoc, Column.descend?_append, hout] at hd
    exact absurd hd (by simp)
  have hbefore := h.follows_of_merge hmerge horder above inner old hinner hold
  exact (h.sublist_iff_of_merge hmerge hnames hinner hold hmerged hgone hbefore).mp
    (horder above inner merged hinner hmerged) x hxy hx hback

/-- If they were in order and the entry is next, they are in order. -/
theorem follows_of_nextInTurn (horder : g.Follows f)
    (hnext : NextInTurn f (f.pruned paths) (back.map (Frame.entryOf t)) (Frame.entryOf t e)) :
    g'.Follows f := by
  intro names inner merged hinner hmerged
  rcases hold : g.groupAt? names with _ | old
  · exact h.sublist_of_merge_of_none hmerge hinner hold hmerged
  · have hbefore := horder names inner old hinner hold
    by_cases hnew : ∃ y rest, e.names = names ++ y :: rest ∧ y ∉ old.names
    · obtain ⟨y, rest, hnames, hy⟩ := hnew
      refine (h.sublist_iff_of_merge hmerge hnames hinner hold hmerged hy hbefore).mpr
        fun x hxy hx hback => ?_
      obtain ⟨hgone, hnone⟩ := (h.not_mem_names_iff hinner hold hxy.mem_right).mp hy
      exact hnext names inner x y hinner hxy hx hgone
        (prefix_or_prefix_concat_iff.mpr (Or.inl ⟨rest, hnames⟩))
        (mt brought_map_entryOf.mp hnone) (brought_map_entryOf.mpr hback)
    · rw [h.names_eq_of_merge hmerge hmerged (Or.inl hold) fun y rest hnames => ?_]
      · exact hbefore
      · by_contra hy
        exact hnew ⟨y, rest, hnames, hy⟩

/-- **Columns stay in order if and only if the entry is next.** -/
theorem follows_iff_of_merge : g'.Follows f ↔ g.Follows f ∧
    NextInTurn f (f.pruned paths) (back.map (Frame.entryOf t)) (Frame.entryOf t e) :=
  ⟨fun horder => ⟨h.follows_of_merge hmerge horder, h.nextInTurn_of_merge hmerge horder⟩,
    fun ⟨horder, hnext⟩ => h.follows_of_nextInTurn hmerge horder hnext⟩

end Regaining

/-! ### Last to first -/

/-- What comes before comes after in the list the other way round, so it is there no earlier. -/
theorem mem_of_prefix_reverse {α : Type} {l done : List α} {a b : α} (hl : l.Nodup)
    (hdone : done <+: l.reverse) (ha : a ∈ done) (hab : Before l a b) : b ∈ done := by
  obtain ⟨tail, htail⟩ := hdone
  have heq : l = tail.reverse ++ done.reverse := by
    rw [← List.reverse_append, htail, List.reverse_reverse]
  rw [heq] at hl hab
  rcases before_append_iff.mp hab with hab | ⟨-, hb⟩ | hab
  · have hboth := (List.nodup_append.mp hl).2.2 a hab.mem_left a (List.mem_reverse.mpr ha)
    exact absurd rfl hboth
  · exact List.mem_reverse.mp hb
  · exact List.mem_reverse.mp hab.mem_right

/-- Members of what comes before come before. -/
theorem Before.flatMap {α β : Type} {l : List α} {a b : α} {u v : β} {F : α → List β}
    (h : Before l a b) (hu : u ∈ F a) (hv : v ∈ F b) : Before (l.flatMap F) u v := by
  have hpair : Before ([a, b].flatMap F) u v := by
    rw [List.flatMap_cons, List.flatMap_singleton]
    exact before_append_iff.mpr (Or.inr (Or.inl ⟨hu, hv⟩))
  exact hpair.sublist (List.Sublist.flatMap h F)

namespace Column

variable {f : Frame} {paths : List (List String)} {e e' : Taken} {i j : Nat} {c d : Column}

/-- Entries of columns side by side are listed in the order of the columns. -/
theorem before_takenAll_of_names (hf : f.names.Nodup) (hi : f.columns[i]? = some c)
    (hj : f.columns[j]? = some d) (hcd : Before f.names c.name d.name) (he : e ∈ c.taken paths)
    (he' : e' ∈ d.taken paths) :
    Before (takenAll paths f.columns) (e.under [] [i]) (e'.under [] [j]) := by
  have hsorted : f.columns.zipIdx.Pairwise fun a b => a.2 < b.2 := by
    rw [← List.pairwise_map, List.zipIdx_map_snd]
    exact List.pairwise_lt_range'
  have hij : i ≤ j := hcd.noLater hf i j
    (by rw [Frame.names, List.getElem?_map, hi, Option.map_some])
    (by rw [Frame.names, List.getElem?_map, hj, Option.map_some])
  have hne : (c, i) ≠ (d, j) := by
    rintro ⟨⟩
    exact not_before_of_before hf hcd hcd
  have hbefore : Before f.columns.zipIdx (c, i) (d, j) :=
    before_of_pairwise hsorted (List.mem_zipIdx_iff_getElem?.mpr hi)
      (List.mem_zipIdx_iff_getElem?.mpr hj) hne (not_lt.mpr hij)
  exact hbefore.flatMap (List.mem_map_of_mem he) (List.mem_map_of_mem he')

/-- **Entries are listed in the order of the columns** that they lead to in a group. -/
theorem before_takenAll {inner : Frame} (hf : f.WellFormed) (he : e ∈ takenAll paths f.columns)
    (he' : e' ∈ takenAll paths f.columns) {above rest rest' : List String} {x y : String}
    (hnames : e.names = above ++ x :: rest) (hnames' : e'.names = above ++ y :: rest')
    (hinner : f.groupAt? above = some inner) (hxy : Before inner.names x y) :
    Before (takenAll paths f.columns) e e' := by
  induction above generalizing f paths e e' with
  | nil =>
    obtain ⟨i, c, hi, e, hc, rfl⟩ := mem_takenAll.mp he
    obtain ⟨j, d, hj, e', hd, rfl⟩ := mem_takenAll.mp he'
    obtain ⟨tail, htail⟩ := exists_segments_of_mem_taken hc
    obtain ⟨tail', htail'⟩ := exists_segments_of_mem_taken hd
    obtain ⟨rfl, -⟩ := List.cons.inj (htail.symm.trans hnames)
    obtain ⟨rfl, -⟩ := List.cons.inj (htail'.symm.trans hnames')
    obtain rfl := Option.some.inj hinner
    exact before_takenAll_of_names hf.nodup_names hi hj hxy hc hd
  | cons name above ih =>
    obtain ⟨c, g, hc, hgroup, hinside⟩ := Frame.groupAt?_cons_eq_some_iff.mp hinner
    obtain ⟨hmem, rfl⟩ := (Frame.column?_eq_some_iff hf.nodup_names).mp hc
    obtain ⟨i, hi⟩ := List.getElem?_of_mem hmem
    -- both are entries of the group of the first name
    obtain ⟨hthere, e₁, he₁, rfl, hbelow⟩ :=
      exists_mem_takenAll_group hf.nodup_names hi hgroup he hnames (by simp)
    obtain ⟨-, e₁', he₁', rfl, hbelow'⟩ :=
      exists_mem_takenAll_group hf.nodup_names hi hgroup he' hnames' (by simp)
    have hbefore := ih ((hf.of_mem hmem).frame hgroup) he₁ he₁' hbelow hbelow' hinside
    refine (hbefore.map (Taken.under [c.name] [i])).sublist ?_
    rw [← filter_takenAll_group hf.nodup_names hi hgroup hthere]
    exact List.filter_sublist

end Column

/-- **The last entry first is in turn.** -/
theorem inTurn_reverse {f : Frame} {paths : List (List String)} (hf : f.WellFormed)
    (hpaths : f.Resolves paths) (left : Frame) (t : Layout) :
    InTurn f left ((Column.takenAll paths f.columns).map (Frame.entryOf t)).reverse := by
  rintro above inner x y hinner hxy - - ⟨b, hb, hby⟩ done hdone ⟨a, ha, hax⟩
  obtain ⟨e, he, rfl⟩ := List.mem_map.mp (List.mem_reverse.mp (hdone.subset ha))
  obtain ⟨e', he', rfl⟩ := List.mem_map.mp (List.mem_reverse.mp hb)
  have hnil : [] ∉ paths := fun hmem => (hpaths [] hmem).1 rfl
  have hnodup : ((Column.takenAll paths f.columns).map (Frame.entryOf t)).Nodup := by
    refine List.Nodup.of_map Removed.path ?_
    have hlisted := (Frame.nodup_paths hf).filter fun p => decide (Outermost paths p.segments)
    rw [← Frame.map_path_takenAll f hnil] at hlisted
    rw [List.map_map]
    exact hlisted
  rcases prefix_or_prefix_concat_iff.mp hax with ⟨rest, hnames⟩ | hwhole
  · rcases prefix_or_prefix_concat_iff.mp hby with ⟨rest', hnames'⟩ | habove
    · have hbefore := Column.before_takenAll hf he he' hnames hnames' hinner hxy
      exact ⟨_, mem_of_prefix_reverse hnodup hdone ha (hbefore.map (Frame.entryOf t)), hby⟩
    · -- the path of the one would lead into the column of the other
      have hstarts : e.2.1.startsWith e'.2.1 :=
        List.isPrefixOf_iff_prefix.mpr (habove.trans ⟨x :: rest, hnames.symm⟩)
      have hpath := Frame.eq_of_mem_takenAll hpaths he he' hstarts
      have hlength : e'.2.1.segments.length ≤ above.length := habove.length_le
      have hnames' : e.2.1.segments = above ++ x :: rest := hnames
      rw [← hpath, hnames', List.length_append, List.length_cons] at hlength
      omega
  · exact ⟨_, ha, Or.inr (hwhole.trans (List.prefix_append above [y]))⟩

namespace Frame

variable {f g : Frame} {paths : List (List String)} {t : Layout} {back out : List Taken}

theorem Follows.refl (f : Frame) : f.Follows f := by
  intro names inner inner' hinner hinner'
  rw [Option.some.inj (hinner.symm.trans hinner')]

/-- What a removal leaves is in the order of the frame. -/
theorem follows_pruned (hf : f.WellFormed) (paths : List (List String)) :
    (f.pruned paths).Follows f := by
  intro names inner left hinner hleft
  obtain ⟨whole, hwhole, rfl⟩ := groupAt?_of_pruned hf hleft
  obtain rfl := Option.some.inj (hinner.symm.trans hwhole)
  exact names_pruned_sublist _ _

/-- **The same columns in the order of a frame** are the frame. -/
theorem Follows.eq (h : g.Follows f) (hf : f.WellFormed) (hsame : f.Rearranged g) : g = f := by
  refine (hsame.eq_of_names hf fun names inner inner' hinner hinner' => ?_).symm
  refine eq_of_sublist_of_mem_iff (hf.groupAt hinner).nodup_names (List.Sublist.refl _)
    (h names inner inner' hinner hinner') fun x => ?_
  have hx : f.find? (names ++ [x]) = none ↔ g.find? (names ++ [x]) = none := hsame.find?_eq_none_iff
  rw [find?_concat hinner, find?_concat hinner', column?_eq_none_iff, column?_eq_none_iff] at hx
  exact not_iff_not.mp hx

/-- **Entries can be put back one by one**, in any order, and columns are in the order that they had if
and only if they come back in turn; by induction on the entries that are back. -/
theorem exists_putBack_of_restoring (h : Restoring f paths t back out) :
    ∃ g, (back.map (entryOf t)).foldlM (fun g r => merge (some g) [r.request] (some t))
        (f.pruned paths) = .ok g ∧
      Regaining f paths t back out g ∧
        (g.Follows f ↔ InTurn f (f.pruned paths) (back.map (entryOf t))) := by
  induction back using List.reverseRecOn generalizing out with
  | nil =>
    refine ⟨_, rfl, .start h, iff_of_true (follows_pruned h.wellFormed paths) ?_⟩
    rintro _ _ _ _ _ _ _ _ ⟨r, hr, -⟩
    exact absurd hr List.not_mem_nil
  | append_singleton back e ih =>
    have hstay : Restoring f paths t back (e :: out) :=
      ⟨h.wellFormed, h.resolves, h.children, List.append_cons back e out ▸ h.perm⟩
    obtain ⟨g, hg, hback, horder⟩ := ih hstay
    obtain ⟨g', hg', hnext⟩ := hback.exists_merge
    refine ⟨g', ?_, hnext, ?_⟩
    · rw [List.map_append, List.map_singleton, List.foldlM_append, hg]
      simp [bind, Except.bind, hg', pure, Except.pure]
    · rw [List.map_append, List.map_singleton, inTurn_concat_iff, hback.follows_iff_of_merge hg',
        horder]

/-- **Putting columns back one by one.** What a removal has taken out can be put back in any order, each
column by a merge of its own with its node and the layout of the removal: every merge succeeds, and in
the end every column is there again. They are where they were if and only if they have come back in turn,
as they do from the last entry to the first. -/
theorem putBack_removed {paths : List Path} (hf : f.WellFormed)
    (hpaths : ∀ path ∈ paths, ∃ c, f.get path = .ok c) :
    ∃ removal, f.remove paths = .ok removal ∧
      (∀ back : List Removed, back.Perm removal.removed →
        ∃ g, removal.putBack back = .ok g ∧ f.Rearranged g ∧
          (g = f ↔ InTurn f removal.frame back)) ∧
      removal.putBack removal.removed.reverse = .ok f := by
  have hresolves := resolves_map_segments hpaths
  have hback (back : List Removed) (hperm : back.Perm
      ((Column.takenAll (paths.map Path.segments) f.columns).map
        (entryOf (f.marked (paths.map Path.segments))))) :
      ∃ g, back.foldlM (fun g r => merge (some g) [r.request]
          (some (f.marked (paths.map Path.segments)))) (f.pruned (paths.map Path.segments)) = .ok g ∧
        f.Rearranged g ∧ (g = f ↔ InTurn f (f.pruned (paths.map Path.segments)) back) := by
    rw [← List.append_nil back] at hperm
    obtain ⟨back', out', rfl, hout, hperm'⟩ := exists_map_eq_of_perm hperm
    obtain rfl := List.map_eq_nil_iff.mp hout.symm
    have hrestoring : Restoring f (paths.map Path.segments) (f.marked (paths.map Path.segments))
        back' [] := ⟨hf, hresolves, rfl, hperm'⟩
    obtain ⟨g, hg, hback, horder⟩ := exists_putBack_of_restoring hrestoring
    have hsame := hback.rearranged
    rw [List.map_nil, pruned_nil] at hsame
    refine ⟨g, hg, hsame, Iff.trans ⟨?_, fun hfollows => hfollows.eq hf hsame⟩ horder⟩
    rintro rfl
    exact Follows.refl g
  refine ⟨_, (remove_eq_ok_iff hf).mpr ⟨hpaths, rfl⟩, hback, ?_⟩
  obtain ⟨g, hg, -, hiff⟩ := hback _ (List.reverse_perm _)
  obtain rfl := hiff.mpr (inTurn_reverse hf hresolves _ _)
  exact hg

/-- Columns of a group that keeps one of them, a group that goes with all of its columns, and a column
beside them. -/
theorem putBack_removed_nested :
    let f : Frame :=
      ⟨[.group "g" ⟨[.ofTexts "x" [some "1"], .ofTexts "y" [none], .ofTexts "z" [some "2"]], 1⟩,
        .ofTexts "a" [some "3"], .group "h" ⟨[.ofTexts "u" [none], .ofTexts "v" [some "4"]], 1⟩], 1⟩
    let paths : List Path :=
      [.single "a", .below ["h"] "v", .below ["g"] "x", .below ["h"] "u", .below ["g"] "y"]
    (f.WellFormed ∧ ∀ path ∈ paths, ∃ c, f.get path = .ok c) ∧
      ∃ removal, f.remove paths = .ok removal ∧
        (∀ back : List Removed, back.Perm removal.removed →
          ∃ g, removal.putBack back = .ok g ∧ f.Rearranged g ∧
            (g = f ↔ InTurn f removal.frame back)) ∧
        removal.putBack removal.removed.reverse = .ok f := by
  intro f paths
  have hf : f.WellFormed := by
    simp [f, Frame.WellFormed, columnsWellFormed, Column.WellFormed, Column.ofTexts,
      Column.ofValues, cellsWellFormed, Value.ofText, Value.WellFormed, Column.name, Column.length]
  have hpaths : ∀ path ∈ paths, ∃ c, f.get path = .ok c := by
    simp only [paths, List.forall_mem_cons]
    exact ⟨⟨_, rfl⟩, ⟨_, rfl⟩, ⟨_, rfl⟩, ⟨_, rfl⟩, ⟨_, rfl⟩, by simp⟩
  exact ⟨⟨hf, hpaths⟩, putBack_removed hf hpaths⟩

/-- Out of turn, the second of two columns comes to stand before the first: the layout has both of them
as removed, whether the first is back or not. -/
example :
    let f : Frame := ⟨[.ofTexts "a" [some "1"], .ofTexts "b" [some "2"], .ofTexts "c" [some "3"]], 1⟩
    (f.remove [.single "a", .single "b"] >>= fun removal => removal.putBack removal.removed) =
      .ok ⟨[.ofTexts "b" [some "2"], .ofTexts "a" [some "1"], .ofTexts "c" [some "3"]], 1⟩ := by
  cbv

end Frame

end Colonnade
