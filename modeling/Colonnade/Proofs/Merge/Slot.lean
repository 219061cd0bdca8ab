import Colonnade.Proofs.Merge.Rearranged
import Colonnade.Proofs.Removal.Opening

/-!
# The slot of a single column

A level that is to take in one new column puts it behind as many columns as the layout has left before
its anchor, `Frame.placedNames_of_single`. Whether it belongs there is a matter of what there is: the
layout knows which columns it has left, but the level may have got back some of the others.

`sublist_insertIdx_iff` is what comes of it: **the new name stands in the order of the layout if and
only if nothing that comes before it is there but what was left**.
-/

namespace Colonnade

/-! ### Lists in the order of another -/

section Order

variable {order names kept : List String} {x y : String} {i : Nat}

theorem eq_take_append_of_getElem? (hi : order[i]? = some y) :
    order = order.take i ++ y :: order.drop (i + 1) := by
  obtain ⟨hlt, rfl⟩ := List.getElem?_eq_some_iff.mp hi
  rw [List.getElem_cons_drop, List.take_append_drop]

/-- What comes before a member does not come after it. -/
theorem not_before_of_before (horder : order.Nodup) (h : Before order x y) : ¬Before order y x := by
  intro hback
  obtain rfl :=
    Frame.eq_of_noLater h.mem_left h.mem_right (h.noLater horder) (hback.noLater horder)
  exact (List.nodup_cons.mp (horder.sublist h)).1 (List.mem_singleton_self x)

/-- The members before one are those that a list has up to its place. -/
theorem before_iff_mem_take (horder : order.Nodup) (hi : order[i]? = some y) :
    Before order x y ↔ x ∈ order.take i := by
  have heq := eq_take_append_of_getElem? hi
  have hmem : y ∈ y :: order.drop (i + 1) := List.mem_cons_self
  constructor
  · intro h
    by_contra hx
    have hback : x ∈ y :: order.drop (i + 1) :=
      (List.mem_append.mp (heq ▸ h.mem_left)).resolve_left hx
    rcases List.mem_cons.mp hback with rfl | hback
    · exact not_before_of_before horder h h
    · refine not_before_of_before horder h (heq ▸ ?_)
      refine before_append_iff.mpr (Or.inr (Or.inr ?_))
      exact (List.singleton_sublist.mpr hback).cons_cons y
  · intro hx
    rw [heq]
    exact before_append_iff.mpr (Or.inr (Or.inl ⟨hx, hmem⟩))

/-- **Behind what was left, a name stands in the order of a list** if and only if nothing that comes
before it in the list is there but what was left. -/
theorem sublist_insertIdx_iff (horder : order.Nodup) (hi : order[i]? = some y)
    (hnames : names.Sublist order) (hy : y ∉ names) (hkept : kept.Sublist (order.take i))
    (hsub : ∀ x ∈ kept, x ∈ names) :
    (names.insertIdx kept.length y).Sublist order ↔
      ∀ x, Before order x y → x ∈ names → x ∈ kept := by
  have heq := eq_take_append_of_getElem? hi
  obtain ⟨-, -, hdisjoint⟩ := List.nodup_append.mp (heq ▸ horder)
  -- the names before the place and those behind it
  obtain ⟨first, last, rfl, hfirst, hlast⟩ := List.sublist_append_iff.mp (heq ▸ hnames)
  have hlast' : last.Sublist (order.drop (i + 1)) := by
    cases hlast with
    | cons _ h => exact h
    | cons_cons _ h => exact absurd (List.mem_append_right first List.mem_cons_self) hy
  have hsub' : kept ⊆ first := fun x hx => (List.mem_append.mp (hsub x hx)).resolve_right
    fun hmem => hdisjoint x (hkept.subset hx) x (List.mem_cons_of_mem y (hlast'.subset hmem)) rfl
  have hnodup : (order.take i).Nodup := horder.sublist (List.take_sublist i order)
  have hmem (x : String) (hx : Before order x y) (hthere : x ∈ first ++ last) : x ∈ first := by
    refine (List.mem_append.mp hthere).resolve_right fun hmem => ?_
    exact hdisjoint x ((before_iff_mem_take horder hi).mp hx) x
      (List.mem_cons_of_mem y (hlast'.subset hmem)) rfl
  constructor
  · intro h x hx hthere
    by_contra hnot
    -- some of the names before the place would stand behind the new one
    have hsubperm : kept.Subperm first := (hnodup.sublist hkept).subperm hsub'
    have hlt : kept.length < first.length := by
      by_contra hle
      exact hnot ((hsubperm.perm_of_length_le (not_lt.mp hle)).mem_iff.mpr (hmem x hx hthere))
    obtain ⟨z, hz⟩ : ∃ z, z ∈ first.drop kept.length :=
      List.exists_mem_of_ne_nil _ (by simpa using hlt)
    have hinsert : (first ++ last).insertIdx kept.length y =
        first.take kept.length ++ [y] ++ (first.drop kept.length ++ last) := by
      rw [← Walk.insertIdx_length_append, List.length_take_of_le hlt.le, ← List.append_assoc,
        List.take_append_drop]
    rw [hinsert, List.append_assoc] at h
    have hafter : Before ([y] ++ (first.drop kept.length ++ last)) y z :=
      before_append_iff.mpr (Or.inr (Or.inl
        ⟨List.mem_singleton_self y, List.mem_append_left last hz⟩))
    refine not_before_of_before horder ?_
      (hafter.sublist ((List.sublist_append_right _ _).trans h))
    exact (before_iff_mem_take horder hi).mpr (hfirst.subset (List.mem_of_mem_drop hz))
  · intro h
    have hsame : kept = first := eq_of_sublist_of_mem_iff hnodup hkept hfirst fun x =>
      ⟨fun hx => hsub' hx, fun hx => h x ((before_iff_mem_take horder hi).mpr (hfirst.subset hx))
        (List.mem_append_left last hx)⟩
    rw [hsame, Walk.insertIdx_length_append, List.append_assoc, heq]
    exact hfirst.append (hlast'.cons_cons y)

end Order

/-! ### The walk to a single column -/

/-- **A walk is off by the removed children that it has passed.** -/
theorem Walk.shift_pass (anchor : Nat) (children : List Layout) (s : Nat) (shift : Int) :
    (Walk.pass anchor (children.zipIdx s) shift).shift =
      shift - (children.take (anchor - s)).countP Layout.isRemoved := by
  induction children generalizing s shift with
  | nil => simp [pass]
  | cons child children ih =>
    rw [List.zipIdx_cons, pass]
    by_cases hle : anchor ≤ s
    · simp [hle, Nat.sub_eq_zero_of_le hle]
    · have hstep : anchor - s = anchor - (s + 1) + 1 := by omega
      rw [if_neg hle, ih, hstep, List.take_succ_cons, List.countP_cons]
      split <;> simp [*]
      omega

/-- So what it has reached is behind the others that it has passed. -/
theorem Walk.position_start {t : Layout} {i : Nat} (hi : i ≤ t.children.length) (length : Nat) :
    ((Walk.start (some t)).upTo i).position i length =
      min ((t.children.take i).countP fun child => !child.isRemoved) length := by
  have hshift := shift_pass i t.children 0 0
  have hcount : i = (t.children.take i).countP Layout.isRemoved +
      (t.children.take i).countP fun child => !child.isRemoved := by
    conv_lhs => rw [← List.length_take_of_le hi, List.length_eq_countP_add_countP Layout.isRemoved]
    exact congrArg _ (List.countP_congr fun child _ => by simp)
  have htarget : ((Walk.start (some t)).upTo i).target i =
      ((t.children.take i).countP fun child => !child.isRemoved : Nat) := by
    change (i : Int) + (Walk.pass i t.children.zipIdx 0).shift = _
    rw [hshift, Nat.sub_zero]
    omega
  simp only [position, htarget]
  omega

namespace Frame

variable {t : Layout} {pending : List Pending} {names : List String} {y : String} {i : Nat}

/-- **A single new name goes behind the names that the layout has left before its anchor.** -/
theorem placedNames_of_single (hnew : newNames names pending = [y])
    (hanchor : (Part.named pending y).anchor? (some t) = some i) (hi : i ≤ t.children.length) :
    placedNames (some t) pending names =
      names.insertIdx (min ((t.children.take i).countP fun child => !child.isRemoved) names.length)
        y := by
  have hsingle : anchoredNames (some t) pending names = [(some i, y)] := by
    rw [anchoredNames, hnew, List.map_singleton, hanchor, List.mergeSort_singleton]
  rw [placedNames, hsingle, Walk.place, Walk.place, Walk.position_start hi]

/-- What is left of a frame up to a position. -/
theorem mem_names_pruned_take {f : Frame} {inside : List (List String)} (hf : f.names.Nodup)
    (hi : f.names[i]? = some y) {x : String} :
    x ∈ ((f.columns.take i).filter fun c => (c.prune? inside).isSome).map Column.name ↔
      Before f.names x y ∧ x ∈ (f.pruned inside).names := by
  rw [before_iff_mem_take hf hi, names_pruned, names, ← List.map_take]
  constructor
  · intro hx
    obtain ⟨c, hc, rfl⟩ := List.mem_map.mp hx
    obtain ⟨htake, hkept⟩ := List.mem_filter.mp hc
    exact ⟨List.mem_map_of_mem htake,
      List.mem_map_of_mem (List.mem_filter.mpr ⟨List.mem_of_mem_take htake, hkept⟩)⟩
  · rintro ⟨htake, hx⟩
    obtain ⟨c, hc, rfl⟩ := List.mem_map.mp htake
    obtain ⟨d, hd, hname⟩ := List.mem_map.mp hx
    obtain ⟨hmem, hkept⟩ := List.mem_filter.mp hd
    obtain rfl : d = c := List.inj_on_of_nodup_map hf hmem (List.mem_of_mem_take hc) hname
    exact List.mem_map_of_mem (List.mem_filter.mpr ⟨hc, hkept⟩)

/-- **A single new name takes its place in the order of a frame** if and only if nothing that comes
before it there is back but what the layout has left. -/
theorem sublist_placedNames_iff {f : Frame} {inside : List (List String)} (hf : f.names.Nodup)
    (ht : t.children = f.columns.map (Column.marked inside)) (hi : f.names[i]? = some y)
    (hnew : newNames names pending = [y])
    (hanchor : (Part.named pending y).anchor? (some t) = some i) (hnames : names.Sublist f.names)
    (hleft : ∀ x ∈ (f.pruned inside).names, x ∈ names) :
    (placedNames (some t) pending names).Sublist f.names ↔
      ∀ x, Before f.names x y → x ∈ names → x ∈ (f.pruned inside).names := by
  let kept := ((f.columns.take i).filter fun c => (c.prune? inside).isSome).map Column.name
  have hmem (x : String) : x ∈ kept ↔ Before f.names x y ∧ x ∈ (f.pruned inside).names :=
    mem_names_pruned_take hf hi
  have hkept : kept.Sublist (f.names.take i) := by
    rw [Frame.names, ← List.map_take]
    exact List.filter_sublist.map _
  have hsub : ∀ x ∈ kept, x ∈ names := fun x hx => hleft x ((hmem x).mp hx).2
  have hcount : ((t.children.take i).countP fun child => !child.isRemoved) = kept.length := by
    rw [ht, ← List.map_take, List.countP_map, List.length_map, ← List.countP_eq_length_filter]
    refine List.countP_congr fun c _ => ?_
    simp [Column.isRemoved_marked]
  have hlength : kept.length ≤ names.length :=
    ((hf.sublist (hkept.trans (List.take_sublist i _))).subperm hsub).length_le
  have hbound : i ≤ t.children.length := by
    have hlt := (List.getElem?_eq_some_iff.mp hi).1
    rw [Frame.names, List.length_map] at hlt
    rw [ht, List.length_map]
    exact hlt.le
  have hy : y ∉ names := (mem_newNames.mp (hnew ▸ List.mem_singleton_self y)).2
  rw [placedNames_of_single hnew hanchor hbound, hcount, Nat.min_eq_left hlength,
    sublist_insertIdx_iff hf hi hnames hy hkept hsub]
  simp only [hmem]
  exact forall₂_congr fun x hx => by simp [hx]

end Frame

end Colonnade
