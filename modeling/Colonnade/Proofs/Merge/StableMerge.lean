import Colonnade.Proofs.Frame.Addresses
import Colonnade.Proofs.Merge.Level

/-!
# The order of a level

Where the names of a level go is a matter of a walk along a layout (`Frame.placedNames`). Where the
layout is the one of the names that are there – some of its children having been removed – the
outcome is a *stable merge*: what is there keeps its order, what is new keeps the order of anchors
and, among equal ones, its own, and each new name stands exactly where its anchor says.

* `StableMerge` – what that means, without any positions in the result;
* `stableMerge_placedNames` – **a level is a stable merge**;
* `placedNames_eq_of_order` – names that come back to where they were restore the order.
-/

namespace Colonnade

/-! ### Members in order -/

section Before

variable {α β : Type} {l m : List α} {a b : α}

/-- One member of a list comes before another. -/
def Before (l : List α) (a b : α) : Prop :=
  [a, b].Sublist l

theorem Before.sublist (h : Before l a b) (hlm : l.Sublist m) : Before m a b :=
  List.Sublist.trans h hlm

theorem Before.map (h : Before l a b) (f : α → β) : Before (l.map f) (f a) (f b) :=
  List.Sublist.map f h

theorem Before.mem_left (h : Before l a b) : a ∈ l :=
  h.subset List.mem_cons_self

theorem Before.mem_right (h : Before l a b) : b ∈ l :=
  h.subset (List.mem_cons_of_mem _ List.mem_cons_self)

/-- Of two members one comes first. -/
theorem before_or_before (ha : a ∈ l) (hb : b ∈ l) (hne : a ≠ b) : Before l a b ∨ Before l b a := by
  induction l with
  | nil => exact absurd ha List.not_mem_nil
  | cons c l ih =>
    rcases List.mem_cons.mp ha with rfl | hal
    · have hbl : b ∈ l := (List.mem_cons.mp hb).resolve_left hne.symm
      exact Or.inl ((List.singleton_sublist.mpr hbl).cons_cons a)
    · rcases List.mem_cons.mp hb with rfl | hbl
      · exact Or.inr ((List.singleton_sublist.mpr hal).cons_cons b)
      · exact (ih hal hbl).imp (fun h => h.cons c) fun h => h.cons c

/-- In a sorted list a member comes before another that may not come before it. -/
theorem before_of_pairwise {R : α → α → Prop} (hl : l.Pairwise R) (ha : a ∈ l) (hb : b ∈ l)
    (hne : a ≠ b) (h : ¬R b a) : Before l a b := by
  refine (before_or_before ha hb hne).resolve_right fun hba => h ?_
  exact List.pairwise_iff_forall_sublist.mp hl hba

/-- A merge has its first list in order. -/
theorem left_sublist_merge (le : α → α → Bool) (l r : List α) : l.Sublist (l.merge r le) := by
  induction l generalizing r with
  | nil => exact List.nil_sublist _
  | cons a l ihl =>
    induction r with
    | nil => simp
    | cons b r ihr =>
      rw [List.cons_merge_cons]
      split
      · exact (ihl (b :: r)).cons_cons a
      · exact ihr.cons b

/-- And its second. -/
theorem right_sublist_merge (le : α → α → Bool) (l r : List α) : r.Sublist (l.merge r le) := by
  induction l generalizing r with
  | nil => simp
  | cons a l ihl =>
    induction r with
    | nil => exact List.nil_sublist _
    | cons b r ihr =>
      rw [List.cons_merge_cons]
      split
      · exact (ihl (b :: r)).cons a
      · exact ihr.cons_cons b

end Before

/-! ### Anchors -/

namespace Part

/-- **The anchor of a part is the least of its requests.** -/
theorem anchor?_eq_min? (layout : Option Layout) (part : Part) :
    part.anchor? layout = (part.members.filterMap (Pending.anchor? layout)).min? := by
  rw [anchor?]
  induction part.members with
  | nil => rfl
  | cons p ps ih =>
    rw [List.map_cons, List.foldr_cons, ih]
    cases hp : p.anchor? layout with
    | none => simp [hp, smaller]
    | some k =>
      rw [List.filterMap_cons_some hp, List.min?_cons]
      cases (ps.filterMap (Pending.anchor? layout)).min? <;> rfl

/-- Where all requests have one anchor, it is the anchor of the part. -/
theorem anchor?_eq_some {layout : Option Layout} {part : Part} {k : Nat} (hne : part.members ≠ [])
    (h : ∀ p ∈ part.members, p.anchor? layout = some k) : part.anchor? layout = some k := by
  rw [anchor?_eq_min?, List.min?_eq_some_iff]
  constructor
  · obtain ⟨p, hp⟩ := List.exists_mem_of_ne_nil _ hne
    exact List.mem_filterMap.mpr ⟨p, hp, h p hp⟩
  · intro j hj
    obtain ⟨p, hp, hpj⟩ := List.mem_filterMap.mp hj
    exact Nat.le_of_eq (Option.some.inj ((h p hp).symm.trans hpj))

theorem anchor?_none (part : Part) : part.anchor? none = none := by
  have hnone (p : Pending) : p.anchor? none = none := rfl
  rw [anchor?_eq_min?, List.filterMap_eq_nil_iff.mpr fun p _ => hnone p]
  rfl

end Part

/-- An anchor is at a child or behind the last. -/
theorem Pending.anchor?_le {t : Layout} {p : Pending} {k : Nat}
    (h : p.anchor? (some t) = some k) : k ≤ t.children.length := by
  rcases hp : p.place with _ | (_ | ⟨i, rest⟩)
  · simp [Pending.anchor?, hp] at h
  · simp [Pending.anchor?, hp] at h
  · simp only [Pending.anchor?, hp, Option.map_eq_some_iff] at h
    obtain ⟨child, hchild, hk⟩ := h
    have hi : i < t.children.length := (List.getElem?_eq_some_iff.mp hchild).1
    by_cases hgone : child.isRemoved
    · rw [if_pos hgone] at hk
      omega
    · rw [if_neg hgone] at hk
      omega

theorem Part.anchor?_le {t : Layout} {part : Part} {k : Nat}
    (h : part.anchor? (some t) = some k) : k ≤ t.children.length := by
  rw [Part.anchor?_eq_min?] at h
  obtain ⟨p, -, hp⟩ := List.mem_filterMap.mp (List.min?_mem h)
  exact Pending.anchor?_le hp

/-! ### The layout of the names that are there -/

namespace Layout

/-- The children that have not been removed, by position and name. -/
def keptNames (t : Layout) : List (Nat × String) :=
  (t.children.zipIdx.filter fun e => !e.1.isRemoved).map fun e => (e.2, e.1.name)

theorem map_fst_keptNames (t : Layout) :
    t.keptNames.map Prod.fst = Walk.kept t.children.zipIdx := by
  rw [keptNames, Walk.kept, List.map_map]
  rfl

theorem map_snd_keptNames (t : Layout) :
    t.keptNames.map Prod.snd =
      (t.children.filter fun child => !child.isRemoved).map Layout.name := by
  have hfilter : (t.children.zipIdx.filter fun e => !e.1.isRemoved).map Prod.fst =
      t.children.filter fun child => !child.isRemoved := by
    conv_rhs => rw [← List.zipIdx_map_fst 0 t.children]
    rw [List.filter_map]
    rfl
  rw [← hfilter, keptNames, List.map_map, List.map_map]
  rfl

/-- Their positions ascend. -/
theorem pairwise_keptNames (t : Layout) : t.keptNames.Pairwise fun a b => a.1 < b.1 := by
  have hpositions : (t.children.zipIdx.map Prod.snd).Pairwise (· < ·) := by
    rw [List.zipIdx_map_snd]
    exact List.pairwise_lt_range'
  rw [keptNames, List.pairwise_map]
  exact (List.pairwise_map.mp hpositions).filter _

/-- A child stands at its position. -/
theorem exists_child_of_mem_keptNames {t : Layout} {e : Nat × String} (he : e ∈ t.keptNames) :
    ∃ child, t.children[e.1]? = some child ∧ child.isRemoved = false ∧ child.name = e.2 := by
  obtain ⟨⟨child, i⟩, hmem, rfl⟩ := List.mem_map.mp he
  obtain ⟨hzip, hkept⟩ := List.mem_filter.mp hmem
  exact ⟨child, List.mem_zipIdx_iff_getElem?.mp hzip, by simpa using hkept, rfl⟩

/-- The name of a child leads to its position. -/
theorem Keeps.childIndex?_of_mem {t : Layout} {names : List String} (h : t.Keeps names)
    {e : Nat × String} (he : e ∈ t.keptNames) : t.childIndex? e.2 = some e.1 := by
  obtain ⟨child, hget, -, hname⟩ := exists_child_of_mem_keptNames he
  exact hname ▸ childIndex?_of_getElem? h.nodup hget

theorem Keeps.exists_mem_keptNames {t : Layout} {names : List String} (h : t.Keeps names)
    {name : String} (hname : name ∈ names) : ∃ i, (i, name) ∈ t.keptNames := by
  rw [← h.kept, ← map_snd_keptNames] at hname
  obtain ⟨⟨i, x⟩, he, rfl⟩ := List.mem_map.mp hname
  exact ⟨i, he⟩

end Layout

/-! ### A level by ranks -/

/-- **A stable merge** of new names into old ones, of which the positions are known. -/
structure StableMerge (position anchor : String → Option Nat) (old new merged : List String) :
    Prop where
  /-- Nothing is lost and nothing comes twice. -/
  perm : merged.Perm (old ++ new)
  /-- What is there keeps its order. -/
  old_order : old.Sublist merged
  /-- What has an anchor stands after exactly those whose position is less than the anchor. -/
  anchored : ∀ x ∈ new, ∀ k, anchor x = some k → ∀ y ∈ old, ∃ i, position y = some i ∧
    if i < k then Before merged y x else Before merged x y
  /-- What has none stands after all that is there. -/
  unanchored : ∀ x ∈ new, anchor x = none → ∀ y ∈ old, Before merged y x
  /-- What is new is in the order of anchors, and what has none comes last; among equal anchors it
  keeps its order. -/
  new_order : ∀ x y, Before new x y →
    if Part.anchorLe (anchor x) (anchor y) then Before merged x y else Before merged y x

namespace Frame

variable {t : Layout} {names : List String} {pending : List Pending}

/-- The names of a level with their ranks, merged. -/
def rankedNames (t : Layout) (pending : List Pending) (names : List String) :
    List (Option Nat × String) :=
  (t.keptNames.map Walk.oldRank).merge
    ((anchoredNames (some t) pending names).map Walk.newRank) Walk.rankLe

theorem pairwise_anchoredNames (layout : Option Layout) (pending : List Pending)
    (names : List String) :
    (anchoredNames layout pending names).Pairwise fun a b => Part.anchorLe a.1 b.1 :=
  List.pairwise_mergeSort (fun a b c => Walk.anchorLe_trans a.1 b.1 c.1)
    (fun a b => Walk.anchorLe_total a.1 b.1) _

/-- Ranks of new names are in the order of anchors. -/
theorem anchorLe_double (a b : Option Nat) :
    Part.anchorLe (a.map (2 * ·)) (b.map (2 * ·)) = Part.anchorLe a b := by
  cases a with
  | none => cases b <;> rfl
  | some i =>
    cases b with
    | none => rfl
    | some j =>
      simp only [Option.map_some, Walk.anchorLe_some_some, decide_eq_decide]
      omega

theorem mem_anchoredNames {layout : Option Layout} {e : Option Nat × String} :
    e ∈ anchoredNames layout pending names ↔
      e.2 ∈ newNames names pending ∧ e.1 = (Part.named pending e.2).anchor? layout := by
  rw [anchoredNames, List.mem_mergeSort, List.mem_map]
  constructor
  · rintro ⟨x, hx, rfl⟩
    exact ⟨hx, rfl⟩
  · rintro ⟨hx, he⟩
    exact ⟨e.2, hx, Prod.ext he.symm rfl⟩

/-- **The walk merges by rank**, and never leaves the places there are. -/
theorem placedNames_eq_rankedNames (h : t.Keeps names) :
    placedNames (some t) pending names = (rankedNames t pending names).map Prod.snd ∧
      (Walk.start (some t)).InRange names.length
        ((anchoredNames (some t) pending names).map Prod.fst) := by
  have hsorted : ((anchoredNames (some t) pending names).map Prod.fst).Pairwise
      fun a b => Part.anchorLe a b :=
    List.pairwise_map.mpr (pairwise_anchoredNames (some t) pending names)
  have hbound : ∀ e ∈ anchoredNames (some t) pending names, ∀ k, e.1 = some k →
      k ≤ t.children.length := fun e he k hk =>
    Part.anchor?_le ((mem_anchoredNames.mp he).2.symm.trans hk)
  have hnames : t.keptNames.map Prod.snd = names := (t.map_snd_keptNames).trans h.kept
  have hplace := Walk.place_start_eq_merge t.map_fst_keptNames hsorted hbound
  rw [hnames] at hplace
  have hlength : t.keptNames.length = names.length := by rw [← hnames, List.length_map]
  exact ⟨hplace.1, hlength ▸ hplace.2⟩

theorem pairwise_rankedNames (t : Layout) (pending : List Pending) (names : List String) :
    (rankedNames t pending names).Pairwise fun a b => Walk.rankLe a b := by
  refine List.pairwise_merge (fun a b c => Walk.anchorLe_trans a.1 b.1 c.1)
    (fun a b => Walk.anchorLe_total a.1 b.1) _ _ ?_ ?_
  · refine List.pairwise_map.mpr (t.pairwise_keptNames.imp fun {a b} hab => ?_)
    simp only [Walk.rankLe, Walk.oldRank, Walk.anchorLe_some_some, decide_eq_true_eq]
    omega
  · refine List.pairwise_map.mpr ((pairwise_anchoredNames _ _ _).imp fun {a b} hab => ?_)
    exact (anchorLe_double a.1 b.1).trans hab

theorem mem_rankedNames_of_kept {e : Nat × String} (he : e ∈ t.keptNames) :
    (some (2 * e.1 + 1), e.2) ∈ rankedNames t pending names :=
  List.mem_merge.mpr (Or.inl (List.mem_map_of_mem he))

theorem mem_rankedNames_of_new {x : String} (hx : x ∈ newNames names pending) :
    (((Part.named pending x).anchor? (some t)).map (2 * ·), x) ∈ rankedNames t pending names :=
  List.mem_merge.mpr (Or.inr (List.mem_map_of_mem (f := Walk.newRank)
    (mem_anchoredNames (e := (_, x)).mpr ⟨hx, rfl⟩)))

/-- What ranks lower comes first. -/
theorem before_of_rank (h : t.Keeps names) {a b : Option Nat} {x y : String}
    (ha : (a, x) ∈ rankedNames t pending names) (hb : (b, y) ∈ rankedNames t pending names)
    (hba : ¬Part.anchorLe b a) : Before (placedNames (some t) pending names) x y := by
  rw [(placedNames_eq_rankedNames h).1]
  have hne : (a, x) ≠ (b, y) := by
    rintro heq
    obtain rfl : a = b := congrArg Prod.fst heq
    exact hba (by simpa using Walk.anchorLe_total a a)
  exact (before_of_pairwise (pairwise_rankedNames t pending names) ha hb hne hba).map Prod.snd

/-- New names are in the order of their anchors. -/
theorem before_of_new (h : t.Keeps names) {x y : String}
    (hxy : Before (newNames names pending) x y)
    (hle : Part.anchorLe ((Part.named pending x).anchor? (some t))
      ((Part.named pending y).anchor? (some t))) :
    Before (placedNames (some t) pending names) x y := by
  have hsort : Before (anchoredNames (some t) pending names)
      ((Part.named pending x).anchor? (some t), x) ((Part.named pending y).anchor? (some t), y) :=
    List.pair_sublist_mergeSort (fun a b c => Walk.anchorLe_trans a.1 b.1 c.1)
      (fun a b => Walk.anchorLe_total a.1 b.1) hle
      (hxy.map fun z => ((Part.named pending z).anchor? (some t), z))
  have hranked : Before (rankedNames t pending names) _ _ :=
    (hsort.map Walk.newRank).sublist (right_sublist_merge _ _ _)
  rw [(placedNames_eq_rankedNames h).1]
  exact hranked.map Prod.snd

/-- **A level is a stable merge**, if the layout is that of the names that are there. -/
theorem stableMerge_placedNames (h : t.Keeps names) :
    StableMerge t.childIndex? (fun x => (Part.named pending x).anchor? (some t)) names
      (newNames names pending) (placedNames (some t) pending names) := by
  refine ⟨placedNames_perm names, ?_, ?_, ?_, ?_⟩
  · rw [(placedNames_eq_rankedNames h).1]
    have hsub : (t.keptNames.map Walk.oldRank).Sublist (rankedNames t pending names) :=
      left_sublist_merge _ _ _
    have hnames : (t.keptNames.map Walk.oldRank).map Prod.snd = names := by
      rw [List.map_map]
      exact (t.map_snd_keptNames).trans h.kept
    exact hnames ▸ hsub.map Prod.snd
  · intro x hx k hk y hy
    obtain ⟨i, hi⟩ := h.exists_mem_keptNames hy
    refine ⟨i, h.childIndex?_of_mem hi, ?_⟩
    have hxr := mem_rankedNames_of_new (t := t) hx
    rw [hk, Option.map_some] at hxr
    -- the ranks are `2 * k` and `2 * i + 1`: the first is less if `k ≤ i`, the second if `i < k`
    have hyr : (some (2 * i + 1), y) ∈ rankedNames t pending names := mem_rankedNames_of_kept hi
    split
    · exact before_of_rank h hyr hxr (by simp; omega)
    · exact before_of_rank h hxr hyr (by simp; omega)
  · intro x hx hnone y hy
    obtain ⟨i, hi⟩ := h.exists_mem_keptNames hy
    have hxr := mem_rankedNames_of_new (t := t) hx
    rw [hnone, Option.map_none] at hxr
    exact before_of_rank h (mem_rankedNames_of_kept hi) hxr (by simp)
  · intro x y hxy
    split
    next hle => exact before_of_new h hxy hle
    next hle =>
      refine before_of_rank h (mem_rankedNames_of_new hxy.mem_right)
        (mem_rankedNames_of_new hxy.mem_left) fun hdouble => hle ?_
      exact (anchorLe_double _ _).symm.trans hdouble

/-- **Names without anchors come last**, as they come. -/
theorem placedNames_of_unanchored {layout : Option Layout}
    (h : ∀ x ∈ newNames names pending, (Part.named pending x).anchor? layout = none) :
    placedNames layout pending names = names ++ newNames names pending := by
  have hnone : ∀ e ∈ anchoredNames layout pending names, e.1 = none := fun e he =>
    (mem_anchoredNames.mp he).2.trans (h e.2 (mem_anchoredNames.mp he).1)
  have hsort : anchoredNames layout pending names =
      (newNames names pending).map fun x => ((Part.named pending x).anchor? layout, x) := by
    refine List.mergeSort_of_pairwise (List.pairwise_map.mpr ?_)
    refine List.Pairwise.imp_of_mem (fun hx hy _ => ?_) (nodup_newNames names)
    rw [h _ hx, h _ hy]
    rfl
  rw [placedNames, Walk.place_of_unanchored _ _ hnone, hsort, List.map_map]
  exact congrArg _ (List.map_id _)

/-- **Without a layout, what is new comes last**, as it comes. -/
theorem placedNames_none (pending : List Pending) (names : List String) :
    placedNames none pending names = names ++ newNames names pending :=
  placedNames_of_unanchored fun _ _ => Part.anchor?_none _

/-! ### Coming home -/

/-- A name stands in a list no later than another. -/
def NoLater (order : List String) (x y : String) : Prop :=
  ∀ i j : Nat, order[i]? = some x → order[j]? = some y → i ≤ j

section Order

variable {order : List String}

/-- The names of a list stand in its order. -/
theorem pairwise_noLater (horder : order.Nodup) : order.Pairwise (NoLater order) := by
  refine List.pairwise_iff_getElem.mpr fun i j hi hj hij i' j' hi' hj' => ?_
  obtain ⟨hi', heq⟩ := List.getElem?_eq_some_iff.mp hi'
  obtain ⟨hj', heq'⟩ := List.getElem?_eq_some_iff.mp hj'
  obtain rfl : i' = i := horder.getElem_inj_iff.mp heq
  obtain rfl : j' = j := horder.getElem_inj_iff.mp heq'
  exact Nat.le_of_lt hij

/-- Names that stand no later than each other are the same. -/
theorem eq_of_noLater {x y : String} (hx : x ∈ order) (hy : y ∈ order) (hxy : NoLater order x y)
    (hyx : NoLater order y x) : x = y := by
  obtain ⟨i, hi⟩ := List.getElem?_of_mem hx
  obtain ⟨j, hj⟩ := List.getElem?_of_mem hy
  obtain rfl : i = j := Nat.le_antisymm (hxy i j hi hj) (hyx j i hj hi)
  exact Option.some.inj (hi.symm.trans hj)

variable (hkept : ∀ e ∈ t.keptNames, order[e.1]? = some e.2)
  (hnew : ∀ x ∈ newNames names pending,
    ∃ i, order[i]? = some x ∧ (Part.named pending x).anchor? (some t) = some i)

include hkept hnew

/-- The rank of a name says where it stands. -/
theorem rank_of_order {e : Option Nat × String} (he : e ∈ rankedNames t pending names) :
    ∃ i, order[i]? = some e.2 ∧ (e.1 = some (2 * i) ∨ e.1 = some (2 * i + 1)) := by
  rcases List.mem_merge.mp he with he | he
  · obtain ⟨k, hk, rfl⟩ := List.mem_map.mp he
    exact ⟨k.1, hkept k hk, Or.inr rfl⟩
  · obtain ⟨k, hk, rfl⟩ := List.mem_map.mp he
    obtain ⟨hx, hk⟩ := mem_anchoredNames.mp hk
    obtain ⟨i, hi, hanchor⟩ := hnew k.2 hx
    exact ⟨i, hi, Or.inl (by rw [Walk.newRank, hk, hanchor]; rfl)⟩

/-- **Names that come home restore an order**: if what is there stands where its child is, and
everything new where it is anchored, the names of the level are in that order. -/
theorem placedNames_eq_of_order (h : t.Keeps names) (horder : order.Nodup) {target : List String}
    (hsub : target.Sublist order) (hperm : target.Perm (names ++ newNames names pending)) :
    placedNames (some t) pending names = target := by
  have hperm' : (placedNames (some t) pending names).Perm target :=
    (placedNames_perm names).trans hperm.symm
  -- two sorted lists with the same members are the same
  refine List.Perm.eq_of_pairwise (fun x y hx hy => ?_) ?_
    ((pairwise_noLater horder).sublist hsub) hperm'
  · exact eq_of_noLater (hsub.subset (hperm'.subset hx)) (hsub.subset hy)
  · rw [(placedNames_eq_rankedNames h).1, List.pairwise_map]
    refine (pairwise_rankedNames t pending names).imp_of_mem fun {a b} ha hb hab i j hi hj => ?_
    obtain ⟨i', hi', ha⟩ := rank_of_order hkept hnew ha
    obtain ⟨j', hj', hb⟩ := rank_of_order hkept hnew hb
    obtain rfl : i' = i := (List.getElem?_inj (List.getElem?_eq_some_iff.mp hi').1 horder).mp
      (hi'.trans hi.symm)
    obtain rfl : j' = j := (List.getElem?_inj (List.getElem?_eq_some_iff.mp hj').1 horder).mp
      (hj'.trans hj.symm)
    rcases ha with ha | ha <;> rcases hb with hb | hb <;>
      simp only [Walk.rankLe, ha, hb, Walk.anchorLe_some_some, decide_eq_true_eq] at hab <;> omega

end Order

end Frame

end Colonnade
