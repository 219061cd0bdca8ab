import Colonnade.Frame.Merge
import Mathlib.Data.List.Forall2
import Mathlib.Data.List.Perm.Basic
import Mathlib.Data.List.InsertIdx

/-!
# What a walk along a layout places

`Walk.place` puts new columns among others at positions it computes as it goes: an anchor,
shifted by one for every removed child that the walk has passed and for every column it has put
in. That positions stay right while the list grows is a matter of one invariant, and the result
has nothing to do with positions any more: it is a merge of two sorted lists.

* `Walk.place_perm`, `Walk.map_place` – whatever the layout, nothing is lost, and only anchors
  decide about places;
* `Walk.place_start_eq_merge` – **the walk merges**, when the columns are those that the layout
  has left: columns and new columns are merged by `oldRank` and `newRank`;
* `Walk.InRange` – every target lies among the places there are, so that cutting it down
  (`Walk.position`) changes nothing. It comes out of the same induction.

In a layout that has nothing to do with the columns a target may lie beyond the end, and only the
first two hold.
-/

namespace Colonnade

namespace Walk

variable {α β : Type}

/-! ### Any layout -/

theorem position_le (w : Walk) (anchor length : Nat) : w.position anchor length ≤ length := by
  simp only [position]
  omega

/-- A target among the places there are is the position. -/
theorem position_eq {w : Walk} {anchor length p : Nat} (h : w.target anchor = p)
    (hp : p ≤ length) : w.position anchor length = p := by
  simp only [position, h]
  omega

/-- **Nothing is lost and nothing comes twice**, whatever the layout. -/
theorem place_perm (w : Walk) (columns : List α) (new : List (Option Nat × α)) :
    (w.place columns new).Perm (columns ++ new.map Prod.snd) := by
  induction new generalizing w columns with
  | nil => simp [place]
  | cons entry new ih =>
    obtain ⟨_ | anchor, a⟩ := entry
    · simpa [place] using ih w (columns ++ [a])
    · have hins := List.perm_insertIdx a columns
        (position_le (w.upTo anchor) anchor columns.length)
      exact (ih _ _).trans ((hins.append_right _).trans List.perm_middle.symm)

/-- **A walk keeps the order of what is there**, whatever the layout. -/
theorem sublist_place (w : Walk) (columns : List α) (new : List (Option Nat × α)) :
    columns.Sublist (w.place columns new) := by
  induction new generalizing w columns with
  | nil => exact List.Sublist.refl _
  | cons entry new ih =>
    obtain ⟨_ | anchor, a⟩ := entry
    · exact (List.sublist_append_left columns [a]).trans (ih _ _)
    · exact (List.sublist_insertIdx columns _ a).trans (ih _ _)

/-- **Only the anchors decide about places.** -/
theorem map_place (f : α → β) (w : Walk) (columns : List α) (new : List (Option Nat × α)) :
    (w.place columns new).map f =
      w.place (columns.map f) (new.map fun entry => (entry.1, f entry.2)) := by
  induction new generalizing w columns with
  | nil => rfl
  | cons entry new ih =>
    obtain ⟨_ | anchor, a⟩ := entry
    · simp [place, ih]
    · simp [place, ih, List.map_insertIdx]

/-- Without anchors, new columns come last. -/
theorem place_of_unanchored (w : Walk) (columns : List α) {new : List (Option Nat × α)}
    (h : ∀ entry ∈ new, entry.1 = none) : w.place columns new = columns ++ new.map Prod.snd := by
  induction new generalizing columns with
  | nil => simp [place]
  | cons entry new ih =>
    obtain ⟨anchor, a⟩ := entry
    obtain rfl : anchor = none := h _ List.mem_cons_self
    rw [place, ih _ fun entry he => h entry (List.mem_cons_of_mem _ he)]
    simp

/-! ### Ranks -/

/-- The rank of a column that is at a position in the layout. -/
def oldRank (entry : Nat × α) : Option Nat × α :=
  (some (2 * entry.1 + 1), entry.2)

/-- The rank of a new column: before the column at its anchor, and behind the one before. -/
def newRank (entry : Option Nat × α) : Option Nat × α :=
  (entry.1.map (2 * ·), entry.2)

/-- One entry ranks no higher than another; what has no rank ranks highest. -/
def rankLe (a b : Option Nat × α) : Bool :=
  Part.anchorLe a.1 b.1

/-- The positions of the children that have not been removed, among children and positions. -/
def kept (ahead : List (Layout × Nat)) : List Nat :=
  (ahead.filter fun child => !child.1.isRemoved).map Prod.snd

/-- **Every target lies among the places there are**, while new columns with these anchors are
put among `length` others. -/
def InRange : Walk → (length : Nat) → List (Option Nat) → Prop
  | _, _, [] => True
  | w, length, none :: rest => w.InRange (length + 1) rest
  | w, length, some anchor :: rest =>
    0 ≤ (w.upTo anchor).target anchor ∧ (w.upTo anchor).target anchor ≤ length ∧
      (w.upTo anchor).placed.InRange (length + 1) rest

theorem inRange_of_unanchored (w : Walk) (length : Nat) {anchors : List (Option Nat)}
    (h : ∀ anchor ∈ anchors, anchor = none) : w.InRange length anchors := by
  induction anchors generalizing length with
  | nil => trivial
  | cons anchor anchors ih =>
    obtain rfl : anchor = none := h _ List.mem_cons_self
    exact ih _ fun a ha => h a (List.mem_cons_of_mem _ ha)

/-! ### The walk merges -/

@[simp] theorem anchorLe_some_none (i : Nat) : Part.anchorLe (some i) none = true := rfl

@[simp] theorem anchorLe_none_some (i : Nat) : Part.anchorLe none (some i) = false := rfl

@[simp] theorem anchorLe_none_none : Part.anchorLe none none = true := rfl

@[simp] theorem anchorLe_some_some (i j : Nat) : Part.anchorLe (some i) (some j) = decide (i ≤ j) :=
  rfl

theorem anchorLe_trans (a b c : Option Nat) (hab : Part.anchorLe a b) (hbc : Part.anchorLe b c) :
    Part.anchorLe a c := by
  cases a <;> cases b <;> cases c <;> simp_all
  omega

theorem anchorLe_total (a b : Option Nat) : Part.anchorLe a b || Part.anchorLe b a := by
  cases a <;> cases b <;> simp
  omega

/-- Only entries without an anchor come after one without. -/
theorem eq_none_of_anchorLe {a : Option Nat} (h : Part.anchorLe none a) : a = none := by
  cases a with
  | none => rfl
  | some i => exact absurd h (by simp)

/-- A child before the anchor is passed. -/
theorem upTo_cons_of_lt {child : Layout} {i anchor : Nat} (h : i < anchor)
    (ahead : List (Layout × Nat)) (shift : Int) :
    (Walk.mk ((child, i) :: ahead) shift).upTo anchor =
      (Walk.mk ahead (if child.isRemoved then shift - 1 else shift)).upTo anchor := by
  simp only [upTo, pass]
  rw [if_neg (by omega)]

theorem place_cons_of_lt {child : Layout} {i anchor : Nat} (h : i < anchor)
    {ahead : List (Layout × Nat)} {shift : Int} {columns : List α} {a : α}
    {new : List (Option Nat × α)} :
    (Walk.mk ((child, i) :: ahead) shift).place columns ((some anchor, a) :: new) =
      (Walk.mk ahead (if child.isRemoved then shift - 1 else shift)).place columns
        ((some anchor, a) :: new) := by
  simp only [place, upTo_cons_of_lt h]

theorem inRange_cons_of_lt {child : Layout} {i anchor : Nat} (h : i < anchor)
    {ahead : List (Layout × Nat)} {shift : Int} {length : Nat} {rest : List (Option Nat)} :
    (Walk.mk ((child, i) :: ahead) shift).InRange length (some anchor :: rest) ↔
      (Walk.mk ahead (if child.isRemoved then shift - 1 else shift)).InRange length
        (some anchor :: rest) := by
  simp only [InRange, upTo_cons_of_lt h]

/-- The walk stops at the child at the anchor, or behind the last one. -/
theorem upTo_of_le {children : List Layout} {s anchor : Nat} (h : anchor ≤ s) (shift : Int) :
    (Walk.mk (children.zipIdx s) shift).upTo anchor = ⟨children.zipIdx s, shift⟩ := by
  cases children with
  | nil => rfl
  | cons child children => simp [upTo, pass, h]

theorem le_of_mem_kept {children : List Layout} {s i : Nat} (h : i ∈ kept (children.zipIdx s)) :
    s ≤ i := by
  obtain ⟨⟨child, j⟩, hmem, rfl⟩ := List.mem_map.mp h
  exact List.le_snd_of_mem_zipIdx (List.mem_of_mem_filter hmem)

theorem insertIdx_length_append (done rest : List α) (a : α) :
    (done ++ rest).insertIdx done.length a = (done ++ [a]) ++ rest := by
  induction done with
  | nil => rfl
  | cons b done ih => simpa using ih

/-- **A walk merges** new columns into others if those are `done`, which it has passed, and `rest`,
which are ahead of it at their positions; and no target has to be cut down. -/
def Merges (w : Walk) (done : List α) (rest : List (Nat × α)) (new : List (Option Nat × α)) : Prop :=
  w.place (done ++ rest.map Prod.snd) new =
      done ++ (List.merge (rest.map oldRank) (new.map newRank) rankLe).map Prod.snd ∧
    w.InRange (done.length + rest.length) (new.map Prod.fst)

section Steps

variable {w : Walk} {child : Layout} {children : List Layout} {ahead : List (Layout × Nat)}
variable {s i anchor : Nat} {shift : Int} {a e : α} {done : List α} {rest : List (Nat × α)}
variable {new : List (Option Nat × α)}

/-- Columns without anchors come last. -/
theorem merges_of_unanchored (h : ∀ entry ∈ new, entry.1 = none) : w.Merges done rest new := by
  constructor
  · rw [place_of_unanchored _ _ h, List.merge_of_le, List.append_assoc, List.map_append]
    · simp [oldRank, newRank, Function.comp_def]
    · intro x y hx hy
      obtain ⟨entry, he, rfl⟩ := List.mem_map.mp hx
      obtain ⟨entry', he', rfl⟩ := List.mem_map.mp hy
      simp [rankLe, newRank, h entry' he', oldRank]
  · refine inRange_of_unanchored _ _ fun b hb => ?_
    obtain ⟨entry, he, rfl⟩ := List.mem_map.mp hb
    exact h entry he

/-- A column whose anchor is the child that the walk has come to goes behind those that are done:
they are as many as the position of the child and the shift say. -/
theorem Merges.place_at (hdone : (done.length : Int) = s + shift)
    (hrest : ∀ entry ∈ rest, s ≤ entry.1)
    (h : (Walk.mk (children.zipIdx s) (shift + 1)).Merges (done ++ [a]) rest new) :
    (Walk.mk (children.zipIdx s) shift).Merges done rest ((some s, a) :: new) := by
  obtain ⟨hplace, hrange⟩ := h
  constructor
  · have hpos : (Walk.mk (children.zipIdx s) shift).position s
        (done ++ rest.map Prod.snd).length = done.length := position_eq hdone.symm (by simp)
    have hmerge : List.merge (rest.map oldRank) (((some s, a) :: new).map newRank) rankLe =
        newRank (some s, a) :: List.merge (rest.map oldRank) (new.map newRank) rankLe := by
      cases rest with
      | nil => simp
      | cons entry rest =>
        have hlt : ¬rankLe (oldRank entry) (newRank (some s, a)) := by
          have hs := hrest entry List.mem_cons_self
          simp [rankLe, oldRank, newRank]
          omega
        rw [List.map_cons, List.map_cons, List.cons_merge_cons_neg _ _ _ hlt]
    rw [place]
    simp only [upTo_of_le (Nat.le_refl s), hpos, placed, insertIdx_length_append]
    rw [hplace, hmerge]
    simp [newRank]
  · simp only [List.map_cons, InRange, upTo_of_le (Nat.le_refl s), target, placed]
    refine ⟨by omega, by omega, ?_⟩
    have hcount : (done ++ [a]).length + rest.length = done.length + rest.length + 1 := by
      simp only [List.length_append, List.length_singleton]
      omega
    exact hcount ▸ hrange

/-- A removed child that the walk passes leaves no column behind. -/
theorem Merges.pass_removed (hlt : i < anchor) (hgone : child.isRemoved)
    (h : (Walk.mk ahead (shift - 1)).Merges done rest ((some anchor, a) :: new)) :
    (Walk.mk ((child, i) :: ahead) shift).Merges done rest ((some anchor, a) :: new) := by
  constructor
  · rw [place_cons_of_lt hlt, if_pos hgone]
    exact h.1
  · rw [List.map_cons, inRange_cons_of_lt hlt, if_pos hgone]
    exact h.2

/-- Another one leaves its column behind. -/
theorem Merges.pass_kept (hlt : i < anchor) (hkept : ¬child.isRemoved)
    (h : (Walk.mk ahead shift).Merges (done ++ [e]) rest ((some anchor, a) :: new)) :
    (Walk.mk ((child, i) :: ahead) shift).Merges done ((i, e) :: rest) ((some anchor, a) :: new) := by
  obtain ⟨hplace, hrange⟩ := h
  constructor
  · have hle : rankLe (oldRank (i, e)) (newRank (some anchor, a)) := by
      simp [rankLe, oldRank, newRank]
      omega
    rw [place_cons_of_lt hlt, if_neg hkept, List.map_cons, List.map_cons, List.map_cons,
      List.cons_merge_cons_pos _ _ _ hle]
    simpa [oldRank] using hplace
  · rw [List.map_cons, inRange_cons_of_lt hlt, if_neg hkept]
    have hcount : (done ++ [e]).length + rest.length =
        done.length + ((i, e) :: rest).length := by
      simp only [List.length_append, List.length_cons, List.length_nil]
      omega
    exact hcount ▸ hrange

end Steps

/-- **The invariant of the walk**, and what comes of it: when it has come to the child at `s`,
the columns `done` that go before that child are as many as `s` and the shift say, and the
others, `rest`, are those of the children ahead. -/
theorem merges {children : List Layout} {s : Nat} {shift : Int} {done : List α}
    {rest : List (Nat × α)} {new : List (Option Nat × α)}
    (hdone : (done.length : Int) = s + shift)
    (hrest : rest.map Prod.fst = kept (children.zipIdx s))
    (hsorted : (new.map Prod.fst).Pairwise fun a b => Part.anchorLe a b)
    (hbound : ∀ entry ∈ new, ∀ anchor, entry.1 = some anchor →
      s ≤ anchor ∧ anchor ≤ s + children.length) :
    (Walk.mk (children.zipIdx s) shift).Merges done rest new := by
  -- a step either places a column or passes a child
  induction hn : children.length + new.length using Nat.strongRecOn
    generalizing children s shift done rest new with
  | _ n ih =>
    subst hn
    rcases new with _ | ⟨⟨_ | anchor, a⟩, new⟩
    · exact merges_of_unanchored (by simp)
    · refine merges_of_unanchored (List.forall_mem_cons.mpr ⟨rfl, fun entry he => ?_⟩)
      exact eq_none_of_anchorLe (List.rel_of_pairwise_cons hsorted (List.mem_map_of_mem he))
    · obtain ⟨hle, hlen⟩ := hbound _ List.mem_cons_self anchor rfl
      rcases Nat.eq_or_lt_of_le hle with rfl | hlt
      · have hge : ∀ entry ∈ rest, s ≤ entry.1 := fun entry he =>
          le_of_mem_kept (hrest ▸ List.mem_map_of_mem he)
        have hdone' : ((done ++ [a]).length : Int) = s + (shift + 1) := by
          simp only [List.length_append, List.length_singleton]
          omega
        exact Merges.place_at hdone hge (ih _ (by simp) hdone' hrest hsorted.tail
          (fun entry he => hbound entry (List.mem_cons_of_mem _ he)) rfl)
      · cases children with
        | nil =>
          simp only [List.length_nil] at hlen
          omega
        | cons child children =>
          -- all anchors that follow are no less than this one, so they are ahead as well
          have hbound' : ∀ entry ∈ (some anchor, a) :: new, ∀ b, entry.1 = some b →
              s + 1 ≤ b ∧ b ≤ s + 1 + children.length := by
            intro entry he b hb
            have hb' := hbound entry he b hb
            have hab : anchor ≤ b := by
              rcases List.mem_cons.mp he with rfl | he
              · exact Nat.le_of_eq (Option.some.inj hb)
              · have h := List.rel_of_pairwise_cons hsorted (List.mem_map_of_mem he)
                simpa [hb] using h
            simp only [List.length_cons] at hb'
            omega
          rw [List.zipIdx_cons]
          by_cases hgone : child.isRemoved
          · have hrest' : rest.map Prod.fst = kept (children.zipIdx (s + 1)) := by
              simpa [kept, hgone] using hrest
            have hdone' : (done.length : Int) = (s + 1 : Nat) + (shift - 1) := by omega
            exact Merges.pass_removed hlt hgone (ih _ (by simp) hdone' hrest' hsorted hbound' rfl)
          · obtain ⟨⟨i, e⟩, rest, rfl⟩ : ∃ entry rest', rest = entry :: rest' := by
              cases rest with
              | nil => simp [kept, hgone] at hrest
              | cons entry rest => exact ⟨entry, rest, rfl⟩
            have hrest' : i = s ∧ rest.map Prod.fst = kept (children.zipIdx (s + 1)) := by
              simpa [kept, hgone] using hrest
            obtain ⟨rfl, hrest'⟩ := hrest'
            have hdone' : ((done ++ [e]).length : Int) = (i + 1 : Nat) + shift := by
              simp only [List.length_append, List.length_singleton]
              omega
            exact Merges.pass_kept hlt hgone (ih _ (by simp) hdone' hrest' hsorted hbound' rfl)

/-- **The walk merges**: if the columns are those that the layout has left, each at its position,
then new columns are merged into them by rank, and no target has to be cut down. -/
theorem place_start_eq_merge {t : Layout} {old : List (Nat × α)} {new : List (Option Nat × α)}
    (hold : old.map Prod.fst = kept t.children.zipIdx)
    (hsorted : (new.map Prod.fst).Pairwise fun a b => Part.anchorLe a b)
    (hbound : ∀ entry ∈ new, ∀ anchor, entry.1 = some anchor → anchor ≤ t.children.length) :
    (start (some t)).place (old.map Prod.snd) new =
        (List.merge (old.map oldRank) (new.map newRank) rankLe).map Prod.snd ∧
      (start (some t)).InRange old.length (new.map Prod.fst) := by
  have hdone : (([] : List α).length : Int) = (0 : Nat) + 0 := by simp
  have h := merges hdone hold hsorted
    (fun entry he anchor ha => ⟨Nat.zero_le _, by simpa using hbound entry he anchor ha⟩)
  simpa [Merges, start] using h

end Walk

end Colonnade
