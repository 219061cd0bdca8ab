import Colonnade.Ascending
import Mathlib.Data.String.Basic
import Mathlib.Data.List.Induction
import Mathlib.Data.List.Sort

/-!
# The members of a list in order

`inOrder` lists the members of a list in ascending order, each once, and `unionInOrder` those of two such
lists. That is all there is to say about them: there is only one such list, so one that ascends already
stays as it is.
-/

namespace Colonnade

variable {α : Type} [Ord α]

/-- **The members ascend**, each being less than all that follow. -/
def Ascends (as : List α) : Prop :=
  as.Pairwise fun a b => compare a b = .lt

theorem ascends_iff_pairwise_lt {as : List String} : Ascends as ↔ as.Pairwise (· < ·) := by
  simp only [Ascends, compare_lt_iff_lt]

theorem inOrder_append_singleton (as : List α) (a : α) :
    inOrder (as ++ [a]) = insertInOrder a (inOrder as) := by
  rw [inOrder, List.foldl_append]
  rfl

variable [Std.LawfulEqOrd α] {a b : α} {as bs : List α}

theorem mem_insertInOrder : b ∈ insertInOrder a as ↔ b = a ∨ b ∈ as := by
  induction as with
  | nil => simp [insertInOrder]
  | cons c cs ih =>
    rw [insertInOrder]
    split
    next => simp
    next heq =>
      obtain rfl := Std.compare_eq_iff_eq.mp heq
      simp
    next => rw [List.mem_cons, List.mem_cons, ih, or_left_comm]

theorem mem_inOrder : b ∈ inOrder as ↔ b ∈ as := by
  induction as using List.reverseRecOn with
  | nil => rfl
  | append_singleton as a ih =>
    rw [inOrder_append_singleton, mem_insertInOrder, ih, List.mem_append, List.mem_singleton, or_comm]

theorem mem_unionInOrder : b ∈ unionInOrder as bs ↔ b ∈ as ∨ b ∈ bs := by
  induction bs generalizing as with
  | nil => simp [unionInOrder]
  | cons c cs ih =>
    show b ∈ unionInOrder (insertInOrder c as) cs ↔ _
    rw [ih, mem_insertInOrder, List.mem_cons, or_assoc, or_left_comm]

variable [Std.TransOrd α]

theorem Ascends.insertInOrder (h : Ascends as) : Ascends (insertInOrder a as) := by
  induction as with
  | nil => simp [Colonnade.insertInOrder, Ascends]
  | cons c cs ih =>
    obtain ⟨hc, hcs⟩ := List.pairwise_cons.mp h
    rw [Colonnade.insertInOrder]
    split
    next hlt =>
      refine List.pairwise_cons.mpr ⟨List.forall_mem_cons.mpr ⟨hlt, fun d hd => ?_⟩, h⟩
      exact Std.TransCmp.lt_trans hlt (hc d hd)
    next => exact h
    next hgt =>
      refine List.pairwise_cons.mpr ⟨fun d hd => ?_, ih hcs⟩
      rcases mem_insertInOrder.mp hd with rfl | hd
      · exact Std.OrientedCmp.gt_iff_lt.mp hgt
      · exact hc d hd

theorem ascends_inOrder (as : List α) : Ascends (inOrder as) := by
  induction as using List.reverseRecOn with
  | nil => exact List.Pairwise.nil
  | append_singleton as a ih =>
    rw [inOrder_append_singleton]
    exact ih.insertInOrder

theorem Ascends.unionInOrder (h : Ascends as) : Ascends (unionInOrder as bs) := by
  induction bs generalizing as with
  | nil => exact h
  | cons b bs ih => exact ih h.insertInOrder

/-- What is in order stays as it is. -/
theorem inOrder_eq_self (h : Ascends as) : inOrder as = as := by
  have hirrefl : Std.Irrefl fun a b : α => compare a b = .lt :=
    ⟨fun a ha => by simp [Std.ReflCmp.compare_self] at ha⟩
  have hantisymm : Std.Antisymm fun a b : α => compare a b = .lt :=
    ⟨fun a b hab hba => absurd (Std.TransCmp.lt_trans hab hba) (hirrefl.irrefl a)⟩
  exact (ascends_inOrder as).eq_of_mem_iff h fun _ => mem_inOrder

end Colonnade
