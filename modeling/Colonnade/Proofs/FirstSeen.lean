import Mathlib.Data.List.Nodup

/-!
# The members of a list as they come first

`List.eraseDups` keeps the first of equal members. The requests of a level are split by the
names that come first, and the columns of a stack of frames are found in the same way.
-/

namespace Colonnade

variable {α : Type} [DecidableEq α]

theorem nodup_eraseDups : ∀ as : List α, as.eraseDups.Nodup
  | [] => List.nodup_nil
  | a :: as => by
    have hlt : (as.filter fun b => !b == a).length < as.length + 1 :=
      Nat.lt_succ_of_le (List.length_filter_le _ _)
    rw [List.eraseDups_cons]
    refine List.nodup_cons.mpr ⟨fun h => ?_, nodup_eraseDups _⟩
    have ha := List.of_mem_filter (List.mem_eraseDups.mp h)
    simp at ha
  termination_by as => as.length

/-- **Leaving members out changes nothing about which come first** of those that stay. -/
theorem filter_eraseDups (keep : α → Bool) :
    ∀ as : List α, as.eraseDups.filter keep = (as.filter keep).eraseDups
  | [] => rfl
  | a :: as => by
    have hlt : (as.filter fun b => !b == a).length < as.length + 1 :=
      Nat.lt_succ_of_le (List.length_filter_le _ _)
    rw [List.eraseDups_cons]
    by_cases ha : keep a
    · rw [List.filter_cons_of_pos ha, List.filter_cons_of_pos ha, List.eraseDups_cons,
        filter_eraseDups keep, List.filter_filter, List.filter_filter]
      simp only [Bool.and_comm]
    · -- what is equal to `a` is left out as well
      rw [List.filter_cons_of_neg ha, List.filter_cons_of_neg ha, filter_eraseDups keep,
        List.filter_filter]
      refine congrArg List.eraseDups (List.filter_congr fun b _ => ?_)
      by_cases hb : b = a
      · simp [hb, ha]
      · simp [hb]
  termination_by as => as.length

theorem eraseDups_of_nodup : ∀ {as : List α}, as.Nodup → as.eraseDups = as
  | [], _ => rfl
  | a :: as, h => by
    obtain ⟨ha, has⟩ := List.nodup_cons.mp h
    have hkeep : (as.filter fun b => !b == a) = as :=
      List.filter_eq_self.mpr fun b hb => by simpa using fun heq : b = a => ha (heq ▸ hb)
    rw [List.eraseDups_cons, hkeep, eraseDups_of_nodup has]

/-- **The members of many lists as they come first**, whether or not each of the lists says a member
more than once. -/
theorem eraseDups_flatMap_eraseDups {β : Type} (f : β → List α) (bs : List β) :
    (bs.flatMap fun b => (f b).eraseDups).eraseDups = (bs.flatMap f).eraseDups := by
  -- the members of the first list are left out of the rest, so any others may be as well
  suffices h : ∀ keep : α → Bool,
      ((bs.flatMap fun b => (f b).eraseDups).filter keep).eraseDups =
        ((bs.flatMap f).filter keep).eraseDups by
    simpa using h fun _ => true
  induction bs with
  | nil => exact fun _ => rfl
  | cons b bs ih =>
    intro keep
    rw [List.flatMap_cons, List.flatMap_cons, List.filter_append, List.filter_append,
      List.eraseDups_append, List.eraseDups_append, filter_eraseDups,
      eraseDups_of_nodup (nodup_eraseDups _)]
    refine congrArg _ ?_
    simp only [List.removeAll, List.filter_filter]
    rw [ih]
    refine congrArg List.eraseDups (List.filter_congr fun a _ => ?_)
    simp

/-- Saying different members again and again says no more than saying them once. -/
theorem eraseDups_flatMap_const {as : List α} (h : as.Nodup) {n : Nat} (hn : 0 < n) :
    ((List.range n).flatMap fun _ => as).eraseDups = as := by
  obtain ⟨k, rfl⟩ : ∃ k, n = k + 1 := ⟨n - 1, by omega⟩
  have hrest : (((List.range k).map Nat.succ).flatMap fun _ => as).removeAll as = [] := by
    refine List.filter_eq_nil_iff.mpr fun a ha => ?_
    obtain ⟨_, -, hmem⟩ := List.mem_flatMap.mp ha
    simpa using hmem
  rw [List.range_succ_eq_map, List.flatMap_cons, List.eraseDups_append, hrest, eraseDups_of_nodup h]
  simp

/-- The one member that is equal to `a`. -/
theorem find?_beq_eq (a : α) (as : List α) :
    as.find? (fun b => b == a) = if a ∈ as then some a else none := by
  by_cases h : a ∈ as
  · obtain ⟨b, hb⟩ := Option.isSome_iff_exists.mp
      (List.find?_isSome (p := fun b => b == a).mpr ⟨a, h, beq_self_eq_true a⟩)
    have hba : b = a := by simpa using List.find?_some hb
    rw [hb, if_pos h, hba]
  · rw [if_neg h]
    refine List.find?_eq_none.mpr fun b hb heq => h ?_
    rwa [← beq_iff_eq.mp heq]

end Colonnade
