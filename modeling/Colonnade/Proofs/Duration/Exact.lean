import Colonnade.Proofs.Conversion.Digits
import Colonnade.Time.Duration

/-!
# The exact total of a duration

The nanoseconds of components are added up in 128 bits, with a check at every step
(`Duration.magnitude?`). Here is what they add up to without any bound, `Duration.magnitude`, and why the
checks do no harm:

* what passes all of them is exact (`magnitude_of_magnitude?`), so no step gives a wrong number;
* whatever fits into 64 bits in the end passes all of them (`magnitude?_of_le`): the numbers on the way are
  no greater than the total, but for the scaled digits of a fraction, and of these there are 18 at most.

So the checks can be left out of the account, `ofText?_eq_of_components`: a duration is read if and only
if the exact total with its sign fits into 64 bits.
-/

namespace Colonnade.Duration

open Number

/-! ### What components amount to -/

/-- **The exact nanoseconds of a component**: the whole part, and the fraction rounded down after its first
18 digits. -/
def Component.nanoseconds (c : Component) : Nat :=
  valueOf c.whole * c.unit.nanoseconds +
    valueOf (c.fraction.take 18) * c.unit.nanoseconds / 10 ^ (c.fraction.take 18).length

/-- **The exact nanoseconds of components.** -/
def magnitude (cs : List Component) : Nat :=
  (cs.map Component.nanoseconds).sum

/-- **The exact total** of components with a sign. -/
def total (negative : Bool) (cs : List Component) : Int :=
  if negative then -magnitude cs else magnitude cs

@[simp] theorem magnitude_nil : magnitude [] = 0 := rfl

@[simp] theorem magnitude_cons (c : Component) (cs : List Component) :
    magnitude (c :: cs) = c.nanoseconds + magnitude cs := rfl

theorem total_natAbs (negative : Bool) (cs : List Component) :
    (total negative cs).natAbs = magnitude cs := by
  cases negative <;> simp [total]

/-! ### One check -/

theorem fit?_eq_some_iff {n m : Nat} : fit? n = some m ↔ n ≤ maxInt128 ∧ m = n := by
  unfold fit?
  split
  next h => simp [h, eq_comm]
  next h => simp [h]

theorem fit?_of_le {n : Nat} (h : n ≤ maxInt128) : fit? n = some n :=
  fit?_eq_some_iff.mpr ⟨h, rfl⟩

/-! ### One component -/

theorem Timescale.one_le_nanoseconds (u : Timescale) : 1 ≤ u.nanoseconds := by
  cases u <;> decide

/-- **What passes the checks is exact.** -/
theorem nanoseconds_of_nanoseconds? {c : Component} {n : Nat} (h : c.nanoseconds? = some n) :
    n = c.nanoseconds := by
  obtain ⟨whole, hwhole, h⟩ := Option.bind_eq_some_iff.mp h
  obtain ⟨m, hm, h⟩ := Option.bind_eq_some_iff.mp h
  obtain ⟨-, rfl⟩ := fit?_eq_some_iff.mp hwhole
  obtain ⟨-, rfl⟩ := fit?_eq_some_iff.mp hm
  split at h
  next hempty =>
    have hnone : valueOf [] = 0 := rfl
    rw [← Option.some.inj h, Component.nanoseconds, List.isEmpty_iff.mp hempty, List.take_nil, hnone,
      Nat.zero_mul, Nat.zero_div, Nat.add_zero]
  next =>
    obtain ⟨numerator, hnumerator, h⟩ := Option.bind_eq_some_iff.mp h
    obtain ⟨denominator, hdenominator, h⟩ := Option.bind_eq_some_iff.mp h
    obtain ⟨scaled, hscaled, h⟩ := Option.bind_eq_some_iff.mp h
    obtain ⟨-, rfl⟩ := fit?_eq_some_iff.mp hnumerator
    obtain ⟨-, rfl⟩ := fit?_eq_some_iff.mp hdenominator
    obtain ⟨-, rfl⟩ := fit?_eq_some_iff.mp hscaled
    exact (fit?_eq_some_iff.mp h).2

/-- **A component of at most `2^63` nanoseconds passes the checks.** -/
theorem nanoseconds?_of_le {c : Component} (h : c.nanoseconds ≤ 2 ^ 63) :
    c.nanoseconds? = some c.nanoseconds := by
  have hunit := c.unit.one_le_nanoseconds
  have hmax : maxInt128 = 2 ^ 127 - 1 := rfl
  have hwhole : valueOf c.whole * c.unit.nanoseconds ≤ 2 ^ 63 :=
    Nat.le_trans (Nat.le_add_right _ _) h
  have hvalue : valueOf c.whole ≤ 2 ^ 63 := Nat.le_trans (Nat.le_mul_of_pos_right _ hunit) hwhole
  -- a fraction of 18 digits is scaled up by no more than `10^18`
  have hpow : 10 ^ (c.fraction.take 18).length ≤ 10 ^ 18 :=
    Nat.pow_le_pow_right (by omega) (List.length_take_le _ _)
  have hscaled : valueOf (c.fraction.take 18) * c.unit.nanoseconds < (2 ^ 63 + 1) * 10 ^ 18 := by
    have hquotient : valueOf (c.fraction.take 18) * c.unit.nanoseconds /
        10 ^ (c.fraction.take 18).length < 2 ^ 63 + 1 :=
      Nat.lt_succ_of_le (Nat.le_trans (Nat.le_add_left _ _) h)
    exact Nat.lt_of_lt_of_le
      ((Nat.div_lt_iff_lt_mul (Nat.pow_pos (by omega))).mp hquotient) (Nat.mul_le_mul_left _ hpow)
  have hdigits : valueOf (c.fraction.take 18) ≤
      valueOf (c.fraction.take 18) * c.unit.nanoseconds := Nat.le_mul_of_pos_right _ hunit
  simp only [Component.nanoseconds?, Option.bind_eq_bind,
    fit?_of_le (show valueOf c.whole ≤ maxInt128 by omega),
    fit?_of_le (show valueOf c.whole * c.unit.nanoseconds ≤ maxInt128 by omega), Option.bind_some]
  split
  next hempty =>
    have hnone : valueOf [] = 0 := rfl
    rw [Component.nanoseconds, List.isEmpty_iff.mp hempty, List.take_nil, hnone, Nat.zero_mul,
      Nat.zero_div, Nat.add_zero]
  next =>
    simp only [fit?_of_le (show valueOf (c.fraction.take 18) ≤ maxInt128 by omega),
      fit?_of_le (show Nat.pow 10 (c.fraction.take 18).length ≤ maxInt128 from
        Nat.le_trans hpow (by rw [hmax]; norm_num)),
      fit?_of_le (show valueOf (c.fraction.take 18) * c.unit.nanoseconds ≤ maxInt128 by omega),
      Option.bind_some]
    exact fit?_of_le (Nat.le_trans h (by rw [hmax]; norm_num))

/-! ### All components -/

/-- **A sum that passes all checks is exact**, from wherever the adding up starts. -/
theorem magnitude_of_foldlM {cs : List Component} {start n : Nat}
    (h : cs.foldlM (fun n c => c.nanoseconds?.bind fun m => fit? (n + m)) start = some n) :
    n = start + magnitude cs := by
  induction cs generalizing start with
  | nil => exact (Option.some.inj h).symm
  | cons c cs ih =>
    rw [List.foldlM_cons] at h
    obtain ⟨next, hnext, h⟩ := Option.bind_eq_some_iff.mp h
    obtain ⟨m, hm, hsum⟩ := Option.bind_eq_some_iff.mp hnext
    obtain ⟨-, rfl⟩ := fit?_eq_some_iff.mp hsum
    rw [ih h, nanoseconds_of_nanoseconds? hm, magnitude_cons, Nat.add_assoc]

theorem magnitude_of_magnitude? {cs : List Component} {n : Nat} (h : magnitude? cs = some n) :
    n = magnitude cs :=
  (magnitude_of_foldlM h).trans (Nat.zero_add _)

/-- **A sum of at most `2^63` passes all checks**: no part of it is greater. -/
theorem foldlM_of_le (cs : List Component) (start : Nat) (h : start + magnitude cs ≤ 2 ^ 63) :
    cs.foldlM (fun n c => c.nanoseconds?.bind fun m => fit? (n + m)) start =
      some (start + magnitude cs) := by
  induction cs generalizing start with
  | nil => rfl
  | cons c cs ih =>
    rw [magnitude_cons] at h ⊢
    have hmax : maxInt128 = 2 ^ 127 - 1 := rfl
    have hnext : start + c.nanoseconds ≤ maxInt128 := by omega
    rw [List.foldlM_cons, nanoseconds?_of_le (by omega), Option.bind_some, fit?_of_le hnext,
      Option.bind_eq_bind, Option.bind_some, ih _ (by omega), Nat.add_assoc]

theorem magnitude?_of_le {cs : List Component} (h : magnitude cs ≤ 2 ^ 63) :
    magnitude? cs = some (magnitude cs) := by
  have hrun := foldlM_of_le cs 0 (by omega)
  rwa [Nat.zero_add] at hrun

/-! ### The sign -/

theorem natAbs_le_of_within {i : Int} (h : within int64Range i = true) : i.natAbs ≤ 2 ^ 63 := by
  obtain ⟨hlow, hhigh⟩ := within_iff.mp h
  simp only [int64Range] at hlow hhigh
  omega

/-- **A text whose components are known is a duration if their exact total fits into 64 bits.** -/
theorem ofText?_eq_of_components {cs : List Char} {negative : Bool} {found : List Component}
    (h : components? cs = some (negative, found)) :
    ofText? cs =
      if within int64Range (total negative found) then some ⟨Int64.ofInt (total negative found)⟩
      else none := by
  rw [ofText?, h, Option.bind_eq_bind, Option.bind_some]
  rcases hn : magnitude? found with _ | n
  · have hout : ¬within int64Range (total negative found) = true := by
      intro hfit
      have hle := natAbs_le_of_within hfit
      rw [total_natAbs] at hle
      rw [magnitude?_of_le hle] at hn
      cases hn
    simp only [hn, if_neg hout]
    rfl
  · obtain rfl := magnitude_of_magnitude? hn
    simp only [hn]
    rfl

end Colonnade.Duration
