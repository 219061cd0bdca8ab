import Mathlib
import Colonnade.Number.Double

/-!
# The nearest double

What it means for a double to be the nearest one to a rational number, and that the roundings give it.

Every double but `NaN` has a rational value (`Double.toRat`). An infinity counts as `± 2^1024`, which would be
the next number of the format: so a number is rounded to an infinity from half a place above the greatest
finite double on, as the format prescribes. `Double.Nearest q x` says that no double is nearer to `q` than `x`,
and that of two doubles that are equally near `x` is the one with the even mantissa.

The rounding of a quotient chooses an exponent `e` first, and then a multiple of `2^e`:

* the quotient lies between `2^52` and `2^53` times the last place (`lastPlace_spec`);
* a double is a multiple of `2^e`, or too small to be nearest (`exists_multiple_or_small`);
* and the mantissa is the nearest integer (`roundHalfEven_spec`).

`nearest_ofRatio` puts these together; `nearest_ofInt` and `nearest_ofDecimal` follow from it, the latter with
the two shortcuts for numbers far outside the range.
-/

namespace Colonnade.Double

open Number

/-! ### The value of a double -/

/-- A magnitude with a sign. -/
def signed (negative : Bool) (q : ℚ) : ℚ :=
  if negative then -q else q

@[simp] theorem signed_true (q : ℚ) : signed true q = -q := rfl

@[simp] theorem signed_false (q : ℚ) : signed false q = q := rfl

@[simp] theorem abs_signed (negative : Bool) (q : ℚ) : |signed negative q| = |q| := by
  cases negative <;> simp

theorem signed_not (negative : Bool) (q : ℚ) : signed (!negative) q = -signed negative q := by
  cases negative <;> simp

/-- **The value of a double**; an infinity counts as the power of two that comes after the finite ones. -/
def toRat : Double → ℚ
  | nan => 0
  | infinite negative => signed negative (2 ^ (1024 : ℤ))
  | finite negative m e => signed negative (m * 2 ^ e)

/-- The mantissa is even; that of an infinity would be. -/
def EvenMantissa : Double → Prop
  | finite _ m _ => Even m
  | _ => True

/-- **The double nearest to a number**, of two equally near ones that with the even mantissa. -/
structure Nearest (q : ℚ) (x : Double) : Prop where
  ne_nan : x ≠ nan
  canonical : x.Canonical
  closest : ∀ y : Double, y ≠ nan → y.Canonical → |q - x.toRat| ≤ |q - y.toRat|
  even : ∀ y : Double, y ≠ nan → y.Canonical → |q - y.toRat| = |q - x.toRat| →
    y.toRat ≠ x.toRat → x.EvenMantissa

/-! ### The other sign -/

@[simp] theorem neg_neg (x : Double) : x.neg.neg = x := by
  cases x <;> simp [neg]

@[simp] theorem neg_eq_nan {x : Double} : x.neg = nan ↔ x = nan := by
  cases x <;> simp [neg]

@[simp] theorem toRat_neg (x : Double) : x.neg.toRat = -x.toRat := by
  cases x <;> simp [neg, toRat, signed_not]

@[simp] theorem canonical_neg {x : Double} : x.neg.Canonical ↔ x.Canonical := by
  cases x <;> rfl

@[simp] theorem evenMantissa_neg {x : Double} : x.neg.EvenMantissa ↔ x.EvenMantissa := by
  cases x <;> rfl

/-- **Rounding is symmetric.** -/
theorem Nearest.neg {q : ℚ} {x : Double} (h : Nearest q x) : Nearest (-q) x.neg := by
  have habs (z : ℚ) : |-q - z| = |q - -z| := by rw [← abs_neg]; ring_nf
  have hdist (y : Double) : |-q - y.toRat| = |q - y.neg.toRat| := by rw [toRat_neg, habs]
  refine ⟨by simpa using h.ne_nan, by simpa using h.canonical, fun y hy hc => ?_,
    fun y hy hc heq hne => ?_⟩
  · rw [hdist, hdist, neg_neg]
    exact h.closest y.neg (by simpa using hy) (by simpa using hc)
  · rw [hdist, hdist, neg_neg] at heq
    refine evenMantissa_neg.mpr (h.even y.neg (by simpa using hy) (by simpa using hc) heq fun hval => ?_)
    exact hne (by rw [toRat_neg, ← hval, toRat_neg]; ring)

/-! ### Doubles on a grid -/

theorem mantissaBound_eq : (mantissaBound : ℚ) = 2 ^ (53 : ℤ) := by
  norm_num [mantissaBound]

theorem implicitBit_eq : (implicitBit : ℚ) = 2 ^ (52 : ℤ) := by
  norm_num [implicitBit]

/-- A finite double is less than its exponent allows. -/
theorem mul_zpow_lt {m : Nat} (hm : m < mantissaBound) (e : ℤ) : (m : ℚ) * 2 ^ e < 2 ^ (53 + e) := by
  have hlt : (m : ℚ) < 2 ^ (53 : ℤ) := by
    rw [← mantissaBound_eq]
    exact_mod_cast hm
  rw [zpow_add₀ (by norm_num)]
  exact mul_lt_mul_of_pos_right hlt (by positivity)

/-- A power of two is a multiple of every smaller one. -/
theorem zpow_eq_natCast_mul {e f : ℤ} (h : e ≤ f) : (2 : ℚ) ^ f = (2 ^ (f - e).toNat : Nat) * 2 ^ e := by
  rw [Nat.cast_pow, Nat.cast_ofNat, ← zpow_natCast, Int.toNat_of_nonneg (by omega),
    ← zpow_add₀ (by norm_num)]
  congr 1
  omega

/-- **A double is a multiple of a power of two, or below all those of full width.** -/
theorem exists_multiple_or_small {y : Double} (hy : y ≠ nan) (hc : y.Canonical) {e : ℤ}
    (hhigh : e ≤ maxExponent) :
    (∃ j : ℤ, y.toRat = j * 2 ^ e) ∨ minExponent < e ∧ |y.toRat| < 2 ^ (52 + e) := by
  have hsigned (negative : Bool) (n : Nat) : ∃ j : ℤ, signed negative (n * 2 ^ e) = j * 2 ^ e := by
    cases negative
    · exact ⟨n, by simp⟩
    · exact ⟨-n, by simp⟩
  cases y with
  | nan => exact absurd rfl hy
  | infinite negative =>
    left
    rw [toRat, zpow_eq_natCast_mul (show e ≤ 1024 by simp only [maxExponent] at hhigh; omega)]
    exact hsigned negative _
  | finite negative m f =>
    obtain ⟨hm, hf, -, -⟩ := hc
    rcases le_or_gt e f with hle | hlt
    · left
      rw [toRat, zpow_eq_natCast_mul hle, ← mul_assoc, ← Nat.cast_mul]
      exact hsigned negative _
    · refine .inr ⟨lt_of_le_of_lt hf hlt, ?_⟩
      rw [toRat, abs_signed, abs_of_nonneg (by positivity)]
      exact lt_of_lt_of_le (mul_zpow_lt hm f) (zpow_le_zpow_right₀ (by norm_num) (by omega))

/-- The magnitude of a finite double. -/
theorem abs_toRat_finite_lt {negative : Bool} {m : Nat} {e : ℤ}
    (hc : (finite negative m e).Canonical) : |(finite negative m e).toRat| < 2 ^ (1024 : ℤ) := by
  obtain ⟨hm, -, he, -⟩ := hc
  rw [toRat, abs_signed, abs_of_nonneg (by positivity)]
  refine lt_of_lt_of_le (mul_zpow_lt hm e) (zpow_le_zpow_right₀ (by norm_num) ?_)
  simp only [maxExponent] at he
  omega

/-! ### Far outside the range -/

/-- **A number beyond the format** is nearest to infinity. -/
theorem nearest_infinite {q : ℚ} (h : 2 ^ (1024 : ℤ) ≤ q) : Nearest q (infinite false) := by
  have hclosest (y : Double) (hy : y ≠ nan) (hc : y.Canonical) :
      y.toRat ≤ (infinite false).toRat := by
    cases y with
    | nan => exact absurd rfl hy
    | infinite negative =>
      cases negative
      · exact le_rfl
      · exact neg_le_self (by positivity)
    | finite negative m e => exact (le_abs_self _).trans (abs_toRat_finite_lt hc).le
  refine ⟨by simp, trivial, fun y hy hc => ?_, fun _ _ _ _ _ => trivial⟩
  have hle := hclosest y hy hc
  have hq : (infinite false).toRat ≤ q := h
  rw [abs_of_nonneg (by linarith), abs_of_nonneg (by linarith)]
  linarith

/-- No double but zero is smaller than the least place. -/
theorem le_abs_toRat {y : Double} (hy : y ≠ nan) (hc : y.Canonical) (hne : y.toRat ≠ 0) :
    2 ^ minExponent ≤ |y.toRat| := by
  rcases exists_multiple_or_small hy hc (e := minExponent) (by decide) with ⟨j, hj⟩ | ⟨hlt, -⟩
  · have hj0 : j ≠ 0 := by
      rintro rfl
      exact hne (by simpa using hj)
    have hone : (1 : ℚ) ≤ |(j : ℚ)| := by exact_mod_cast Int.one_le_abs hj0
    rw [hj, abs_mul, abs_of_pos (by positivity : (0 : ℚ) < 2 ^ minExponent)]
    exact le_mul_of_one_le_left (by positivity) hone
  · exact absurd hlt (lt_irrefl _)

/-- **A number below half of the least place** is nearest to zero. -/
theorem nearest_zero {q : ℚ} (h0 : 0 ≤ q) (h : q < 2 ^ (minExponent - 1)) : Nearest q (zero false) := by
  have hvalue : (zero false).toRat = 0 := by simp [zero, toRat]
  have hfar (y : Double) (hy : y ≠ nan) (hc : y.Canonical) (hne : y.toRat ≠ 0) : q < |q - y.toRat| := by
    have hle := le_abs_toRat hy hc hne
    have htwice : (2 : ℚ) ^ minExponent = 2 * 2 ^ (minExponent - 1) := by
      rw [zpow_sub₀ (by norm_num)]
      ring
    have htri := abs_sub_abs_le_abs_sub y.toRat q
    rw [abs_sub_comm, abs_of_nonneg h0] at htri
    linarith
  have hcanonical : (zero false).Canonical := ⟨by decide, le_rfl, by decide, .inr rfl⟩
  refine ⟨by simp [zero], hcanonical, fun y hy hc => ?_, fun y hy hc heq hne => ?_⟩
  · rw [hvalue, sub_zero, abs_of_nonneg h0]
    by_cases hne : y.toRat = 0
    · rw [hne, sub_zero, abs_of_nonneg h0]
    · exact (hfar y hy hc hne).le
  · rw [hvalue, sub_zero, abs_of_nonneg h0] at heq
    rw [hvalue] at hne
    exact absurd heq (hfar y hy hc hne).ne'

/-! ### Rounding to an integer -/

/-- **The nearest integer**: a half away at most, and even if it is a half away. -/
theorem roundHalfEven_spec (n : Nat) {d : Nat} (hd : 0 < d) :
    |(n : ℚ) / d - roundHalfEven n d| ≤ 1 / 2 ∧
      (|(n : ℚ) / d - roundHalfEven n d| = 1 / 2 → Even (roundHalfEven n d)) := by
  have hdq : (0 : ℚ) < d := by exact_mod_cast hd
  have hsplit : (n : ℚ) / d = (n / d : Nat) + (n % d : Nat) / d := by
    have hcast : (n : ℚ) = d * (n / d : Nat) + (n % d : Nat) := by
      exact_mod_cast (Nat.div_add_mod n d).symm
    rw [div_eq_iff hdq.ne', add_mul, div_mul_cancel₀ _ hdq.ne']
    linarith
  have hmod : n % d < d := Nat.mod_lt _ hd
  rw [hsplit, roundHalfEven]
  generalize n / d = k
  generalize n % d = r at hmod
  -- below, above and at a half
  rcases lt_trichotomy (2 * r) d with hlt | heq | hgt
  · have hrest : (r : ℚ) / d < 1 / 2 := by
      rw [div_lt_iff₀ hdq]
      have : (2 * r : ℚ) < d := by exact_mod_cast hlt
      linarith
    have hpos : (0 : ℚ) ≤ r / d := by positivity
    rw [if_pos hlt, add_sub_cancel_left, abs_of_nonneg hpos]
    exact ⟨hrest.le, fun h => absurd h hrest.ne⟩
  · have hrest : (r : ℚ) / d = 1 / 2 := by
      rw [div_eq_iff hdq.ne']
      have : (2 * r : ℚ) = d := by exact_mod_cast heq
      linarith
    rw [if_neg (by omega), if_neg (by omega), hrest]
    split
    next heven =>
      rw [add_sub_cancel_left]
      exact ⟨by norm_num, fun _ => Nat.even_iff.mpr heven⟩
    next hodd =>
      refine ⟨?_, fun _ => Nat.even_add_one.mpr (mt Nat.even_iff.mp hodd)⟩
      push_cast
      rw [add_sub_add_left_eq_sub]
      norm_num
  · have hrest : 1 / 2 < (r : ℚ) / d := by
      rw [lt_div_iff₀ hdq]
      have : (d : ℚ) < 2 * r := by exact_mod_cast hgt
      linarith
    have hone : (r : ℚ) / d < 1 := by
      rw [div_lt_one hdq]
      exact_mod_cast hmod
    rw [if_neg (by omega), if_pos hgt]
    push_cast
    rw [add_sub_add_left_eq_sub, abs_of_neg (by linarith)]
    exact ⟨by linarith, fun h => absurd h (by linarith)⟩

/-- **What is at most a half away from an integer** is no nearer to any other. -/
theorem abs_sub_le_of_half {q : ℚ} {k : ℤ} (h : |q - k| ≤ 1 / 2) (j : ℤ) :
    |q - k| ≤ |q - j| ∧ (|q - j| = |q - k| → j ≠ k → |q - k| = 1 / 2) := by
  by_cases hjk : j = k
  · exact ⟨by rw [hjk], fun _ hne => absurd hjk hne⟩
  · have hone : (1 : ℚ) ≤ |(k : ℚ) - j| := by
      exact_mod_cast Int.one_le_abs (sub_ne_zero.mpr (Ne.symm hjk))
    have htri : |(k : ℚ) - j| ≤ |q - k| + |q - j| := by
      rw [abs_sub_comm q k]
      exact abs_sub_le _ _ _
    exact ⟨by linarith, fun heq _ => by linarith⟩

/-! ### Rounding to a multiple of the last place -/

theorem ofRounded_of_lt {negative : Bool} {m : Nat} {e : ℤ} (hm : m < mantissaBound) :
    ofRounded negative m e = if maxExponent < e then infinite negative else finite negative m e := by
  simp only [ofRounded, if_pos hm]

/-- A mantissa that has become too great is halved, and the last place moves up. -/
theorem ofRounded_mantissaBound {negative : Bool} {e : ℤ} : ofRounded negative mantissaBound e =
    if maxExponent < e + 1 then infinite negative else finite negative implicitBit (e + 1) := by
  simp only [ofRounded, if_neg (lt_irrefl mantissaBound)]

/-- **What a rounded number is**: its value is what it was put together from, also where the last place
moves up, and its mantissa is even if the rounded one is. -/
structure Assembled (m : Nat) (e : ℤ) (x : Double) : Prop where
  ne_nan : x ≠ nan
  canonical : x.Canonical
  toRat_eq : x.toRat = m * 2 ^ e
  even : Even m → x.EvenMantissa

theorem assembled_ofRounded {m : Nat} {e : ℤ} (hm : m ≤ mantissaBound) (hlow : minExponent ≤ e)
    (hhigh : e ≤ maxExponent) (hwidth : implicitBit ≤ m ∨ e = minExponent) :
    Assembled m e (ofRounded false m e) := by
  rcases lt_or_eq_of_le hm with hlt | rfl
  · rw [ofRounded_of_lt hlt, if_neg (by omega)]
    exact ⟨by simp, ⟨hlt, hlow, hhigh, hwidth⟩, rfl, id⟩
  · have hvalue : (mantissaBound : ℚ) * 2 ^ e = 2 ^ (53 + e) := by
      rw [mantissaBound_eq, zpow_add₀ (by norm_num)]
    rw [ofRounded_mantissaBound]
    split
    next hover =>
      refine ⟨by simp, trivial, ?_, fun _ => trivial⟩
      have hlast : (1024 : ℤ) = 53 + e := by
        simp only [maxExponent] at hhigh hover
        omega
      rw [hvalue, toRat, signed_false, hlast]
    next hover =>
      refine ⟨by simp, ⟨by decide, by omega, by omega, .inl le_rfl⟩, ?_,
        fun _ => (by decide : Even implicitBit)⟩
      rw [hvalue, toRat, signed_false, implicitBit_eq, ← zpow_add₀ (by norm_num)]
      congr 1
      omega

/-- **A multiple of the last place whose mantissa is the nearest integer is the nearest double**, for a
number that has full width at that last place or whose last place is the least one. -/
theorem Assembled.nearest {q : ℚ} {m : Nat} {e : ℤ} {x : Double} (hx : Assembled m e x)
    (hhigh : e ≤ maxExponent) (hwide : 2 ^ (52 + e) ≤ q ∨ e ≤ minExponent)
    (hhalf : |q / 2 ^ e - m| ≤ 1 / 2) (htie : |q / 2 ^ e - m| = 1 / 2 → Even m) : Nearest q x := by
  have hplace : (0 : ℚ) < 2 ^ e := by positivity
  have hscale (j : ℤ) : |q - j * 2 ^ e| = |q / 2 ^ e - j| * 2 ^ e := by
    rw [← abs_of_pos hplace, ← abs_mul, abs_of_pos hplace, sub_mul, div_mul_cancel₀ _ hplace.ne']
  have hown : |q - x.toRat| = |q / 2 ^ e - m| * 2 ^ e := by
    rw [hx.toRat_eq]
    exact hscale m
  -- multiples of the last place first, then the doubles that are too small
  have hgrid (j : ℤ) : |q - x.toRat| ≤ |q - j * 2 ^ e| := by
    rw [hown, hscale]
    exact mul_le_mul_of_nonneg_right (abs_sub_le_of_half hhalf j).1 hplace.le
  have hsmall (z : ℚ) (hq : 2 ^ (52 + e) ≤ q) (hz : |z| < 2 ^ (52 + e)) : |q - x.toRat| < |q - z| := by
    have hfull := hgrid (2 ^ 52)
    have hpow : ((2 ^ 52 : ℤ) : ℚ) * 2 ^ e = 2 ^ (52 + e) := by
      rw [zpow_add₀ (by norm_num)]
      norm_num
    rw [hpow, abs_of_nonneg (by linarith : 0 ≤ q - 2 ^ (52 + e))] at hfull
    have hlt := (abs_lt.mp hz).2
    rw [abs_of_pos (by linarith : 0 < q - z)]
    linarith
  have hcases (y : Double) (hy : y ≠ nan) (hc : y.Canonical) :
      (∃ j : ℤ, y.toRat = j * 2 ^ e) ∨ |q - x.toRat| < |q - y.toRat| := by
    rcases exists_multiple_or_small hy hc hhigh with hj | ⟨hlt, hz⟩
    · exact .inl hj
    · exact .inr (hsmall _ (hwide.resolve_right (by omega)) hz)
  refine ⟨hx.ne_nan, hx.canonical, fun y hy hc => ?_, fun y hy hc heq hne => ?_⟩
  · rcases hcases y hy hc with ⟨j, hj⟩ | hlt
    · exact hj ▸ hgrid j
    · exact hlt.le
  · rcases hcases y hy hc with ⟨j, hj⟩ | hlt
    · rw [hj, hscale, hown] at heq
      have heq := mul_right_cancel₀ hplace.ne' heq
      refine hx.even (htie ((abs_sub_le_of_half (k := m) hhalf j).2 heq ?_))
      rintro rfl
      exact hne (by rw [hj, hx.toRat_eq, Int.cast_natCast])
    · exact absurd heq hlt.ne'

/-! ### The last place of a quotient -/

variable {num den : Nat}

/-- Scaling down divides by the power of two. -/
theorem scaleDown_spec (num : Nat) (hden : 0 < den) (e : ℤ) :
    0 < (scaleDown num den e).2 ∧
      ((scaleDown num den e).1 : ℚ) / (scaleDown num den e).2 = num / den / 2 ^ e := by
  unfold scaleDown
  split
  next hneg =>
    refine ⟨hden, ?_⟩
    have hpow : (2 : ℚ) ^ e = (2 ^ e.natAbs)⁻¹ := by
      rw [← zpow_natCast, ← zpow_neg, show -((e.natAbs : ℕ) : ℤ) = e by omega]
    rw [hpow, div_inv_eq_mul]
    push_cast [Nat.pow_eq]
    ring
  next hpos =>
    refine ⟨Nat.mul_pos hden (Nat.pow_pos (by omega)), ?_⟩
    have hpow : (2 : ℚ) ^ e = 2 ^ e.natAbs := by
      rw [← zpow_natCast, show ((e.natAbs : ℕ) : ℤ) = e by omega]
    rw [hpow, div_div]
    push_cast [Nat.pow_eq]
    rfl

/-- A number lies between two powers of two. -/
theorem zpow_log2_le {n : Nat} (hn : 0 < n) :
    (2 : ℚ) ^ (n.log2 : ℤ) ≤ n ∧ (n : ℚ) < 2 ^ (n.log2 + 1 : ℤ) := by
  constructor
  · exact_mod_cast Nat.log2_self_le hn.ne'
  · exact_mod_cast Nat.lt_log2_self

/-- A quotient lies between powers of two that are told by the lengths of its parts. -/
theorem zpow_log2_sub_le (hnum : 0 < num) (hden : 0 < den) :
    (2 : ℚ) ^ ((num.log2 : ℤ) - den.log2 - 1) ≤ num / den ∧
      (num : ℚ) / den < 2 ^ ((num.log2 : ℤ) - den.log2 + 1) := by
  have hdenq : (0 : ℚ) < den := by exact_mod_cast hden
  obtain ⟨hnumLow, hnumHigh⟩ := zpow_log2_le hnum
  obtain ⟨hdenLow, hdenHigh⟩ := zpow_log2_le hden
  constructor
  · rw [le_div_iff₀ hdenq]
    calc (2 : ℚ) ^ ((num.log2 : ℤ) - den.log2 - 1) * den
        ≤ 2 ^ ((num.log2 : ℤ) - den.log2 - 1) * 2 ^ (den.log2 + 1 : ℤ) :=
          mul_le_mul_of_nonneg_left hdenHigh.le (by positivity)
      _ = 2 ^ (num.log2 : ℤ) := by
          rw [← zpow_add₀ (by norm_num)]
          congr 1
          omega
      _ ≤ num := hnumLow
  · rw [div_lt_iff₀ hdenq]
    calc (num : ℚ) < 2 ^ (num.log2 + 1 : ℤ) := hnumHigh
      _ = 2 ^ ((num.log2 : ℤ) - den.log2 + 1) * 2 ^ (den.log2 : ℤ) := by
          rw [← zpow_add₀ (by norm_num)]
          congr 1
          omega
      _ ≤ 2 ^ ((num.log2 : ℤ) - den.log2 + 1) * den :=
          mul_le_mul_of_nonneg_left hdenLow (by positivity)

/-- **The last place of a quotient**: the quotient is a mantissa of full width times the last place. -/
theorem lastPlace_spec (hnum : 0 < num) (hden : 0 < den) :
    (2 : ℚ) ^ (52 + lastPlace num den) ≤ num / den ∧
      (num : ℚ) / den < 2 ^ (53 + lastPlace num den) := by
  obtain ⟨hlow, hhigh⟩ := zpow_log2_sub_le hnum hden
  -- the estimate is right or one too great, and the whole part of the quotient tells which
  obtain ⟨hscaled, hquotient⟩ := scaleDown_spec num hden ((num.log2 : ℤ) - den.log2 - 52)
  have hestimate : (2 : ℚ) ^ (52 + ((num.log2 : ℤ) - den.log2 - 52)) ≤ num / den ↔
      implicitBit ≤ (scaleDown num den ((num.log2 : ℤ) - den.log2 - 52)).1 /
        (scaleDown num den ((num.log2 : ℤ) - den.log2 - 52)).2 := by
    rw [Nat.le_div_iff_mul_le hscaled, zpow_add₀ (by norm_num), ← implicitBit_eq,
      ← le_div_iff₀ (by positivity), ← hquotient, le_div_iff₀ (by exact_mod_cast hscaled)]
    norm_cast
  simp only [lastPlace]
  split
  next hlt =>
    have hless := lt_of_not_ge (mt hestimate.mp (not_le.mpr hlt))
    constructor
    · rwa [show 52 + ((num.log2 : ℤ) - den.log2 - 52 - 1) = num.log2 - den.log2 - 1 by omega]
    · rwa [show 53 + ((num.log2 : ℤ) - den.log2 - 52 - 1) = 52 + (num.log2 - den.log2 - 52) by omega]
  next hge =>
    refine ⟨hestimate.mpr (not_lt.mp hge), ?_⟩
    rwa [show 53 + ((num.log2 : ℤ) - den.log2 - 52) = num.log2 - den.log2 + 1 by omega]

/-! ### Rounding a quotient -/

theorem ofRounded_true (m : Nat) (e : ℤ) : ofRounded true m e = (ofRounded false m e).neg := by
  have hneg (m : Nat) (e : ℤ) : (if maxExponent < e then infinite true else finite true m e) =
      (if maxExponent < e then infinite false else finite false m e).neg := by
    split <;> rfl
  simp only [ofRounded, hneg]

theorem ofRatio_true (num den : Nat) : ofRatio true num den = (ofRatio false num den).neg := by
  simp only [ofRatio]
  split
  · rfl
  · exact ofRounded_true _ _

/-- Past the greatest exponent everything is rounded to infinity. -/
theorem ofRounded_of_gt {negative : Bool} {m : Nat} {e : ℤ} (he : maxExponent < e) :
    ofRounded negative m e = infinite negative := by
  have hnext : maxExponent < e + 1 := by omega
  by_cases hm : m < mantissaBound <;> simp [ofRounded, hm, he, hnext]

/-- **The nearest integer to a number of at most full width** has at most full width too, and full width if
the number has. -/
theorem rounded_bounds {q : ℚ} {m : Nat} (hhalf : |q - m| ≤ 1 / 2) (hhigh : q < 2 ^ (53 : ℤ)) :
    m ≤ mantissaBound ∧ (2 ^ (52 : ℤ) ≤ q → implicitBit ≤ m) := by
  obtain ⟨hbelow, habove⟩ := abs_le.mp hhalf
  rw [← mantissaBound_eq] at hhigh
  rw [← implicitBit_eq]
  constructor
  · have hlt : (m : ℚ) < (mantissaBound + 1 : Nat) := by
      push_cast
      linarith
    exact Nat.lt_succ_iff.mp (by exact_mod_cast hlt)
  · intro hlow
    have hlt : (implicitBit : ℚ) < (m + 1 : Nat) := by
      push_cast
      linarith
    exact Nat.lt_succ_iff.mp (by exact_mod_cast hlt)

theorem nearest_ofRatio_false (num den : Nat) (hden : 0 < den) :
    Nearest ((num : ℚ) / den) (ofRatio false num den) := by
  rw [ofRatio]
  split
  next hzero =>
    rw [hzero, Nat.cast_zero, zero_div]
    exact nearest_zero le_rfl (by positivity)
  next hnum =>
    obtain ⟨hlow, hhigh⟩ := lastPlace_spec (Nat.pos_of_ne_zero hnum) hden
    set e := max (lastPlace num den) minExponent with he
    have hmin : minExponent ≤ e := le_max_right _ _
    obtain ⟨hscaled, hquotient⟩ := scaleDown_spec num hden e
    obtain ⟨hhalf, htie⟩ := roundHalfEven_spec (scaleDown num den e).1 hscaled
    rw [hquotient] at hhalf htie
    dsimp only
    generalize roundHalfEven (scaleDown num den e).1 (scaleDown num den e).2 = m at hhalf htie
    have hwide : 2 ^ (52 + e) ≤ (num : ℚ) / den ∨ e = minExponent := by
      rcases max_choice (lastPlace num den) minExponent with hmax | hmax
      · exact .inl (by rwa [he, hmax])
      · exact .inr hmax
    rcases le_or_gt e maxExponent with hmax | hmax
    · have hplace : (0 : ℚ) < 2 ^ e := by positivity
      obtain ⟨hm, hfull⟩ := rounded_bounds hhalf (by
        rw [div_lt_iff₀ hplace, ← zpow_add₀ (by norm_num)]
        refine hhigh.trans_le (zpow_le_zpow_right₀ (by norm_num) ?_)
        omega)
      have hwidth : implicitBit ≤ m ∨ e = minExponent := hwide.imp_left fun hq => hfull (by
        rwa [le_div_iff₀ hplace, ← zpow_add₀ (by norm_num)])
      exact (assembled_ofRounded hm hmin hmax hwidth).nearest hmax (hwide.imp_right le_of_eq)
        hhalf htie
    · rw [ofRounded_of_gt hmax]
      have hfull := hwide.resolve_right (by simp only [minExponent, maxExponent] at hmax ⊢; omega)
      refine nearest_infinite (le_trans (zpow_le_zpow_right₀ (by norm_num) ?_) hfull)
      simp only [maxExponent] at hmax
      omega

/-- **The rounding of a quotient is the nearest double.** -/
theorem nearest_ofRatio (negative : Bool) (num den : Nat) (hden : 0 < den) :
    Nearest (signed negative (num / den)) (ofRatio negative num den) := by
  cases negative
  · exact nearest_ofRatio_false num den hden
  · rw [ofRatio_true]
    exact (nearest_ofRatio_false num den hden).neg

/-- **The rounding of an integer is the nearest double.** -/
theorem nearest_ofInt (i : ℤ) : Nearest i (ofInt i) := by
  have h := nearest_ofRatio (decide (i < 0)) i.natAbs 1 (by omega)
  have hvalue : signed (decide (i < 0)) ((i.natAbs : ℚ) / (1 : Nat)) = i := by
    rw [Nat.cast_one, div_one]
    rcases lt_or_ge i 0 with hneg | hpos
    · rw [decide_eq_true hneg, signed_true, Nat.cast_natAbs, abs_of_neg hneg]
      simp
    · rw [decide_eq_false (not_lt.mpr hpos), signed_false, Nat.cast_natAbs, abs_of_nonneg hpos]
  rwa [hvalue] at h

/-! ### Rounding a decimal -/

/-- **The number of digits** tells between which powers of ten a decimal lies. -/
theorem zpow_digitsOf_le {m : Nat} (hm : m ≠ 0) (e : ℤ) :
    (10 : ℚ) ^ ((digitsOf m).length + e - 1) ≤ m * 10 ^ e ∧
      (m : ℚ) * 10 ^ e < 10 ^ ((digitsOf m).length + e) := by
  obtain ⟨k, hk⟩ : ∃ k, (digitsOf m).length = k + 1 :=
    Nat.exists_eq_succ_of_ne_zero (List.length_eq_zero_iff.not.mpr Nat.toDigits_ne_nil)
  have hlow : 10 ^ k ≤ m := by
    rcases Nat.eq_zero_or_pos k with rfl | hpos
    · exact Nat.pos_of_ne_zero hm
    · by_contra hlt
      have hle := (Nat.length_toDigits_le_iff (by omega) hpos).mpr (not_le.mp hlt)
      have hlength : (Nat.toDigits 10 m).length = k + 1 := hk
      omega
  have hhigh : m < 10 ^ (k + 1) := (Nat.length_toDigits_le_iff (by omega) (by omega)).mp hk.le
  have hlowq : (10 : ℚ) ^ (k : ℤ) ≤ m := by exact_mod_cast hlow
  have hhighq : (m : ℚ) < 10 ^ (k + 1 : ℤ) := by exact_mod_cast hhigh
  rw [hk, show ((k + 1 : ℕ) : ℤ) + e - 1 = k + e by omega,
    show ((k + 1 : ℕ) : ℤ) + e = k + 1 + e by omega, zpow_add₀ (by norm_num) (k : ℤ),
    zpow_add₀ (by norm_num) (k + 1 : ℤ)]
  exact ⟨mul_le_mul_of_nonneg_right hlowq (by positivity),
    mul_lt_mul_of_pos_right hhighq (by positivity)⟩

/-- Powers of two and of ten are compared at a fifth of their exponents. -/
theorem zpow_mul_five_le {a b : ℤ} (h : (2 : ℚ) ^ a ≤ 10 ^ b) : (2 : ℚ) ^ (a * 5) ≤ 10 ^ (b * 5) := by
  rw [zpow_mul, zpow_mul]
  exact zpow_le_zpow_left₀ (by norm_num) (by positivity) h

/-- From `10^310` on a number is beyond the format. -/
theorem overflow_le : (2 : ℚ) ^ (1024 : ℤ) ≤ 10 ^ (310 : ℤ) :=
  (zpow_le_zpow_right₀ (by norm_num) (by norm_num)).trans
    (zpow_mul_five_le (by norm_num : (2 : ℚ) ^ (205 : ℤ) ≤ 10 ^ (62 : ℤ)))

/-- Below `10^-330` a number is less than half of the least place. -/
theorem le_underflow : (10 : ℚ) ^ (-330 : ℤ) ≤ 2 ^ (minExponent - 1) := by
  have hle := zpow_mul_five_le (by norm_num : (2 : ℚ) ^ (215 : ℤ) ≤ 10 ^ (66 : ℤ))
  have hinv := inv_anti₀ (by positivity) hle
  rwa [← zpow_neg, ← zpow_neg] at hinv

theorem nearest_ofDecimal_false (m : Nat) (e : ℤ) :
    Nearest ((m : ℚ) * 10 ^ e) (ofDecimal false m e) := by
  simp only [ofDecimal]
  split
  next hzero =>
    rw [hzero, Nat.cast_zero, zero_mul]
    exact nearest_zero le_rfl (by positivity)
  next hm =>
    obtain ⟨hlow, hhigh⟩ := zpow_digitsOf_le hm e
    split_ifs with hgreat hsmall hneg
    · exact nearest_infinite (overflow_le.trans
        ((zpow_le_zpow_right₀ (by norm_num) (by omega)).trans hlow))
    · exact nearest_zero (by positivity) (hhigh.trans_le
        ((zpow_le_zpow_right₀ (by norm_num) (by omega)).trans le_underflow))
    · have hpow : (10 : ℚ) ^ e = (10 ^ e.natAbs)⁻¹ := by
        rw [← zpow_natCast, ← zpow_neg, show -((e.natAbs : ℕ) : ℤ) = e by omega]
      have hnearest := nearest_ofRatio_false m (10 ^ e.natAbs) (Nat.pow_pos (by omega))
      rwa [Nat.cast_pow, Nat.cast_ofNat, div_eq_mul_inv, ← hpow] at hnearest
    · have hpow : (10 : ℚ) ^ e = 10 ^ e.natAbs := by
        rw [← zpow_natCast, show ((e.natAbs : ℕ) : ℤ) = e by omega]
      have hnearest := nearest_ofRatio_false (m * 10 ^ e.natAbs) 1 (by omega)
      rwa [Nat.cast_mul, Nat.cast_pow, Nat.cast_ofNat, Nat.cast_one, div_one, ← hpow] at hnearest

theorem ofDecimal_true (m : Nat) (e : ℤ) : ofDecimal true m e = (ofDecimal false m e).neg := by
  simp only [ofDecimal]
  split_ifs <;> first | rfl | exact ofRatio_true _ _

/-- **The rounding of a decimal is the nearest double.** -/
theorem nearest_ofDecimal (negative : Bool) (m : Nat) (e : ℤ) :
    Nearest (signed negative (m * 10 ^ e)) (ofDecimal negative m e) := by
  cases negative
  · exact nearest_ofDecimal_false m e
  · rw [ofDecimal_true]
    exact (nearest_ofDecimal_false m e).neg

/-! ### The sign -/

@[simp] theorem isNegative_ofRounded (negative : Bool) (m : Nat) (e : ℤ) :
    (ofRounded negative m e).isNegative = negative := by
  simp only [ofRounded]
  split_ifs <;> rfl

@[simp] theorem isNegative_ofRatio (negative : Bool) (num den : Nat) :
    (ofRatio negative num den).isNegative = negative := by
  simp only [ofRatio]
  split
  · rfl
  · exact isNegative_ofRounded _ _ _

/-- **Rounding keeps the sign**, also that of a zero. -/
@[simp] theorem isNegative_ofDecimal (negative : Bool) (m : Nat) (e : ℤ) :
    (ofDecimal negative m e).isNegative = negative := by
  simp only [ofDecimal]
  split_ifs <;> first | rfl | exact isNegative_ofRatio _ _ _

end Colonnade.Double
