import Colonnade.Number.Decimal
import Colonnade.Proofs.Double.Nearest

/-!
# The decimal of a double

A double is `± m · 2^e`, and its decimal is found by turning the power of two into one of ten, a factor at a
time. What comes out of this is said here without the steps:

* `Decimal.exists_ofDouble?_iff` – a double has a decimal if it is finite and its magnitude is at most `2^96`;
* `Decimal.standsFor_of_ofDouble?` – and the decimal stands for the double (`Decimal.StandsFor`): it is the
  number rounded to the places that 52 bits have room for, without zeros at the end of them.

The number is followed through the steps by two relations. While the powers are exchanged a mantissa that is
full loses at most one part in `2^93` at a step (`Keeps`); where places are dropped, each of them is rounded,
and all together are off by less than five ninths of the last place that remains (`Shortened`).
-/

namespace Colonnade

open Number

/-- **A double within the range of decimals.** The bound itself is one more than the greatest decimal, and is
the only number beyond it for which a decimal is found. -/
def Double.WithinDecimals (x : Double) : Prop :=
  x.isFinite = true ∧ |x.toRat| ≤ 2 ^ 96

namespace Decimal

/-- **The value of a decimal.** -/
def toRat (d : Decimal) : ℚ :=
  Double.signed d.negative (d.mantissa / 10 ^ d.scale)

/-- **The decimal that stands for a double.** -/
structure StandsFor (d : Decimal) (x : Double) : Prop where
  within : x.WithinDecimals
  /-- The sign is kept, also that of a zero. -/
  negative_eq : d.mantissa ≠ 0 ∨ x.toRat = 0 → d.negative = x.isNegative
  /-- Nothing but a number below the last of all places becomes zero, without its sign. -/
  vanished : d.mantissa = 0 → x.toRat ≠ 0 → d.negative = false ∧ |x.toRat| < 1 / 10 ^ maxScale
  /-- The number is rounded, to within three fifths of a place, at each place before which there is room for
  another digit in 52 bits, and to an integer in any case. -/
  near : d.mantissa ≠ 0 → |x.toRat| < 2 ^ 96 → ∀ places ≤ maxScale,
    places = 0 ∨ 10 * (|x.toRat| * 10 ^ places + 1) ≤ Double.implicitBit →
      |x.toRat - d.toRat| * 10 ^ places ≤ 3 / 5
  /-- At the bound the mantissa is the greatest multiple of ten. -/
  greatest : |x.toRat| = 2 ^ 96 → d.mantissa = 2 ^ 96 - 6 ∧ d.scale = 0
  /-- There is no place more than is needed, and all digits together have 52 bits if there is one. -/
  short : d.scale ≠ 0 → d.mantissa < Double.implicitBit ∧ d.mantissa % 10 ≠ 0

/-! ### Exchanging the powers -/

/-- **A value of which little is lost**: at most `k` parts in `2^93`. -/
def Keeps (k : ℕ) (v w : ℚ) : Prop :=
  w ≤ v ∧ v - w ≤ k / 2 ^ 93 * v

theorem keeps_refl {k : ℕ} {v : ℚ} (hv : 0 ≤ v) : Keeps k v v :=
  ⟨le_rfl, by rw [sub_self]; positivity⟩

theorem Keeps.trans {j k : ℕ} {v u w : ℚ} (h : Keeps j v u) (h' : Keeps k u w) : Keeps (j + k) v w := by
  obtain ⟨hle, hloss⟩ := h
  obtain ⟨hle', hloss'⟩ := h'
  have hless : (k : ℚ) / 2 ^ 93 * u ≤ k / 2 ^ 93 * v := mul_le_mul_of_nonneg_left hle (by positivity)
  refine ⟨hle'.trans hle, ?_⟩
  calc v - w = (v - u) + (u - w) := by ring
    _ ≤ j / 2 ^ 93 * v + k / 2 ^ 93 * v := add_le_add hloss (hloss'.trans hless)
    _ = ((j + k : ℕ) : ℚ) / 2 ^ 93 * v := by push_cast; ring

theorem Keeps.mul_right {k : ℕ} {v w : ℚ} (h : Keeps k v w) {c : ℚ} (hc : 0 ≤ c) :
    Keeps k (v * c) (w * c) := by
  refine ⟨mul_le_mul_of_nonneg_right h.1 hc, ?_⟩
  rw [← sub_mul, ← mul_assoc]
  exact mul_le_mul_of_nonneg_right h.2 hc

/-- **A full mantissa loses little by a division** with a rest. -/
theorem keeps_mul_div {m d : ℕ} (h : m % d * 2 ^ 93 ≤ m) : Keeps 1 (m : ℚ) ((d * (m / d) : ℕ) : ℚ) := by
  have hsplit : (m : ℚ) = (d * (m / d) : ℕ) + (m % d : ℕ) := by exact_mod_cast (Nat.div_add_mod m d).symm
  have hrest : ((m % d : ℕ) : ℚ) * 2 ^ 93 ≤ m := by exact_mod_cast h
  have hloss : (m : ℚ) - (d * (m / d) : ℕ) = (m % d : ℕ) := by linarith
  refine ⟨by exact_mod_cast Nat.mul_div_le m d, ?_⟩
  rw [hloss, Nat.cast_one, div_mul_eq_mul_div, one_mul, le_div_iff₀ (by positivity)]
  exact hrest

theorem Keeps.mono {j k : ℕ} {v w : ℚ} (h : Keeps j v w) (hv : 0 ≤ v) (hjk : j ≤ k) : Keeps k v w := by
  have hparts : (j : ℚ) / 2 ^ 93 ≤ k / 2 ^ 93 :=
    div_le_div_of_nonneg_right (by exact_mod_cast hjk) (by positivity)
  exact ⟨h.1, h.2.trans (mul_le_mul_of_nonneg_right hparts hv)⟩

theorem mantissaBound_eq : mantissaBound = 2 ^ 96 := rfl

/-- **A power of five is used up** by halvings, each of which raises the power of ten by one, and by
multiplications. -/
theorem clearFives_keeps (k : ℕ) {m : ℕ} (hm : m < mantissaBound) (x : ℤ) :
    ∃ (m' j : ℕ), clearFives k m x = (m', x + j) ∧ j ≤ k ∧ m' < mantissaBound ∧
      Keeps k (m * 5 ^ k * 10 ^ x) (m' * 10 ^ (x + j)) := by
  induction k generalizing m x with
  | zero => exact ⟨m, 0, by simp [clearFives], le_rfl, hm, by simpa using keeps_refl (by positivity)⟩
  | succ k ih =>
    -- a halving, exact or not, and what is left to do after it
    have hhalf (hrest : m % 2 * 2 ^ 93 ≤ m) :
        ∃ (m' j : ℕ), clearFives k (m / 2) (x + 1) = (m', x + j) ∧ j ≤ k + 1 ∧ m' < mantissaBound ∧
          Keeps (k + 1) (m * 5 ^ (k + 1) * 10 ^ x) (m' * 10 ^ (x + j)) := by
      obtain ⟨m', j, hclear, hj, hm', hkeeps⟩ := ih (lt_of_le_of_lt (Nat.div_le_self m 2) hm) (x + 1)
      have hpower : x + 1 + (j : ℤ) = x + ((j + 1 : ℕ) : ℤ) := by push_cast; ring
      have hvalue : ((2 * (m / 2) : ℕ) : ℚ) * (5 ^ (k + 1) * 10 ^ x) =
          ((m / 2 : ℕ) : ℚ) * 5 ^ k * 10 ^ (x + 1) := by
        rw [zpow_add_one₀ (by norm_num)]
        push_cast
        ring
      have hstep := (keeps_mul_div hrest).mul_right (c := 5 ^ (k + 1) * 10 ^ x) (by positivity)
      rw [hvalue, ← mul_assoc] at hstep
      rw [hpower] at hclear hkeeps
      have hboth := hstep.trans hkeeps
      rw [Nat.add_comm 1 k] at hboth
      exact ⟨m', j + 1, hclear, by omega, hm', hboth⟩
    rw [clearFives]
    split_ifs with heven hfits
    · exact hhalf (by omega)
    · obtain ⟨m', j, hclear, hj, hm', hkeeps⟩ := ih hfits x
      have hvalue : ((m * 5 : ℕ) : ℚ) * 5 ^ k * 10 ^ x = m * 5 ^ (k + 1) * 10 ^ x := by
        push_cast
        ring
      rw [hvalue] at hkeeps
      exact ⟨m', j, hclear, by omega, hm', hkeeps.mono (by positivity) (Nat.le_succ k)⟩
    · rw [mantissaBound_eq] at hfits
      exact hhalf (by omega)

/-- **A power of a fifth is used up** by doublings, each of which lowers the power of ten by one, as long as
they fit, and then by divisions. -/
theorem clearFifths_keeps (k : ℕ) {m : ℕ} (hm : m < mantissaBound) (x : ℤ) :
    ∃ (m' j : ℕ), clearFifths k m x = (m', x - k + j) ∧ m' < mantissaBound ∧
      (m * 2 ^ k < mantissaBound ∧ j = 0 ∧ m' = m * 2 ^ k ∨ mantissaBound ≤ m * 2 ^ k ∧ j ≠ 0) ∧
        Keeps k (m * 2 ^ k * 10 ^ (x - k)) (m' * 10 ^ (x - k + j)) := by
  induction k generalizing m x with
  | zero =>
    refine ⟨m, 0, by simp [clearFifths], hm, .inl ⟨by simpa using hm, rfl, by simp⟩, ?_⟩
    simpa using keeps_refl (by positivity)
  | succ k ih =>
    rw [clearFifths]
    split_ifs with hfits
    · obtain ⟨m', j, hclear, hm', hexact, hkeeps⟩ := ih hfits (x - 1)
      have hpower : x - 1 - (k : ℤ) = x - (k + 1 : ℕ) := by push_cast; ring
      have hmantissa : m * 2 * 2 ^ k = m * 2 ^ (k + 1) := by ring
      have hvalue : ((m * 2 : ℕ) : ℚ) * 2 ^ k = m * 2 ^ (k + 1) := by
        push_cast
        ring
      rw [hpower] at hclear hkeeps
      rw [hmantissa] at hexact
      rw [hvalue] at hkeeps
      exact ⟨m', j, hclear, hm', hexact, hkeeps.mono (by positivity) (Nat.le_succ k)⟩
    · obtain ⟨m', j, hclear, hm', -, hkeeps⟩ := ih (lt_of_le_of_lt (Nat.div_le_self m 5) hm) x
      have hpower : x - (k : ℤ) + j = x - (k + 1 : ℕ) + (j + 1 : ℕ) := by push_cast; ring
      have hfull : mantissaBound ≤ m * 2 ^ (k + 1) := by
        rw [pow_succ', ← mul_assoc]
        exact (not_lt.mp hfits).trans (Nat.le_mul_of_pos_right _ (by positivity))
      have hvalue : ((5 * (m / 5) : ℕ) : ℚ) * (2 ^ (k + 1) * 10 ^ (x - (k + 1 : ℕ))) =
          ((m / 5 : ℕ) : ℚ) * 2 ^ k * 10 ^ (x - k) := by
        rw [show x - (k : ℤ) = x - (k + 1 : ℕ) + 1 by push_cast; ring, zpow_add_one₀ (by norm_num)]
        push_cast
        ring
      have hstep := (keeps_mul_div (m := m) (d := 5) (by rw [mantissaBound_eq] at hfits; omega)).mul_right
        (c := 2 ^ (k + 1) * 10 ^ (x - (k + 1 : ℕ))) (by positivity)
      rw [hvalue, ← mul_assoc] at hstep
      have hboth := hstep.trans hkeeps
      rw [Nat.add_comm 1 k] at hboth
      rw [hpower] at hclear hboth
      exact ⟨m', j + 1, hclear, hm', .inr ⟨hfull, Nat.succ_ne_zero j⟩, hboth⟩

/-- A power of ten is multiplied in if the mantissa can take it. -/
theorem raise?_eq (k : ℕ) {m : ℕ} (hm : m < mantissaBound) :
    raise? k m = if m * 10 ^ k < mantissaBound then some (m * 10 ^ k) else none := by
  induction k generalizing m with
  | zero => simp [raise?, hm]
  | succ k ih =>
    rw [raise?]
    split_ifs with hten hall hall
    · rw [ih hten, pow_succ', ← mul_assoc, if_pos (by rwa [pow_succ', ← mul_assoc] at hall)]
    · rw [ih hten, if_neg (by rwa [pow_succ', ← mul_assoc] at hall)]
    · refine absurd (lt_of_le_of_lt ?_ hall) hten
      rw [pow_succ', ← mul_assoc]
      exact Nat.le_mul_of_pos_right _ (by positivity)
    · rfl

/-! ### Dropping places -/

/-- **A mantissa without its last `k` places**, each of which has been rounded away. -/
def Shortened (k m n : ℕ) : Prop :=
  |(n : ℚ) - m / 10 ^ k| ≤ 5 / 9 * (1 - 1 / 10 ^ k)

theorem shortened_zero (m : ℕ) : Shortened 0 m m := by
  simp [Shortened]

theorem roundHalfUp_ten (m : ℕ) :
    10 * roundHalfUp m 10 ≤ m + 5 ∧ m ≤ 10 * roundHalfUp m 10 + 4 := by
  simp only [roundHalfUp]
  split_ifs <;> omega

theorem shortened_roundHalfUp (m : ℕ) : Shortened 1 m (roundHalfUp m 10) := by
  obtain ⟨hhigh, hlow⟩ := roundHalfUp_ten m
  have hhighq : 10 * (roundHalfUp m 10 : ℚ) ≤ m + 5 := by exact_mod_cast hhigh
  have hlowq : (m : ℚ) ≤ 10 * roundHalfUp m 10 + 4 := by exact_mod_cast hlow
  rw [Shortened, pow_one, abs_le]
  constructor <;> linarith

/-- **Errors of rounding add up to less than five ninths**, for each of them counts a tenth of the next. -/
theorem Shortened.trans {j k m n l : ℕ} (h : Shortened j m n) (h' : Shortened k n l) :
    Shortened (j + k) m l := by
  have hscaled : |(n : ℚ) / 10 ^ k - m / 10 ^ (j + k)| ≤ 5 / 9 * (1 - 1 / 10 ^ j) / 10 ^ k := by
    have heq : (n : ℚ) / 10 ^ k - m / 10 ^ (j + k) = (n - m / 10 ^ j) / 10 ^ k := by
      rw [pow_add, sub_div, div_div]
    rw [heq, abs_div, abs_of_pos (by positivity : (0 : ℚ) < 10 ^ k)]
    exact div_le_div_of_nonneg_right h (by positivity)
  calc |(l : ℚ) - m / 10 ^ (j + k)| ≤ |(l : ℚ) - n / 10 ^ k| + |(n : ℚ) / 10 ^ k - m / 10 ^ (j + k)| :=
        abs_sub_le _ _ _
    _ ≤ 5 / 9 * (1 - 1 / 10 ^ k) + 5 / 9 * (1 - 1 / 10 ^ j) / 10 ^ k := add_le_add h' hscaled
    _ = 5 / 9 * (1 - 1 / 10 ^ (j + k)) := by
      rw [pow_add]
      field_simp
      ring

/-- **Places beyond the last are dropped**, and nothing is left of a mantissa that is less than one without
them. -/
theorem dropPlaces_cases (k m places : ℕ) :
    dropPlaces k m (places + k) = (0, 0) ∧ 18 * m + 8 ≤ 17 * 10 ^ k ∨
      ∃ n, dropPlaces k m (places + k) = (n, places) ∧ Shortened k m n ∧ n ≤ m ∧ (m ≠ 0 → n ≠ 0) := by
  induction k generalizing m with
  | zero => exact .inr ⟨m, rfl, shortened_zero m, le_rfl, id⟩
  | succ k ih =>
    obtain ⟨hhigh, hlow⟩ := roundHalfUp_ten m
    rw [dropPlaces]
    split_ifs with hlast
    · have hpow : 10 ≤ 10 ^ (k + 1) := Nat.le_self_pow (by omega) 10
      exact .inl ⟨rfl, by omega⟩
    · rw [show places + (k + 1) - 1 = places + k by omega]
      rcases ih (roundHalfUp m 10) with ⟨hzero, hsmall⟩ | ⟨n, hn, hshort, hle, hne⟩
      · exact .inl ⟨hzero, by rw [pow_succ']; omega⟩
      · refine .inr ⟨n, hn, ?_, by omega, fun _ => hne (by omega)⟩
        rw [Nat.add_comm]
        exact (shortened_roundHalfUp m).trans hshort

/-- **Places are dropped while there are more than 52 bits.** -/
theorem dropExcess_cases (m places : ℕ) :
    ∃ n p k, dropExcess m places = (n, p) ∧ places = p + k ∧ Shortened k m n ∧ n ≤ m ∧ (m ≠ 0 → n ≠ 0) ∧
      (p ≠ 0 → n < Double.implicitBit) ∧ (k ≠ 0 → Double.implicitBit ≤ 10 * n + 4) := by
  induction places generalizing m with
  | zero => exact ⟨m, 0, 0, rfl, rfl, shortened_zero m, le_rfl, id, by simp, by simp⟩
  | succ places ih =>
    obtain ⟨hhigh, hlow⟩ := roundHalfUp_ten m
    rw [dropExcess]
    split_ifs with hfull
    · obtain ⟨n, p, k, hdrop, hplaces, hshort, hle, hne, hbits, hdropped⟩ := ih (roundHalfUp m 10)
      have hten : 10 ≤ Double.implicitBit := by decide
      refine ⟨n, p, k + 1, hdrop, by omega, ?_, by omega, fun _ => hne (by omega), hbits, fun _ => ?_⟩
      · rw [Nat.add_comm]
        exact (shortened_roundHalfUp m).trans hshort
      · by_cases hk : k = 0
        · -- nothing else was dropped, so what is left comes from a full mantissa
          subst hk
          have hsame : n = roundHalfUp m 10 := by
            have hzero : |(n : ℚ) - roundHalfUp m 10| ≤ 0 := by simpa [Shortened] using hshort
            exact_mod_cast sub_eq_zero.mp (abs_nonpos_iff.mp hzero)
          omega
        · exact hdropped hk
    · exact ⟨m, places + 1, 0, rfl, rfl, shortened_zero m, le_rfl, id, fun _ => not_le.mp hfull, by simp⟩

/-- **Zeros at the end of the places are dropped.** -/
theorem dropZeros_cases (m places : ℕ) :
    ∃ n p k, dropZeros m places = (n, p) ∧ places = p + k ∧ m = n * 10 ^ k ∧ (p ≠ 0 → n % 10 ≠ 0) := by
  induction places generalizing m with
  | zero => exact ⟨m, 0, 0, rfl, rfl, by simp, by simp⟩
  | succ places ih =>
    rw [dropZeros]
    split_ifs with hzero
    · obtain ⟨n, p, k, hdrop, hplaces, hm, hlast⟩ := ih (m / 10)
      refine ⟨n, p, k + 1, hdrop, by omega, ?_, hlast⟩
      rw [pow_succ, ← mul_assoc, ← hm]
      omega
    · exact ⟨m, places + 1, 0, rfl, rfl, by simp, fun _ => hzero⟩

/-- **What remains of a mantissa and its places** after all that can be dropped. -/
def shorten (m places : ℕ) : ℕ × ℕ :=
  let (m, places) := dropPlaces (places - maxScale) m places
  let (m, places) := dropExcess m places
  dropZeros m places

/-- **A mantissa with fewer places**: it has been rounded to some of the places, and zeros at the end of these
are left out. -/
structure Remains (m places n p : ℕ) : Prop where
  le : n ≤ m
  ne_zero : n ≠ 0
  scale_le : p ≤ maxScale
  short : p ≠ 0 → n < Double.implicitBit ∧ n % 10 ≠ 0
  /-- No place was dropped before which there was room for another digit in 52 bits. -/
  rounded : ∃ l q k : ℕ, places = q + k ∧ Shortened k m l ∧ (n : ℚ) / 10 ^ p = l / 10 ^ q ∧
    (k = 0 ∨ q = maxScale ∨ Double.implicitBit ≤ 10 * l + 4)

theorem shorten_cases {m : ℕ} (hm : m ≠ 0) (places : ℕ) :
    (shorten m places = (0, 0) ∧ ∃ k, places = maxScale + k ∧ 18 * m + 8 ≤ 17 * 10 ^ k) ∨
      ∃ n p, shorten m places = (n, p) ∧ Remains m places n p := by
  obtain ⟨q, hplaces, hq, hall⟩ : ∃ q, places = q + (places - maxScale) ∧ q ≤ maxScale ∧
      (places - maxScale = 0 ∨ q = maxScale) :=
    ⟨min places maxScale, by omega, by omega, by omega⟩
  have hdrop := dropPlaces_cases (places - maxScale) m q
  rw [← hplaces] at hdrop
  rcases hdrop with ⟨hzero, hsmall⟩ | ⟨l, hl, hshort, hle, hne⟩
  · have hmany : places - maxScale ≠ 0 := by
      intro h
      rw [h] at hsmall
      omega
    refine .inl ⟨?_, places - maxScale, by omega, hsmall⟩
    simp only [shorten, hzero]
    rfl
  · obtain ⟨l', q', k, hexcess, hq', hshort', hle', hne', hbits, hfull⟩ := dropExcess_cases l q
    obtain ⟨n, p, z, hzeros, hp, hl', hlast⟩ := dropZeros_cases l' q'
    have hn : n ≤ l' := hl' ▸ Nat.le_mul_of_pos_right n (by positivity)
    refine .inr ⟨n, p, by simp only [shorten, hl, hexcess, hzeros], by omega, ?_, by omega,
      fun hp0 => ⟨lt_of_le_of_lt hn (hbits (by omega)), hlast hp0⟩,
      l', q', places - maxScale + k, by omega, hshort.trans hshort', ?_, ?_⟩
    · rintro rfl
      exact hne' (hne hm) (by rw [hl', Nat.zero_mul])
    · rw [hl', hp, pow_add, Nat.cast_mul, Nat.cast_pow, Nat.cast_ofNat,
        mul_div_mul_right _ _ (by positivity)]
    · by_cases hk : k = 0
      · rcases hall with hall | hall
        · exact .inl (by omega)
        · exact .inr (.inl (by omega))
      · exact .inr (.inr (hfull hk))

/-- What is lost on the way is little at every place within 53 bits. -/
theorem Keeps.loss_le {v u : ℚ} (h : Keeps 1074 v u) {i : ℕ} (hdigits : v * 10 ^ i ≤ 2 ^ 53) :
    (v - u) * 10 ^ i ≤ 2 / 45 :=
  calc (v - u) * 10 ^ i ≤ (1074 : ℕ) / 2 ^ 93 * v * 10 ^ i := mul_le_mul_of_nonneg_right h.2 (by positivity)
    _ = (1074 : ℕ) / 2 ^ 93 * (v * 10 ^ i) := mul_assoc _ _ _
    _ ≤ (1074 : ℕ) / 2 ^ 93 * 2 ^ 53 := mul_le_mul_of_nonneg_left hdigits (by positivity)
    _ ≤ 2 / 45 := by norm_num

/-- The error of rounding at the places that are kept, and at all places if none is dropped. -/
theorem Shortened.error_le {k m l : ℕ} (h : Shortened k m l) {q i : ℕ} (hplace : k = 0 ∨ i ≤ q) :
    |(m : ℚ) / 10 ^ (q + k) - l / 10 ^ q| * 10 ^ i ≤ 5 / 9 := by
  have hscale : |(m : ℚ) / 10 ^ (q + k) - l / 10 ^ q| = |(l : ℚ) - m / 10 ^ k| / 10 ^ q := by
    have hpower : (0 : ℚ) < 10 ^ q := by positivity
    rw [abs_sub_comm, ← abs_of_pos hpower, ← abs_div, abs_of_pos hpower, sub_div, div_div,
      Nat.add_comm, pow_add]
  have hk : (0 : ℚ) < 1 / 10 ^ k := by positivity
  rw [Shortened] at h
  rw [hscale, div_mul_eq_mul_div, div_le_iff₀ (by positivity)]
  rcases hplace with rfl | hiq
  · have hexact : |(l : ℚ) - m / 10 ^ 0| ≤ 0 := by simpa using h
    rw [le_antisymm hexact (abs_nonneg _), zero_mul]
    positivity
  · exact mul_le_mul (by linarith) (pow_le_pow_right₀ (by norm_num) hiq) (by positivity) (by norm_num)

/-- **What remains is the number, rounded** at each place before which there is room for another digit. -/
theorem Remains.near {m places n p : ℕ} (h : Remains m places n p) {v : ℚ}
    (hkeeps : Keeps 1074 v (m / 10 ^ places)) (hv : 0 < v) (hsize : v < 2 ^ 53) {i : ℕ} (hi : i ≤ maxScale)
    (hroom : i = 0 ∨ 10 * (v * 10 ^ i + 1) ≤ Double.implicitBit) : |v - n / 10 ^ p| * 10 ^ i ≤ 3 / 5 := by
  obtain ⟨l, q, k, rfl, hshort, hvalue, hfull⟩ := h.rounded
  have hle := hkeeps.1
  -- a place that was dropped is none before which there was room
  have hplace : k = 0 ∨ i ≤ q := by
    rcases hfull with hzero | hlast | hfull
    · exact .inl hzero
    · exact .inr (hlast ▸ hi)
    rcases hroom with rfl | hroom
    · exact .inr (Nat.zero_le q)
    right
    by_contra hlt
    have hfullq : (Double.implicitBit : ℚ) ≤ 10 * l + 4 := by exact_mod_cast hfull
    have hpower : (0 : ℚ) < 10 ^ q := by positivity
    have hl : |(m : ℚ) / 10 ^ (q + k) - l / 10 ^ q| * 10 ^ q ≤ 5 / 9 := hshort.error_le (.inr le_rfl)
    have hbelow := mul_le_mul_of_nonneg_right (neg_abs_le ((m : ℚ) / 10 ^ (q + k) - l / 10 ^ q)) hpower.le
    rw [sub_mul, div_mul_cancel₀ _ hpower.ne'] at hbelow
    have hlessq := mul_le_mul_of_nonneg_right hle hpower.le
    have hstep : v * 10 ^ q ≤ v * 10 ^ i :=
      mul_le_mul_of_nonneg_left (pow_le_pow_right₀ (by norm_num) (by omega)) hv.le
    linarith
  have hdigits : v * 10 ^ i ≤ 2 ^ 53 := by
    rcases hroom with rfl | hroom
    · rw [pow_zero, mul_one]
      exact hsize.le
    · have hbits : (Double.implicitBit : ℚ) = 2 ^ 52 := by norm_num [Double.implicitBit]
      rw [hbits] at hroom
      linarith
  calc |v - n / 10 ^ p| * 10 ^ i
      ≤ (|v - m / 10 ^ (q + k)| + |(m : ℚ) / 10 ^ (q + k) - l / 10 ^ q|) * 10 ^ i := by
        rw [hvalue]
        exact mul_le_mul_of_nonneg_right (abs_sub_le _ _ _) (by positivity)
    _ = (v - m / 10 ^ (q + k)) * 10 ^ i + |(m : ℚ) / 10 ^ (q + k) - l / 10 ^ q| * 10 ^ i := by
        rw [add_mul, abs_of_nonneg (sub_nonneg.mpr hle)]
    _ ≤ 2 / 45 + 5 / 9 := add_le_add (hkeeps.loss_le hdigits) (hshort.error_le hplace)
    _ = 3 / 5 := by norm_num

/-- **Nothing remains of a number only if it is below the last place.** -/
theorem lt_of_vanished {m k : ℕ} (h : 18 * m + 8 ≤ 17 * 10 ^ k) {v : ℚ}
    (hkeeps : Keeps 1074 v (m / 10 ^ (maxScale + k))) : v < 1 / 10 ^ maxScale := by
  have hm : (m : ℚ) / 10 ^ (maxScale + k) ≤ 17 / 18 * (1 / 10 ^ maxScale) := by
    have hcast : 18 * (m : ℚ) + 8 ≤ 17 * 10 ^ k := by exact_mod_cast h
    rw [pow_add, mul_comm (10 ^ maxScale : ℚ), ← div_div, ← mul_one_div _ ((10 : ℚ) ^ maxScale)]
    refine mul_le_mul_of_nonneg_right ?_ (by positivity)
    rw [div_le_iff₀ (by positivity)]
    linarith
  have hplace : (0 : ℚ) < 1 / 10 ^ maxScale := by positivity
  have hloss := hkeeps.2
  norm_num at hloss
  linarith

/-! ### The decimal -/

section

variable {negative : Bool} {m : ℕ} {e : ℤ}

theorem abs_toRat_finite : |(Double.finite negative m e).toRat| = m * 2 ^ e := by
  rw [Double.toRat, Double.abs_signed, abs_of_nonneg (by positivity)]

/-- Two numbers of one sign are as far from each other as their magnitudes. -/
theorem abs_signed_sub_signed (negative : Bool) (q r : ℚ) :
    |Double.signed negative q - Double.signed negative r| = |q - r| := by
  cases negative
  · rfl
  · rw [Double.signed_true, Double.signed_true, neg_sub_neg, abs_sub_comm]

/-- No power of ten is left to multiply with, so the mantissa is shortened. -/
theorem ofDouble?_eq_shorten (hm : m ≠ 0) {m' : ℕ} {x : ℤ}
    (hclear : (if e < 0 then clearFives e.natAbs m e else clearFifths e.natAbs m e) = (m', x)) (hx : x ≤ 0) :
    ofDouble? (.finite negative m e) = make? (negative && (shorten m' x.natAbs).1 != 0)
      (shorten m' x.natAbs).1 (shorten m' x.natAbs).2 := by
  simp only [ofDouble?, if_neg hm, hclear, if_neg (not_lt.mpr hx), shorten]

theorem mul_zpow_pos (hm : m ≠ 0) : (0 : ℚ) < m * 2 ^ e := by
  have : (0 : ℚ) < m := by exact_mod_cast Nat.pos_of_ne_zero hm
  positivity

theorem mul_zpow_lt_of_neg (hm : m < Double.mantissaBound) (he : e < 0) : (m : ℚ) * 2 ^ e < 2 ^ 53 := by
  have hless := (Double.mul_zpow_lt hm e).trans_le
    (zpow_le_zpow_right₀ (by norm_num) (show 53 + e ≤ (53 : ℕ) by omega))
  rwa [zpow_natCast] at hless

/-- **The power of two of a double with places** is exchanged for places. -/
theorem exists_clearFives (hc : (Double.finite negative m e).Canonical) (hm : m ≠ 0) (he : e < 0) :
    ∃ m' x, clearFives e.natAbs m e = (m', x) ∧ x ≤ 0 ∧ m' ≠ 0 ∧ m' < mantissaBound ∧
      Keeps 1074 (m * 2 ^ e) (m' / 10 ^ x.natAbs) := by
  obtain ⟨hbound, hmin, -, -⟩ := hc
  obtain ⟨m', j, hclear, hj, hm', hkeeps⟩ := clearFives_keeps e.natAbs (hbound.trans (by decide)) e
  have hpos := mul_zpow_pos (e := e) hm
  have hleft : (m : ℚ) * 5 ^ e.natAbs * 10 ^ e = m * 2 ^ e := by
    have hfive : (5 : ℚ) ^ e.natAbs * 5 ^ e = 1 := by
      rw [← zpow_natCast, ← zpow_add₀ (by norm_num), show (e.natAbs : ℤ) + e = 0 by omega, zpow_zero]
    rw [show (10 : ℚ) = 5 * 2 by norm_num, mul_zpow, mul_assoc, ← mul_assoc (5 ^ e.natAbs), hfive, one_mul]
  have hright : (10 : ℚ) ^ (e + j) = 1 / 10 ^ (e + j).natAbs := by
    rw [one_div, ← zpow_natCast, ← zpow_neg]
    congr 1
    omega
  have hsteps : e.natAbs ≤ 1074 := by
    simp only [Double.minExponent] at hmin
    omega
  rw [hleft, hright, mul_one_div] at hkeeps
  have hkeeps := hkeeps.mono hpos.le hsteps
  refine ⟨m', e + j, hclear, by omega, ?_, hm', hkeeps⟩
  rintro rfl
  have hloss := hkeeps.2
  rw [Nat.cast_zero, zero_div, sub_zero] at hloss
  linarith

/-- **A double with places** has a decimal, the number rounded. -/
theorem exists_standsFor_of_places (hc : (Double.finite negative m e).Canonical) (hm : m ≠ 0) (he : e < 0) :
    ∃ d, ofDouble? (.finite negative m e) = some d ∧ d.StandsFor (.finite negative m e) := by
  obtain ⟨m', x, hclear, hx, hm0, hm', hkeeps⟩ := exists_clearFives hc hm he
  have hsize := mul_zpow_lt_of_neg hc.1 he
  have hvalue : |(Double.finite negative m e).toRat| = m * 2 ^ e := abs_toRat_finite
  have hpos := mul_zpow_pos (e := e) hm
  have hne : (Double.finite negative m e).toRat ≠ 0 := by
    rw [← abs_pos, hvalue]
    exact hpos
  have hless : |(Double.finite negative m e).toRat| < 2 ^ 96 := by
    rw [hvalue]
    exact hsize.trans (by norm_num)
  rw [ofDouble?_eq_shorten hm (by rw [if_pos he, hclear]) hx]
  rcases shorten_cases hm0 x.natAbs with ⟨hzero, k, hplaces, hsmall⟩ | ⟨n, p, hn, hremains⟩
  · rw [hzero]
    have hvanished : |(Double.finite negative m e).toRat| < 1 / 10 ^ maxScale := by
      rw [hvalue]
      exact lt_of_vanished hsmall (hplaces ▸ hkeeps)
    exact ⟨_, dif_pos (by decide), {
      within := ⟨rfl, hless.le⟩
      negative_eq := fun h => absurd h (not_or.mpr ⟨fun h => h rfl, hne⟩)
      vanished := fun _ _ => ⟨Bool.and_false _, hvanished⟩
      near := fun h => absurd rfl h
      greatest := fun h => absurd h hless.ne
      short := fun h => absurd rfl h }⟩
  · rw [hn]
    have hsign : (negative && n != 0) = negative := by simp [hremains.ne_zero]
    refine ⟨_, dif_pos ⟨hremains.le.trans_lt hm', hremains.scale_le⟩, {
      within := ⟨rfl, hless.le⟩
      negative_eq := fun _ => hsign
      vanished := fun h => absurd h hremains.ne_zero
      near := fun _ _ i hi hroom => ?_
      greatest := fun h => absurd h hless.ne
      short := hremains.short }⟩
    rw [hvalue] at hroom
    simp only [toRat, Double.toRat, hsign, abs_signed_sub_signed]
    exact hremains.near hkeeps hpos hsize hi hroom

theorem natCast_mul_two_pow (he : 0 ≤ e) : ((m * 2 ^ e.natAbs : ℕ) : ℚ) = m * 2 ^ e := by
  rw [Nat.cast_mul, Nat.cast_pow, Nat.cast_ofNat, ← zpow_natCast, Int.natAbs_of_nonneg he]

/-- **An integer of 96 bits** is its own decimal. -/
theorem exists_standsFor_of_integer (hm : m ≠ 0) (he : 0 ≤ e) (hfits : m * 2 ^ e.natAbs < mantissaBound) :
    ∃ d, ofDouble? (.finite negative m e) = some d ∧ d.StandsFor (.finite negative m e) := by
  have hm96 : m < mantissaBound := lt_of_le_of_lt (Nat.le_mul_of_pos_right m (by positivity)) hfits
  obtain ⟨m', j, hclear, -, ⟨-, rfl, rfl⟩ | ⟨hfull, -⟩, -⟩ := clearFifths_keeps e.natAbs hm96 e
  · have hx : e - e.natAbs + (0 : ℕ) = 0 := by omega
    rw [hx] at hclear
    have hvalue : (m : ℚ) * 2 ^ e = (m * 2 ^ e.natAbs : ℕ) := (natCast_mul_two_pow he).symm
    have hm0 : m * 2 ^ e.natAbs ≠ 0 := Nat.mul_ne_zero hm (by positivity)
    have hsign : (negative && m * 2 ^ e.natAbs != 0) = negative := by simp [hm]
    have hshort : shorten (m * 2 ^ e.natAbs) (Int.natAbs 0) = (m * 2 ^ e.natAbs, 0) := rfl
    rw [ofDouble?_eq_shorten hm (by rw [if_neg (not_lt.mpr he), hclear]) le_rfl, hshort]
    have hless : |(Double.finite negative m e).toRat| < 2 ^ 96 := by
      rw [abs_toRat_finite, hvalue]
      exact_mod_cast hfits
    refine ⟨_, dif_pos ⟨hfits, Nat.zero_le _⟩, {
      within := ⟨rfl, hless.le⟩
      negative_eq := fun _ => hsign
      vanished := fun h => absurd h hm0
      near := fun _ _ i _ _ => ?_
      greatest := fun h => absurd h hless.ne
      short := fun h => absurd rfl h }⟩
    simp only [toRat, Double.toRat, hsign, abs_signed_sub_signed]
    rw [hvalue, pow_zero, div_one, sub_self, abs_zero, zero_mul]
    norm_num
  · exact absurd hfits (not_lt.mpr hfull)

/-- **The bound** gives the greatest multiple of ten that fits. -/
theorem exists_standsFor_of_bound : ∃ d, ofDouble? (.finite negative (2 ^ 52) 44) = some d ∧
    d.StandsFor (.finite negative (2 ^ 52) 44) := by
  have hvalue : |(Double.finite negative (2 ^ 52) 44).toRat| = 2 ^ 96 := by
    rw [abs_toRat_finite]
    norm_num
  exact ⟨⟨negative, 2 ^ 96 - 6, 0, by decide, by decide⟩, by cases negative <;> decide +kernel, {
    within := ⟨rfl, hvalue.le⟩
    negative_eq := fun _ => rfl
    vanished := fun h => absurd h (by norm_num)
    near := fun _ h => absurd hvalue h.ne
    greatest := fun _ => ⟨rfl, rfl⟩
    short := fun h => absurd rfl h }⟩

/-- From the bound on the doubles are multiples of `2^44`. -/
theorem exists_eq_mul_of_bound_le (hm : m < Double.mantissaBound) {k : ℕ} (h : 2 ^ 96 ≤ m * 2 ^ k) :
    ∃ i, k = 44 + i ∧ m * 2 ^ k = m * 2 ^ i * 2 ^ 44 := by
  have hk : 44 ≤ k := by
    by_contra hlt
    have hm : m < 2 ^ 53 := hm
    have hpow : 2 ^ k ≤ 2 ^ 43 := Nat.pow_le_pow_right (by norm_num) (by omega)
    have hless : m * 2 ^ k ≤ m * 2 ^ 43 := Nat.mul_le_mul_left m hpow
    omega
  obtain ⟨i, rfl⟩ := Nat.exists_eq_add_of_le hk
  exact ⟨i, rfl, by rw [pow_add]; ring⟩

/-- **A double beyond the bound** has no decimal: the next after it is so much greater that what is lost on the
way does not matter. -/
theorem ofDouble?_eq_none (hc : (Double.finite negative m e).Canonical) (he : 0 ≤ e)
    (hgreater : 2 ^ 96 < m * 2 ^ e.natAbs) : ofDouble? (.finite negative m e) = none := by
  obtain ⟨hbound, -, hmax, -⟩ := hc
  have hm : m ≠ 0 := by
    rintro rfl
    simp at hgreater
  obtain ⟨m', j, hclear, hm', ⟨hfits, -⟩ | ⟨-, hj⟩, hkeeps⟩ :=
    clearFifths_keeps e.natAbs (hbound.trans (by decide)) e
  · exact absurd hfits (not_lt.mpr hgreater.le)
  · have hx : e - e.natAbs + j = j := by omega
    have hzero : e - e.natAbs = 0 := by omega
    rw [hx] at hclear
    rw [hx, hzero, zpow_zero, mul_one, zpow_natCast] at hkeeps
    have hnext : 2 ^ 96 + 2 ^ 44 ≤ m * 2 ^ e.natAbs := by
      obtain ⟨i, -, heq⟩ := exists_eq_mul_of_bound_le hbound hgreater.le
      omega
    have hfull : ¬m' * 10 ^ j < mantissaBound := by
      intro hless
      have hsteps : e.natAbs ≤ 971 := by
        simp only [Double.maxExponent] at hmax
        omega
      obtain ⟨-, hloss⟩ := hkeeps.mono (by positivity) hsteps
      have hnextq : (2 : ℚ) ^ 96 + 2 ^ 44 ≤ m * 2 ^ e.natAbs := by exact_mod_cast hnext
      have hlessq : (m' : ℚ) * 10 ^ j < 2 ^ 96 := by exact_mod_cast hless
      norm_num at hloss hnextq hlessq
      linarith
    simp only [ofDouble?, if_neg hm, if_neg (not_lt.mpr he), hclear, Int.natAbs_natCast, raise?_eq j hm',
      if_neg hfull]
    exact if_pos (by omega)

/-- A full mantissa that is raised to the bound is the least. -/
theorem eq_of_mul_eq_bound (hm : m < Double.mantissaBound) (hfull : Double.implicitBit ≤ m) {k : ℕ}
    (h : m * 2 ^ k = 2 ^ 96) : m = 2 ^ 52 ∧ k = 44 := by
  obtain ⟨i, hi, hmul⟩ := exists_eq_mul_of_bound_le hm h.ge
  have hfull : 2 ^ 52 ≤ m := hfull
  have hproduct : m * 2 ^ i = 2 ^ 52 := by omega
  have hleast : m = 2 ^ 52 := le_antisymm (hproduct ▸ Nat.le_mul_of_pos_right m (by positivity)) hfull
  have hone : 2 ^ i = 1 := by
    rw [hleast] at hproduct
    omega
  have hi0 : i = 0 := (Nat.pow_eq_one.mp hone).resolve_left (by norm_num)
  exact ⟨hleast, by omega⟩

end

/-- **The decimal of a double stands for it**, and there is none only beyond the range of decimals. -/
theorem ofDouble?_cases {x : Double} (hx : x.Canonical) :
    (∃ d, ofDouble? x = some d ∧ d.StandsFor x) ∨ ¬x.WithinDecimals ∧ ofDouble? x = none := by
  cases x with
  | nan => exact .inr ⟨fun h => absurd h.1 (by decide), rfl⟩
  | infinite negative => exact .inr ⟨fun h => absurd h.1 (by cases negative <;> decide), rfl⟩
  | finite negative m e =>
    by_cases hm : m = 0
    · subst hm
      have hzero : (Double.finite negative 0 e).toRat = 0 := by cases negative <;> simp [Double.toRat]
      have hless : |(Double.finite negative 0 e).toRat| < 2 ^ 96 := by
        rw [hzero]
        norm_num
      exact .inl ⟨⟨negative, 0, 0, by decide, by decide⟩, rfl, {
        within := ⟨rfl, hless.le⟩
        negative_eq := fun _ => rfl
        vanished := fun _ h => absurd hzero h
        near := fun h => absurd rfl h
        greatest := fun h => absurd h hless.ne
        short := fun h => absurd rfl h }⟩
    rcases lt_or_ge e 0 with he | he
    · exact .inl (exists_standsFor_of_places hx hm he)
    · rcases lt_trichotomy (m * 2 ^ e.natAbs) (2 ^ 96) with hlt | heq | hgt
      · exact .inl (exists_standsFor_of_integer hm he hlt)
      · obtain ⟨hbound, -, -, hfull⟩ := hx
        have hfull : Double.implicitBit ≤ m := hfull.resolve_right (by simp only [Double.minExponent]; omega)
        obtain ⟨rfl, he44⟩ := eq_of_mul_eq_bound hbound hfull heq
        obtain rfl : e = 44 := by omega
        exact .inl exists_standsFor_of_bound
      · have hgreater : (2 : ℚ) ^ 96 < m * 2 ^ e := by
          rw [← natCast_mul_two_pow he]
          exact_mod_cast hgt
        refine .inr ⟨fun h => ?_, ofDouble?_eq_none hx he hgt⟩
        exact absurd hgreater (not_lt.mpr (abs_toRat_finite ▸ h.2))

/-- **A double has a decimal if and only if it is within the range of decimals**, -/
theorem exists_ofDouble?_iff {x : Double} (hx : x.Canonical) :
    (∃ d, ofDouble? x = some d) ↔ x.WithinDecimals := by
  rcases ofDouble?_cases hx with ⟨d, hd, hstands⟩ | ⟨hbeyond, hnone⟩
  · exact iff_of_true ⟨d, hd⟩ hstands.within
  · exact iff_of_false (by simp [hnone]) hbeyond

/-- **which stands for it.** -/
theorem standsFor_of_ofDouble? {x : Double} (hx : x.Canonical) {d : Decimal} (h : ofDouble? x = some d) :
    d.StandsFor x := by
  rcases ofDouble?_cases hx with ⟨d', hd', hstands⟩ | ⟨-, hnone⟩
  · exact Option.some.inj (h.symm.trans hd') ▸ hstands
  · rw [hnone] at h
    cases h

end Decimal

end Colonnade
