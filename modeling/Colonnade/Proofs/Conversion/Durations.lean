import Colonnade.Proofs.Conversion.Digits
import Colonnade.Proofs.Duration.Exact

/-!
# Durations that are read back

A duration is written in one shape of the ISO form, `[-]PT<seconds>[.<fraction>]S`, and
`P0D` if it is zero. Reading it goes through the whole grammar: there are neither days nor
hours nor minutes in front of the `S` (`clockComponents?_seconds`), and the fraction, which
was cut off behind its last digit that is not zero, still denotes the same nanoseconds
(`fractionDigits_spec`). So one component is found whose nanoseconds are the magnitude that
was written (`isoComponents?_magnitude`), and the sign in front gives the duration back, up
to the least and the greatest of 64 bits (`ofText?_text`).
-/

namespace Colonnade.Duration

open Number

/-! ### The fraction -/

/-- Only zeros are cut off a fraction. -/
theorem fractionDigits_append (f : Nat) :
    ∃ zeros, fractionDigits f ++ List.replicate zeros '0' = padZeros 9 (digitsOf f) := by
  generalize hds : padZeros 9 (digitsOf f) = ds
  have hzeros (c : Char) (hc : c ∈ (ds.reverse.takeWhile (· == '0')).reverse) : c = '0' := by
    simpa using List.all_eq_true.1 List.all_takeWhile c (List.mem_reverse.1 hc)
  refine ⟨(ds.reverse.takeWhile (· == '0')).reverse.length, ?_⟩
  rw [← List.eq_replicate_of_mem hzeros, fractionDigits, hds, ← List.reverse_append,
    List.takeWhile_append_dropWhile, List.reverse_reverse]

/-- **The digits of a fraction** denote as many billionths as were written. -/
theorem fractionDigits_spec {f : Nat} (hpos : f ≠ 0) (hf : f < 10 ^ 9) :
    Spells (fractionDigits f) (valueOf (fractionDigits f)) ∧ (fractionDigits f).length ≤ 9 ∧
      valueOf (fractionDigits f) * 10 ^ 9 / 10 ^ (fractionDigits f).length = f := by
  obtain ⟨zeros, happend⟩ := fractionDigits_append f
  generalize fractionDigits f = ds at happend ⊢
  have hspells := spells_padZeros_digitsOf 9 f
  have hlength : ds.length + zeros = 9 := by
    have hnine : (padZeros 9 (digitsOf f)).length = 9 := length_padZeros_digitsOf (by omega) hf
    rw [← happend] at hnine
    simpa using hnine
  have hvalue : valueOf ds * 10 ^ zeros = f := by
    have hwhole := hspells.value
    rw [← happend, valueOf_append, valueOf_replicate_zero] at hwhole
    simpa using hwhole
  have hne : ds ≠ [] := by
    rintro rfl
    exact hpos (by simpa [valueOf] using hvalue.symm)
  refine ⟨⟨hne, fun c hc => ?_, rfl⟩, by omega, ?_⟩
  · exact hspells.digits c (by rw [← happend]; exact List.mem_append_left _ hc)
  · calc valueOf ds * 10 ^ 9 / 10 ^ ds.length
        = valueOf ds * 10 ^ zeros * 10 ^ ds.length / 10 ^ ds.length := by
          rw [Nat.mul_assoc, ← Nat.pow_add, Nat.add_comm zeros, hlength]
      _ = valueOf ds * 10 ^ zeros := Nat.mul_div_cancel _ (Nat.pow_pos (by omega))
      _ = f := hvalue

/-! ### The components -/

/-- Digits in front of another letter are no component of this one. -/
theorem lettered_of_ne {letter c : Char} {unit : Timescale} {ds rest : List Char}
    (hds : ∀ d ∈ ds, d.isDigit = true) (hc : c.isDigit = false) (hne : c ≠ letter) :
    lettered letter unit (ds ++ c :: rest) = (none, ds ++ c :: rest) := by
  have hhalts : Halts (c :: rest) := by simpa using hc
  simp [lettered, takeWhile_digits hds hhalts, dropWhile_digits hds hhalts, hne]

/-- Seconds at the end of a text are its only component, for there is no other letter. -/
theorem clockComponents?_seconds {c : Char} {ds rest : List Char} {found : Component}
    (hds : ∀ d ∈ ds, d.isDigit = true) (hc : c = '.' ∨ c = 'S')
    (hread : seconds? (ds ++ c :: rest) = some found) :
    clockComponents? (ds ++ c :: rest) = some [found] := by
  have hdigit : c.isDigit = false := by rcases hc with rfl | rfl <;> decide
  have hhours : c ≠ 'H' := by rcases hc with rfl | rfl <;> decide
  have hminutes : c ≠ 'M' := by rcases hc with rfl | rfl <;> decide
  simp [clockComponents?, lettered_of_ne hds hdigit hhours, lettered_of_ne hds hdigit hminutes,
    hread]

theorem isoComponents?_clock {cs : List Char} {found : List Component}
    (h : clockComponents? cs = some found) : isoComponents? ('T' :: cs) = some found := by
  have hdays : lettered 'D' .day ([] ++ 'T' :: cs) = (none, [] ++ 'T' :: cs) :=
    lettered_of_ne (by simp) (by decide) (by decide)
  rw [List.nil_append] at hdays
  simp [isoComponents?, hdays, h]

/-- **What was written after the `P` is read as one component** of the same nanoseconds. -/
theorem isoComponents?_magnitude (n : Nat) :
    ∃ cs found, magnitudeChars n = 'P' :: cs ∧ isoComponents? cs = some [found] ∧
      found.nanoseconds = n := by
  by_cases hzero : n = 0
  · exact ⟨['0', 'D'], ⟨['0'], [], .day⟩, by simp [magnitudeChars, hzero], by decide,
      by simp [hzero, Component.nanoseconds, valueOf, digitValue]⟩
  have hwhole := spells_digitsOf (n / 1000000000)
  by_cases hfraction : n % 1000000000 = 0
  · -- whole seconds
    have hhalts : Halts ['S'] := by simp
    have hread : seconds? (digitsOf (n / 1000000000) ++ ['S']) =
        some ⟨digitsOf (n / 1000000000), [], .second⟩ := by
      simp [seconds?, takeWhile_digits hwhole.digits hhalts,
        dropWhile_digits hwhole.digits hhalts, hwhole.ne_nil]
    refine ⟨'T' :: (digitsOf (n / 1000000000) ++ ['S']), _, by simp [magnitudeChars, hzero, hfraction],
      isoComponents?_clock (clockComponents?_seconds hwhole.digits (.inr rfl) hread), ?_⟩
    have hnone : valueOf [] = 0 := rfl
    simp only [Component.nanoseconds, hwhole.value, Timescale.nanoseconds, List.take_nil, hnone,
      Nat.zero_mul, Nat.zero_div]
    omega
  · -- seconds with a fraction
    obtain ⟨hspells, hlength, hvalue⟩ := fractionDigits_spec hfraction (Nat.mod_lt n (by omega))
    have htext : magnitudeChars n = 'P' :: 'T' :: (digitsOf (n / 1000000000) ++
        '.' :: (fractionDigits (n % 1000000000) ++ ['S'])) := by
      simp [magnitudeChars, hzero, hfraction]
    generalize fractionDigits (n % 1000000000) = ds at hspells hlength hvalue htext
    have hhalts : Halts ('.' :: (ds ++ ['S'])) := by simp
    have hhalts' : Halts ['S'] := by simp
    have hpos : 1 ≤ ds.length := List.length_pos_iff.2 hspells.ne_nil
    have hread : seconds? (digitsOf (n / 1000000000) ++ '.' :: (ds ++ ['S'])) =
        some ⟨digitsOf (n / 1000000000), ds, .second⟩ := by
      simp [seconds?, takeWhile_digits hwhole.digits hhalts,
        dropWhile_digits hwhole.digits hhalts, hwhole.ne_nil,
        takeWhile_digits hspells.digits hhalts', dropWhile_digits hspells.digits hhalts', hpos,
        hlength]
    refine ⟨_, _, htext,
      isoComponents?_clock (clockComponents?_seconds hwhole.digits (.inl rfl) hread), ?_⟩
    have hkept : ds.take 18 = ds := List.take_of_length_le (by omega)
    have hnanos : valueOf ds * 1000000000 / 10 ^ ds.length = n % 1000000000 := hvalue
    simp only [Component.nanoseconds, hwhole.value, Timescale.nanoseconds, hkept]
    rw [hnanos]
    omega

/-! ### The duration -/

/-- **A duration is read from its text.** -/
theorem ofText?_text (d : Duration) : ofText? d.text.toList = some d := by
  obtain ⟨cs, found, htext, hcomponents, hvalue⟩ := isoComponents?_magnitude
    d.nanoseconds.toInt.natAbs
  have htotal (negative : Bool) : total negative [found] =
      if negative then -(d.nanoseconds.toInt.natAbs : Int) else d.nanoseconds.toInt.natAbs := by
    simp [total, magnitude, hvalue]
  by_cases hneg : d.nanoseconds.toInt < 0
  · have hchars : d.text.toList = '-' :: 'P' :: cs := by simp [text, hneg, htext]
    have hsum : total true [found] = d.nanoseconds.toInt := by
      rw [htotal, if_pos rfl]
      omega
    have hread : components? d.text.toList = some (true, [found]) := by
      simp [hchars, Duration.components?, looksIso, iso?, hcomponents]
    rw [ofText?_eq_of_components hread, hsum, if_pos (within_int64Range _), Int64.ofInt_toInt]
  · have hchars : d.text.toList = 'P' :: cs := by simp [text, hneg, htext]
    have hsum : total false [found] = d.nanoseconds.toInt := by
      rw [htotal, if_neg (by decide)]
      omega
    have hread : components? d.text.toList = some (false, [found]) := by
      simp [hchars, Duration.components?, looksIso, iso?, hcomponents]
    rw [ofText?_eq_of_components hread, hsum, if_pos (within_int64Range _), Int64.ofInt_toInt]

end Colonnade.Duration
