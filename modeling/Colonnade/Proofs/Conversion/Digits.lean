import Mathlib
import Colonnade.Number.Digits

/-!
# Digit strings that are read back

A number is written as a string of digits, with or without zeros in front, and read back
from the start of a longer text: what ends it is the first character that is no digit. So
there are two notions:

* `Spells ds n` – `ds` is a digit string of the number `n`;
* `Halts rest` – what follows a number does not go on with a digit.

The digits of a number spell it (`spells_digitsOf`), and zeros in front change nothing
(`Spells.padZeros`). A digit string is taken off the start of a text as a whole
(`Spells.takeWhile`, `Spells.dropWhile`), and a text of an integer is read as that integer
(`readInt?_integerText`), in 32 and in 64 bits too.
-/

namespace Colonnade.Number

/-- **A digit string of a number**: at least one digit, and zeros in front if need be. -/
structure Spells (ds : List Char) (n : Nat) : Prop where
  ne_nil : ds ≠ []
  digits : ∀ c ∈ ds, c.isDigit = true
  value : valueOf ds = n

/-- **Digits**, at least one, whatever number they spell. -/
structure IsDigits (ds : List Char) : Prop where
  ne_nil : ds ≠ []
  digits : ∀ c ∈ ds, c.isDigit = true

/-- The text does not begin with a digit. -/
def Halts (rest : List Char) : Prop :=
  ∀ c ∈ rest.head?, c.isDigit = false

@[simp] theorem halts_nil : Halts [] := by simp [Halts]

@[simp] theorem halts_cons {c : Char} {rest : List Char} :
    Halts (c :: rest) ↔ c.isDigit = false := by
  simp [Halts]

/-! ### Digits and values -/

theorem valueOf_append (ds es : List Char) :
    valueOf (ds ++ es) = valueOf ds * 10 ^ es.length + valueOf es := by
  have h : Nat.ofDigitChars 10 (ds ++ es) 0 =
      10 ^ es.length * Nat.ofDigitChars 10 ds 0 + Nat.ofDigitChars 10 es 0 := by
    rw [Nat.ofDigitChars_append, Nat.ofDigitChars_eq_ofDigitChars_zero]
  rw [Nat.mul_comm]
  exact h

theorem valueOf_replicate_zero (k : Nat) : valueOf (List.replicate k '0') = 0 := by
  have h : Nat.ofDigitChars 10 (List.replicate k '0') 0 = 10 ^ k * 0 :=
    Nat.ofDigitChars_replicate_zero
  rw [Nat.mul_zero] at h
  exact h

theorem spells_digitsOf (n : Nat) : Spells (digitsOf n) n where
  ne_nil := Nat.toDigits_ne_nil
  digits _ hc := Nat.isDigit_of_mem_toDigits (by omega) (by omega) hc
  value := Nat.ofDigitChars_toDigits (by omega) (by omega)

/-- The digits of a number below a power of ten are at most as many as its exponent. -/
theorem length_digitsOf_le {n k : Nat} (hk : 0 < k) (hn : n < 10 ^ k) :
    (digitsOf n).length ≤ k :=
  (Nat.length_toDigits_le_iff (by omega) hk).2 hn

theorem length_padZeros (width : Nat) (ds : List Char) :
    (padZeros width ds).length = max width ds.length := by
  simp only [padZeros, List.length_append, List.length_replicate]
  omega

/-- A number below a power of ten is filled up to exactly that many places. -/
theorem length_padZeros_digitsOf {n k : Nat} (hk : 0 < k) (hn : n < 10 ^ k) :
    (padZeros k (digitsOf n)).length = k := by
  rw [length_padZeros]
  exact Nat.max_eq_left (length_digitsOf_le hk hn)

theorem Spells.padZeros {ds : List Char} {n : Nat} (h : Spells ds n) (width : Nat) :
    Spells (padZeros width ds) n where
  ne_nil := by simp [Number.padZeros, h.ne_nil]
  digits c hc := by
    rcases List.mem_append.1 hc with hzero | hmem
    · rw [List.eq_of_mem_replicate hzero]
      rfl
    · exact h.digits c hmem
  value := by
    rw [Number.padZeros, valueOf_append, valueOf_replicate_zero, h.value]
    omega

/-- The digits of a number, filled up with zeros, spell it. -/
theorem spells_padZeros_digitsOf (width n : Nat) : Spells (Number.padZeros width (digitsOf n)) n :=
  (spells_digitsOf n).padZeros width

/-! ### Digits at the start of a text -/

variable {ds rest : List Char} {n : Nat}

theorem takeWhile_of_halts (h : Halts rest) : rest.takeWhile Char.isDigit = [] := by
  cases rest with
  | nil => rfl
  | cons c rest => exact List.takeWhile_cons_of_neg (by simpa using h)

theorem dropWhile_of_halts (h : Halts rest) : rest.dropWhile Char.isDigit = rest := by
  cases rest with
  | nil => rfl
  | cons c rest => exact List.dropWhile_cons_of_neg (by simpa using h)

theorem takeWhile_digits (hds : ∀ c ∈ ds, c.isDigit = true) (hrest : Halts rest) :
    (ds ++ rest).takeWhile Char.isDigit = ds := by
  rw [List.takeWhile_append_of_pos hds, takeWhile_of_halts hrest, List.append_nil]

theorem dropWhile_digits (hds : ∀ c ∈ ds, c.isDigit = true) (hrest : Halts rest) :
    (ds ++ rest).dropWhile Char.isDigit = rest := by
  rw [List.dropWhile_append_of_pos hds, dropWhile_of_halts hrest]

/-- The digits at the start of a text, if there are any. -/
theorem isDigits_takeWhile {cs : List Char} (h : cs.takeWhile Char.isDigit ≠ []) :
    IsDigits (cs.takeWhile Char.isDigit) :=
  ⟨h, fun _ hc => List.all_eq_true.mp List.all_takeWhile _ hc⟩

/-- A digit string begins with a digit. -/
theorem Spells.exists_cons (h : Spells ds n) :
    ∃ c tail, ds = c :: tail ∧ c.isDigit = true := by
  obtain ⟨c, tail, hds⟩ := List.exists_cons_of_ne_nil h.ne_nil
  exact ⟨c, tail, hds, h.digits c (by simp [hds])⟩

/-! ### Reading integers -/

theorem Spells.readNat? (h : Spells ds n) : readNat? ds = some n := by
  have hall : ds.all Char.isDigit = true := List.all_eq_true.2 h.digits
  simp [Number.readNat?, h.ne_nil, hall, h.value]

theorem Spells.readInt? (h : Spells ds n) : readInt? ds = some (n : Int) := by
  have hread := h.readNat?
  obtain ⟨c, tail, rfl, hc⟩ := h.exists_cons
  -- a digit is not a sign, so the digits are read from the first character on
  have hplus : c ≠ '+' := by rintro rfl; simp at hc
  have hminus : c ≠ '-' := by rintro rfl; simp at hc
  simp [Number.readInt?, hplus, hminus, hread]

/-- **The text of an integer is read as that integer.** -/
theorem readInt?_integerText (i : Int) : readInt? (integerText i).toList = some i := by
  have hspells := spells_digitsOf i.natAbs
  by_cases hneg : i < 0
  · have htext : (integerText i).toList = '-' :: digitsOf i.natAbs := by
      simp [integerText, hneg]
    simp only [htext, readInt?, hspells.readNat?, Option.map_some, Option.some.injEq,
      Int.ofNat_eq_natCast]
    omega
  · have htext : (integerText i).toList = digitsOf i.natAbs := by
      simp [integerText, hneg]
    rw [htext, hspells.readInt?, Option.some.injEq]
    omega

theorem within_iff {range : Int × Int} {i : Int} :
    within range i = true ↔ range.1 ≤ i ∧ i ≤ range.2 := by
  simp [within]

theorem within_int32Range (n : Int32) : within int32Range n.toInt = true :=
  within_iff.2 ⟨n.le_toInt, Int.le_of_lt_add_one n.toInt_lt⟩

theorem within_int64Range (n : Int64) : within int64Range n.toInt = true :=
  within_iff.2 ⟨n.le_toInt, Int.le_of_lt_add_one n.toInt_lt⟩

theorem readInt32?_integerText (n : Int32) : readInt32? (integerText n.toInt).toList = some n := by
  rw [readInt32?, readInt?_integerText, Option.filter_some_pos (within_int32Range n)]
  simp

theorem readInt64?_integerText (n : Int64) : readInt64? (integerText n.toInt).toList = some n := by
  rw [readInt64?, readInt?_integerText, Option.filter_some_pos (within_int64Range n)]
  simp

end Colonnade.Number
