import Colonnade.Text.Blank
import Mathlib.Data.List.DropRight

/-!
# Trimmed texts

A text is trimmed if it neither begins nor ends with white space (`Text.trimChars_eq_self_iff`). Trimming
makes a text so, and leaves it alone if it is so already. At the end alone it takes away white space and
nothing else (`Text.exists_blanks`).
-/

namespace Colonnade.Text

variable {cs : List Char}

theorem trimStart_eq_self_iff : trimStart cs = cs ↔ ∀ c ∈ cs.head?, isBlank c = false := by
  cases cs with
  | nil => simp
  | cons c cs => simp [trimStart, List.dropWhile_eq_self_iff]

theorem trimEnd_eq_self_iff : trimEnd cs = cs ↔ ∀ c ∈ cs.getLast?, isBlank c = false := by
  rw [← List.reverse_inj, trimEnd, List.reverse_reverse, ← List.head?_reverse]
  exact trimStart_eq_self_iff

/-- What stays of a text has no white space in front. -/
theorem trimStart_trimChars (cs : List Char) : trimStart (trimChars cs) = trimChars cs := by
  refine List.dropWhile_eq_self_iff.mpr fun hlength => ?_
  have hprefix : trimChars cs <+: trimStart cs := List.rdropWhile_prefix isBlank (trimStart cs)
  have hpos : 0 < (trimStart cs).length := lt_of_lt_of_le hlength hprefix.length_le
  rw [List.IsPrefix.getElem hprefix hlength]
  exact List.dropWhile_get_zero_not isBlank cs hpos

/-- **Trimming a second time changes nothing.** -/
theorem trimChars_trimChars (cs : List Char) : trimChars (trimChars cs) = trimChars cs := by
  rw [trimChars, trimStart_trimChars]
  exact List.rdropWhile_idempotent isBlank (trimStart cs)

theorem trim_trim (s : String) : trim (trim s) = trim s := by
  rw [trim, toList_trim, trimChars_trimChars, trim]

/-- **A text is trimmed** if there is no white space at its edges. -/
theorem trimChars_eq_self_iff :
    trimChars cs = cs ↔ (∀ c ∈ cs.head?, isBlank c = false) ∧ ∀ c ∈ cs.getLast?, isBlank c = false := by
  rw [← trimStart_eq_self_iff, ← trimEnd_eq_self_iff]
  constructor
  · intro h
    have hstart : trimStart cs = cs := by
      rw [← h]
      exact trimStart_trimChars cs
    exact ⟨hstart, by rwa [trimChars, hstart] at h⟩
  · rintro ⟨hstart, hend⟩
    rw [trimChars, hstart, hend]

/-- **Nothing stays** of a text that is all white space, and of no other. -/
theorem trimChars_eq_nil_iff : trimChars cs = [] ↔ ∀ c ∈ cs, isBlank c = true := by
  have hagain : trimStart (trimStart cs) = trimStart cs := List.dropWhile_idempotent isBlank cs
  calc trimChars cs = [] ↔ ∀ c ∈ trimStart cs, isBlank c = true := List.rdropWhile_eq_nil_iff
    _ ↔ trimStart (trimStart cs) = [] := List.dropWhile_eq_nil_iff.symm
    _ ↔ trimStart cs = [] := by rw [hagain]
    _ ↔ ∀ c ∈ cs, isBlank c = true := List.dropWhile_eq_nil_iff

/-- Trimming adds no characters. -/
theorem trimChars_subset (cs : List Char) : trimChars cs ⊆ cs := by
  have hend : trimChars cs <+: trimStart cs := List.rdropWhile_prefix isBlank (trimStart cs)
  exact List.Subset.trans hend.subset (List.dropWhile_subset isBlank)

/-- A text without blanks is not shortened. -/
theorem trimChars_of_unblank (h : ∀ c ∈ cs, isBlank c = false) : trimChars cs = cs :=
  trimChars_eq_self_iff.mpr
    ⟨fun c hc => h c (List.mem_of_mem_head? hc), fun c hc => h c (List.mem_of_mem_getLast? hc)⟩

/-- **White space is all that is lost at the end.** -/
theorem exists_blanks (cs : List Char) :
    ∃ blanks, (∀ c ∈ blanks, isBlank c = true) ∧ trimEnd cs ++ blanks = cs := by
  refine ⟨(cs.reverse.takeWhile isBlank).reverse, fun c hc => ?_, ?_⟩
  · exact List.mem_takeWhile_imp (List.mem_reverse.mp hc)
  · rw [trimEnd, ← List.reverse_append, List.takeWhile_append_dropWhile, List.reverse_reverse]

end Colonnade.Text
