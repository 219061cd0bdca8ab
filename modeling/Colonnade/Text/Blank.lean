/-!
# White space at the edges of a text

A cell is read without the white space around it, a path segment too, and a
duration is a list of words. All three mean **every character with the Unicode
property `White_Space`**, not the six ASCII ones, so the property is a table here.

The functions work on the list of characters of a text, where they are the
library's `dropWhile` and the same from the other end; `Text.trim` is the same for a `String`.

* `isBlank` – the property;
* `trimStart`, `trimEnd`, `trim` – drop it at one edge or at both;
* `words` – the maximal runs of other characters.
-/

namespace Colonnade.Text

/-- The characters with the Unicode property `White_Space`. -/
def isBlank (c : Char) : Bool :=
  let n := c.toNat
  (0x09 ≤ n && n ≤ 0x0D) || n == 0x20 || n == 0x85 || n == 0xA0 || n == 0x1680 ||
    (0x2000 ≤ n && n ≤ 0x200A) || n == 0x2028 || n == 0x2029 || n == 0x202F ||
    n == 0x205F || n == 0x3000

/-- The text from its first character that is not blank. -/
def trimStart (cs : List Char) : List Char :=
  cs.dropWhile isBlank

/-- The text up to its last character that is not blank. -/
def trimEnd (cs : List Char) : List Char :=
  (cs.reverse.dropWhile isBlank).reverse

/-- The text without the blanks at either edge. -/
def trimChars (cs : List Char) : List Char :=
  trimEnd (trimStart cs)

/-- **Trimming**: a text without the white space at either edge. -/
def trim (s : String) : String :=
  String.ofList (trimChars s.toList)

/-- The maximal runs of characters that are not blank, in order. -/
def words (cs : List Char) : List (List Char) :=
  (cs.splitOnP isBlank).filter fun w => !w.isEmpty

/-! ### Small facts -/

theorem isBlank_of_isDigit {c : Char} (h : c.isDigit = true) : isBlank c = false := by
  simp only [Char.isDigit, Bool.and_eq_true, decide_eq_true_eq, UInt32.le_iff_toNat_le] at h
  have hlow : ('0'.val).toNat = 48 := rfl
  have hhigh : ('9'.val).toNat = 57 := rfl
  have hval : c.toNat = c.val.toNat := rfl
  simp only [isBlank, hval]
  simp
  omega

@[simp] theorem trimStart_nil : trimStart [] = [] := rfl

@[simp] theorem trimEnd_nil : trimEnd [] = [] := rfl

@[simp] theorem toList_trim (s : String) : (trim s).toList = trimChars s.toList :=
  String.toList_ofList

end Colonnade.Text
