/-!
# Character sets

A character set that is too large for one byte gives numbers to its characters: the number of
the row of a character and its place in the row make one number. Not every number is taken.

The characters are written down in blocks, each with the number of its first character.
-/

namespace Colonnade.Encoding

/-- **A character set**: the characters by number, with `CharSet.gap` at those that are not
taken. -/
structure CharSet where
  chars : Array Char

namespace CharSet

/-- What stands at a number that is not taken. -/
def gap : Char := '\ufffd'

/-- Puts a block behind the characters so far; its first number is not below theirs. -/
def place (chars : Array Char) (block : Nat × String) : Array Char :=
  chars ++ Array.replicate (block.1 - chars.size) gap ++ block.2.toList.toArray

/-- The character set of blocks in ascending order. -/
def ofBlocks (blocks : List (Nat × String)) : CharSet :=
  ⟨blocks.foldl place #[]⟩

/-- **The character with a number.** -/
def char? (s : CharSet) (number : Nat) : Option Char :=
  s.chars[number]?.filter (· ≠ gap)

end CharSet

end Colonnade.Encoding
