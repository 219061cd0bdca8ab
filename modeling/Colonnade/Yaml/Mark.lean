import Colonnade.Yaml.Scalar

/-!
# Marked characters

Indentation matters in YAML, so a reader has to know where in its line a character stands. A
`Mark` is a character with its place, and a document is read as a list of marks.

* `Mark.ofText?` – the marks of a text; none if it has a character that no document may have;
* `Gap` – the white space between two words, which a line end shortens to one blank;
* `isDocumentLine` – the marks begin with a line that ends or begins a document.
-/

namespace Colonnade.Yaml

/-- **A character with its place**: how many characters precede it in the text, how many lines
precede its line, and how many characters precede it in the line. -/
structure Mark where
  char : Char
  index : Nat
  line : Nat
  column : Nat
deriving DecidableEq, Inhabited

namespace Mark

/-- The character may stand in a document. -/
def isAllowed (c : Char) : Bool :=
  let n := c.toNat
  n == 0x09 || n == 0x0A || n == 0x0D || (0x20 ≤ n && n ≤ 0x7E) || n == 0x85 ||
    (0xA0 ≤ n && n ≤ 0xFFFD) || 0x10000 ≤ n

/-- The text with one kind of line end in place of the four that mean the same. -/
def evenLines : List Char → List Char
  | [] => []
  | '\r' :: '\n' :: cs => '\n' :: evenLines cs
  | c :: cs => (if c = '\r' ∨ c = '\x85' then '\n' else c) :: evenLines cs

/-- Marks characters from a place on. -/
def mark (index line column : Nat) : List Char → List Mark
  | [] => []
  | c :: cs =>
    ⟨c, index, line, column⟩ ::
      if isBreak c then mark (index + 1) (line + 1) 0 cs
      else mark (index + 1) line (column + 1) cs

/-- **The marks of a text.** -/
def ofText? (cs : List Char) : Option (List Mark) :=
  if cs.all isAllowed then some (mark 0 0 0 (evenLines cs)) else none

/-- The character is a blank. -/
def isBlank (m : Mark) : Bool :=
  m.char == ' ' || m.char == '\t'

/-- The character ends a line. -/
def isLineEnd (m : Mark) : Bool :=
  isBreak m.char

end Mark

/-- The next character, if there is one. -/
def next? (ms : List Mark) : Option Char :=
  ms.head?.map Mark.char

/-- The next character ends a word. -/
def atWordEnd (ms : List Mark) : Bool :=
  endsWord (next? ms)

/-- The characters of marks. -/
def chars (ms : List Mark) : List Char :=
  ms.map Mark.char

/-- The marks begin with these characters at the start of a line, and with a word end after
them. -/
def isLineOf (word : List Char) (ms : List Mark) : Bool :=
  (ms.head?.map fun m => m.column == 0).getD false && chars (ms.take 3) == word &&
    atWordEnd (ms.drop 3)

/-- **The marks begin with a line that begins or ends a document.** -/
def isDocumentLine (ms : List Mark) : Bool :=
  isLineOf ['-', '-', '-'] ms || isLineOf ['.', '.', '.'] ms

/-! ### White space between words -/

/-- **White space between words.** -/
inductive Gap where
  /-- Blanks on one line. -/
  | blanks (cs : List Char)
  /-- At least one line end; the first one may be hidden by a backslash and is none then. -/
  | lines (first : Option Char) (more : List Char)
deriving DecidableEq, Inhabited

namespace Gap

/-- **What a gap stands for**: blanks for themselves, one line end for a blank, and several for
all but the first. -/
def text : Gap → List Char
  | blanks cs => cs
  | lines (some '\n') [] => [' ']
  | lines (some '\n') more => more
  | lines first more => first.toList ++ more

/-- The gap goes over a line end. -/
def isBroken : Gap → Bool
  | blanks _ => false
  | lines _ _ => true

/-- The gap with one more line end. -/
def addBreak (c : Char) : Gap → Gap
  | blanks _ => lines (some c) []
  | lines first more => lines first (more ++ [c])

/-- The gap with one more blank; blanks next to a line end count for nothing. -/
def addBlank (c : Char) : Gap → Gap
  | blanks cs => blanks (cs ++ [c])
  | lines first more => lines first more

/-- **Reads white space**; a tab that takes part in the indentation is refused, which goes up
to `indent`. -/
def read (indent : Nat) (gap : Gap) : List Mark → Except String (Gap × List Mark)
  | [] => .ok (gap, [])
  | m :: ms =>
    if m.isBlank then
      if gap.isBroken ∧ m.char = '\t' ∧ m.column < indent then
        .error "a tab takes part in the indentation"
      else read indent (gap.addBlank m.char) ms
    else if m.isLineEnd then read indent (gap.addBreak m.char) ms
    else .ok (gap, m :: ms)

end Gap

end Colonnade.Yaml
