import Colonnade.Yaml.Mark

/-!
# Reading scalars of YAML

A scalar is a text in one of five styles.

* A *plain* scalar goes on as long as no indicator stops it, over line ends too.
* A scalar between *single* or *double* quotation marks goes up to the closing mark; in the
  latter a backslash begins an escape.
* A *literal* or *folded* block consists of the lines that are indented more than what
  surrounds it.

Every function gives the text and the marks after it. Those with a count of steps take a mark
in every step, so the number of marks is enough.
-/

namespace Colonnade.Yaml

/-! ### Plain scalars -/

/-- The characters that end a plain scalar between brackets. -/
def flowIndicators : List Char := [',', '[', ']', '\x7b', '\x7d']

/-- Reads a word of a plain scalar. -/
def readWord (inFlow : Bool) : List Mark → Except String (List Char × List Mark)
  | [] => .ok ([], [])
  | m :: ms =>
    let next := next? ms
    let indicatorNext := next.any fun c => c == '?' || flowIndicators.contains c
    if endsWord (some m.char) then .ok ([], m :: ms)
    else if m.char = ':' ∧ inFlow ∧ indicatorNext then
      .error "a colon stands before an indicator"
    else if (m.char = ':' ∧ endsWord next) ∨ (inFlow ∧ flowIndicators.contains m.char) then
      .ok ([], m :: ms)
    else do
      let (word, rest) ← readWord inFlow ms
      return (m.char :: word, rest)

/-- Reads words and the gaps between them. Gives the last gap too. -/
def readWords (inFlow : Bool) (indent : Nat) :
    (steps : Nat) → Gap → List Mark → Except String (List Char × Gap × List Mark)
  | 0, gap, ms => .ok ([], gap, ms)
  | steps + 1, gap, ms =>
    if isDocumentLine ms ∨ next? ms = some '#' then .ok ([], gap, ms)
    else do
      let (word, rest) ← readWord inFlow ms
      if word.isEmpty then return ([], gap, rest)
      let start := gap.text ++ word
      if rest.isEmpty ∨ !atWordEnd rest then return (start, .blanks [], rest)
      let (gap, rest) ← Gap.read indent (.blanks []) rest
      let outdented := (rest.head?.map fun m => decide (m.column < indent)).getD false
      if !inFlow && outdented then return (start, gap, rest)
      let (more, gap, rest) ← readWords inFlow indent steps gap rest
      return (start ++ more, gap, rest)

/-- **Reads a plain scalar.** Tells too whether white space after it went over a line end. -/
def readPlain (inFlow : Bool) (indent : Nat) (ms : List Mark) :
    Except String (List Char × Bool × List Mark) := do
  let (text, gap, rest) ← readWords inFlow indent (ms.length + 1) (.blanks []) ms
  return (text, gap.isBroken, rest)

/-! ### Scalars between quotation marks -/

/-- The value of a hexadecimal digit. -/
def hexValue? (c : Char) : Option Nat :=
  if c.isDigit then some (c.toNat - '0'.toNat)
  else if 'a' ≤ c ∧ c ≤ 'f' then some (c.toNat - 'a'.toNat + 10)
  else if 'A' ≤ c ∧ c ≤ 'F' then some (c.toNat - 'A'.toNat + 10)
  else none

/-- The character with a number that is written with so many hexadecimal digits. -/
def readCodePoint (digits : Nat) (ms : List Mark) : Except String (Char × List Mark) :=
  match (chars (ms.take digits)).mapM hexValue? with
  | none => .error "an escape has not as many digits as it should"
  | some ds =>
    let n := ds.foldl (fun n d => 16 * n + d) 0
    if ds.length = digits ∧ n.isValidChar then .ok (Char.ofNat n, ms.drop digits)
    else .error "an escape stands for no character"

/-- The escapes besides those that are written too. -/
def readEscapes : List (Char × Char) :=
  [('\t', '\t'), (' ', ' '), ('/', '/'), ('_', '\xa0')]

/-- The character of an escape that has one letter. -/
def escape? (c : Char) : Option Char :=
  match shortEscapes.find? fun (_, letter) => letter == c with
  | some (code, _) => some (Char.ofNat code)
  | none => (readEscapes.find? fun (letter, _) => letter == c).map Prod.snd

/-- Reads what follows a backslash. -/
def readEscape : List Mark → Except String (Char × List Mark)
  | [] => .error "a quotation does not end"
  | m :: ms =>
    if m.char = 'x' then readCodePoint 2 ms
    else if m.char = 'u' then readCodePoint 4 ms
    else if m.char = 'U' then readCodePoint 8 ms
    else
      match escape? m.char with
      | some c => .ok (c, ms)
      | none => .error "an escape is not known"

/-- What comes next between quotation marks. -/
inductive QuotedPart where
  | close
  | text (cs : List Char)
deriving DecidableEq, Inhabited

/-- Reads the next part of a quotation. -/
def readQuotedPart (double : Bool) : List Mark → Except String (QuotedPart × List Mark)
  | [] => .error "a quotation does not end"
  | m :: ms =>
    if endsWord (some m.char) then do
      let (gap, rest) ← Gap.read 0 (.blanks []) (m :: ms)
      return (.text gap.text, rest)
    else if double then
      if m.char = '"' then .ok (.close, ms)
      else if m.char = '\\' then
        if (ms.head?.map Mark.isLineEnd).getD false then do
          let (gap, rest) ← Gap.read 0 (.lines none []) (ms.drop 1)
          return (.text gap.text, rest)
        else do
          let (c, rest) ← readEscape ms
          return (.text [c], rest)
      else .ok (.text [m.char], ms)
    else if m.char = '\'' then
      if next? ms = some '\'' then .ok (.text ['\''], ms.drop 1) else .ok (.close, ms)
    else .ok (.text [m.char], ms)

/-- Reads up to the closing quotation mark. -/
def readQuotedParts (double : Bool) : (steps : Nat) → List Mark →
    Except String (List Char × List Mark)
  | 0, _ => .error "a quotation does not end"
  | steps + 1, ms =>
    if isDocumentLine ms then .error "a document ends within a quotation"
    else do
      match ← readQuotedPart double ms with
      | (.close, rest) => return ([], rest)
      | (.text cs, rest) =>
        let (more, rest) ← readQuotedParts double steps rest
        return (cs ++ more, rest)

/-- **Reads a scalar between quotation marks**, from after the first one on. -/
def readQuoted (double : Bool) (ms : List Mark) : Except String (List Char × List Mark) :=
  readQuotedParts double (ms.length + 1) ms

/-! ### Blocks -/

/-- What becomes of the line ends at the end of a block. -/
inductive Chomping where
  /-- One stays. -/
  | clip
  /-- None stays. -/
  | strip
  /-- All stay. -/
  | keep
deriving DecidableEq, Inhabited

/-- **The head of a block.** -/
structure BlockHead where
  chomping : Chomping := .clip
  /-- By how much the lines are indented, if that is told. -/
  increment : Option Nat := none
deriving DecidableEq, Inhabited

/-- The chomping of a sign. -/
def Chomping.ofChar? (c : Char) : Option Chomping :=
  if c = '+' then some .keep else if c = '-' then some .strip else none

/-- Reads a sign, if there is one. -/
def readChomping (ms : List Mark) : Option Chomping × List Mark :=
  match (next? ms).bind Chomping.ofChar? with
  | some chomping => (some chomping, ms.drop 1)
  | none => (none, ms)

/-- Reads a digit, if there is one. -/
def readIncrement (ms : List Mark) : Except String (Option Nat × List Mark) :=
  match (next? ms).filter Char.isDigit with
  | some '0' => .error "a block is indented by nothing"
  | some c => .ok (some (c.toNat - '0'.toNat), ms.drop 1)
  | none => .ok (none, ms)

/-- Reads a sign and a digit in any order. -/
def readSigns (ms : List Mark) : Except String (BlockHead × List Mark) :=
  match readChomping ms with
  | (some chomping, rest) => do
    let (increment, rest) ← readIncrement rest
    return (⟨chomping, increment⟩, rest)
  | (none, rest) => do
    let (increment, rest) ← readIncrement rest
    let (chomping, rest) := if increment.isSome then readChomping rest else (none, rest)
    return (⟨chomping.getD .clip, increment⟩, rest)

/-- Reads the rest of the line of a head: blanks and a comment. -/
def readHeadEnd (ms : List Mark) : Except String (List Mark) :=
  let rest := ms.dropWhile Mark.isBlank
  let rest := if next? rest = some '#' then rest.dropWhile fun m => !m.isLineEnd else rest
  match rest with
  | [] => .ok []
  | m :: ms => if m.isLineEnd then .ok ms else .error "something follows the head of a block"

/-- Reads blank lines and the indentation of the line after them. Gives the line ends and the
largest indentation. -/
def readBlankLines (indent : Option Nat) (largest : Nat) :
    List Mark → Except String (List Char × Nat × List Mark)
  | [] => .ok ([], largest, [])
  | m :: ms =>
    let inside := indent.all fun n => m.column < n
    if inside ∧ m.char = ' ' then readBlankLines indent (max largest (m.column + 1)) ms
    else if inside ∧ m.char = '\t' then .error "a tab takes part in the indentation"
    else if m.isLineEnd then do
      let (breaks, largest, rest) ← readBlankLines indent largest ms
      return (m.char :: breaks, largest, rest)
    else .ok ([], largest, m :: ms)

/-- What is known of a block when a line begins. -/
structure BlockState where
  /-- The end of the line before. -/
  lineEnd : Option Char := none
  /-- The line ends after that. -/
  blankLines : List Char := []
  /-- The line before begins with a blank. -/
  wasBlank : Bool := false

/-- What stands between the line before and a line: in a folded block a blank takes the place
of a line end, unless there are blank lines or lines that begin with a blank. -/
def BlockState.joint (s : BlockState) (folded isBlank : Bool) : List Char :=
  (if folded ∧ s.lineEnd = some '\n' ∧ !s.wasBlank ∧ !isBlank then
      if s.blankLines.isEmpty then [' '] else []
    else s.lineEnd.toList) ++ s.blankLines

/-- What stands after the last line. -/
def BlockState.finish (s : BlockState) : Chomping → List Char
  | .strip => []
  | .clip => s.lineEnd.toList
  | .keep => s.lineEnd.toList ++ s.blankLines

/-- Reads the lines of a block that are indented by `indent`. -/
def readLines (folded : Bool) (chomping : Chomping) (indent : Nat) :
    (steps : Nat) → BlockState → List Mark → Except String (List Char × List Mark)
  | 0, s, ms => .ok (s.finish chomping, ms)
  | _, s, [] => .ok (s.finish chomping, [])
  | steps + 1, s, m :: ms =>
    if m.column ≠ indent then .ok (s.finish chomping, m :: ms)
    else do
      let line := chars ((m :: ms).takeWhile fun m => !m.isLineEnd)
      let rest := (m :: ms).dropWhile fun m => !m.isLineEnd
      let (blankLines, _, after) ← readBlankLines (some indent) 0 (rest.drop 1)
      let (more, after) ← readLines folded chomping indent steps
        ⟨next? rest, blankLines, m.isBlank⟩ after
      return (s.joint folded m.isBlank ++ line ++ more, after)

/-- **Reads a block** inside of what is indented by one less than `least`. -/
def readBlock (folded : Bool) (least : Nat) (ms : List Mark) :
    Except String (List Char × List Mark) := do
  let (head, rest) ← readSigns ms
  let rest ← readHeadEnd rest
  let told := head.increment.map fun n => least - 1 + n
  let (blankLines, largest, rest) ← readBlankLines told 0 rest
  let indent := told.getD (max largest (max least 1))
  readLines folded head.chomping indent (rest.length + 1) { blankLines } rest

end Colonnade.Yaml
