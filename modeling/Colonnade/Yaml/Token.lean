import Colonnade.Yaml.Reading

/-!
# Tokens of YAML

A document is read in two steps, and the tokens stand between them: the scalars, the
indicators, and the starts and ends of collections that only the indentation tells.

A key need not be announced: `a: b` shows only at the colon that `a` is a key. So the reader
remembers where a key may have begun – a `KeyStart`, one for every bracket that is open – and
puts the tokens that announce it in front of it later. A key has to be on one line, and may
have `maxKeyLength` characters up to the colon.

* `Token` – a token;
* `Reader` – what the reader has read and remembers;
* `tokens?` – the tokens of marks.
-/

namespace Colonnade.Yaml

/-- **A token.** -/
inductive Token where
  | directive
  | documentStart
  | documentEnd
  /-- The start of a sequence of lines that begin with a dash. -/
  | blockSequence
  /-- The start of a mapping of lines. -/
  | blockMapping
  /-- The end of either. -/
  | blockEnd
  | openBracket
  | closeBracket
  | openBrace
  | closeBrace
  | comma
  | dash
  | key
  | value
  | anchor (name : String)
  | alias (name : String)
  | tag
  /-- A text; a plain one may stand for something else than a text. -/
  | scalar (text : String) (isPlain : Bool)
deriving DecidableEq, Inhabited

/-- The number of characters that a key on one line may have. -/
def maxKeyLength : Nat := 1024

/-- **Where a key may have begun**: how many tokens precede it, and its mark. A key that is the
only thing its indentation allows is required. -/
structure KeyStart where
  tokenCount : Nat
  index : Nat
  line : Nat
  column : Nat
  isRequired : Bool
deriving DecidableEq, Inhabited

/-- **What the reader has read and remembers.** -/
structure Reader where
  /-- What is not read yet. -/
  rest : List Mark
  /-- The tokens, the last one first. -/
  tokens : List Token := []
  /-- The indentations of the open collections of lines, the innermost first. -/
  indents : List Nat := []
  /-- The number of open brackets and braces. -/
  depth : Nat := 0
  /-- The starts of keys inside of the open brackets, the innermost first. -/
  keys : List (Option KeyStart) := [none]
  /-- A key may begin here. -/
  keyAllowed : Bool := true

namespace Reader

/-- The reader is between brackets. -/
def inFlow (r : Reader) : Bool :=
  0 < r.depth

/-- The tokens with one in front of those after the first `count`. -/
def insertToken (tokens : List Token) (count : Nat) (t : Token) : List Token :=
  tokens.take (tokens.length - count) ++ t :: tokens.drop (tokens.length - count)

/-- Adds a token. -/
def add (r : Reader) (t : Token) : Reader :=
  { r with tokens := t :: r.tokens }

/-- Goes on by some marks. -/
def skip (r : Reader) (n : Nat) : Reader :=
  { r with rest := r.rest.drop n }

/-- A column is farther in than what is open. -/
def isInside (r : Reader) (column : Nat) : Bool :=
  match r.indents with
  | [] => true
  | indent :: _ => indent < column

/-- Opens a collection of lines at a column, unless one is open there. The token goes in
front of those after the first `count`. -/
def indentTo (r : Reader) (column count : Nat) (t : Token) : Reader :=
  if !r.inFlow && r.isInside column then
    { r with indents := column :: r.indents, tokens := insertToken r.tokens count t }
  else r

/-- Closes the collections of lines that are farther in than a column, or all. -/
def outdentTo (r : Reader) (column : Option Nat) : Reader :=
  if r.inFlow then r
  else
    let isClosed (indent : Nat) : Bool := column.all fun c => decide (c < indent)
    let closed := r.indents.takeWhile isClosed
    { r with
      indents := r.indents.dropWhile isClosed
      tokens := List.replicate closed.length .blockEnd ++ r.tokens }

/-! ### Keys -/

/-- The fault of a key without a colon. -/
def missingColon : String := "a colon is missing after a key"

/-- The start of a key that is not any more, or still is. -/
def renewed (m : Mark) (start : KeyStart) : Except String (Option KeyStart) :=
  if start.line < m.line ∨ start.index + maxKeyLength < m.index then
    if start.isRequired then .error missingColon else .ok none
  else .ok (some start)

/-- Forgets the starts that are too far back. -/
def renewKeys (r : Reader) : Except String Reader :=
  match r.rest with
  | [] => .ok r
  | m :: _ => do
    let keys ← r.keys.mapM fun
      | none => .ok none
      | some start => renewed m start
    return { r with keys }

/-- Forgets the innermost start. -/
def forgetKey (r : Reader) : Except String Reader :=
  match r.keys with
  | [] => .ok r
  | start :: keys =>
    if (start.map KeyStart.isRequired).getD false then .error missingColon
    else .ok { r with keys := none :: keys }

/-- Remembers that a key may begin here. -/
def rememberKey (r : Reader) : Except String Reader :=
  match r.rest with
  | [] => .ok r
  | m :: _ =>
    if r.keyAllowed then do
      let r ← r.forgetKey
      let isRequired := !r.inFlow && r.indents.head? == some m.column
      let start : KeyStart := ⟨r.tokens.length, m.index, m.line, m.column, isRequired⟩
      return { r with keys := some start :: r.keys.drop 1 }
    else .ok r

/-! ### Tokens -/

/-- Passes white space and comments; a line end outside of brackets allows a key. -/
def skipSpace (keyAllowed inFlow : Bool) (inComment : Bool) :
    List Mark → Bool × List Mark
  | [] => (keyAllowed, [])
  | m :: ms =>
    if m.isLineEnd then skipSpace (keyAllowed || !inFlow) inFlow false ms
    else if inComment then skipSpace keyAllowed inFlow true ms
    else if m.char = ' ' ∨ (m.char = '\t' ∧ (inFlow ∨ !keyAllowed)) then
      skipSpace keyAllowed inFlow false ms
    else if m.char = '#' then skipSpace keyAllowed inFlow true ms
    else if m.index = 0 ∧ m.char = '\uFEFF' then skipSpace keyAllowed inFlow false ms
    else (keyAllowed, m :: ms)

/-- The reader where a key may begin or not. -/
def allowing (r : Reader) (keyAllowed : Bool) : Reader :=
  { r with keyAllowed }

/-- A token of some marks. -/
def single (r : Reader) (length : Nat) (t : Token) : Except String Reader :=
  .ok ((r.skip length).add t)

/-- The line of a directive: a known version of YAML, or a handle of tags. -/
def readDirective (r : Reader) : Except String Reader :=
  let line := chars (r.rest.takeWhile fun m => !m.isLineEnd)
  let words := (((line.takeWhile (· ≠ '#')).splitBy fun a b => (a == ' ') == (b == ' ')).filter
    fun word => word.head? ≠ some ' ').map String.ofList
  match words with
  | ["%YAML", version] =>
    if version = "1.1" ∨ version = "1.2" then r.single line.length .directive
    else .error "the version of YAML is not known"
  | ["%TAG", _, _] => r.single line.length .directive
  | _ => .error "a directive is not known"

/-- Closes everything in front of what concerns the whole document. -/
def closeAll (r : Reader) : Except String Reader := do
  let r ← (r.outdentTo none).forgetKey
  return r.allowing false

/-- Opens a bracket. -/
def openFlow (r : Reader) (t : Token) : Except String Reader := do
  let r ← r.rememberKey
  let r := { r with keys := none :: r.keys, depth := r.depth + 1 }
  (r.allowing true).single 1 t

/-- Closes a bracket. -/
def closeFlow (r : Reader) (t : Token) : Except String Reader := do
  let r ← r.forgetKey
  let r := if r.inFlow then { r with keys := r.keys.drop 1, depth := r.depth - 1 } else r
  (r.allowing false).single 1 t

/-- An indicator in front of an item or a key, which opens a collection of lines if needed. -/
def announce (r : Reader) (column : Nat) (collection t : Token) : Except String Reader :=
  if !r.inFlow && !r.keyAllowed then .error "a collection of lines cannot begin here"
  else do
    let r ← (r.indentTo column r.tokens.length collection).forgetKey
    (r.allowing (t == Token.dash || !r.inFlow)).single 1 t

/-- A colon: the value of the key that began before, or of none. -/
def readColon (r : Reader) (column : Nat) : Except String Reader :=
  match r.keys with
  | some start :: keys =>
    let r := { r with tokens := insertToken r.tokens start.tokenCount .key, keys := none :: keys }
    let r := r.indentTo start.column start.tokenCount .blockMapping
    (r.allowing false).single 1 .value
  | _ =>
    if !r.inFlow && !r.keyAllowed then .error "a mapping cannot begin here"
    else
      let r := r.indentTo column r.tokens.length .blockMapping
      (r.allowing (!r.inFlow)).single 1 .value

/-- The characters of the names of anchors. -/
def isNameChar (c : Char) : Bool :=
  c.isAlphanum || c == '-' || c == '_'

/-- The name of an anchor or of a reference to one. -/
def readName (r : Reader) (token : String → Token) : Except String Reader := do
  let r ← r.rememberKey
  let name := chars ((r.rest.drop 1).takeWhile fun m => isNameChar m.char)
  let rest := r.rest.drop (1 + name.length)
  if name.isEmpty ∨ !(atWordEnd rest ||
      (next? rest).any fun c => ['?', ':', ',', ']', '\x7d', '%', '@', '\x60'].contains c) then
    .error "an anchor has no name"
  else (r.allowing false).single (1 + name.length) (token (String.ofList name))

/-- The characters of tags. -/
def isTagChar (c : Char) : Bool :=
  isNameChar c || ";/?:@&=+$.!~*\x27()%".toList.contains c

/-- A tag, which does not matter here. -/
def readTag (r : Reader) : Except String Reader := do
  let r ← r.rememberKey
  let r := r.allowing false
  if chars (r.rest.take 2) = ['!', '<'] then
    let inside := r.rest.takeWhile fun m => m.char != '>' && !endsWord (some m.char)
    if next? (r.rest.drop inside.length) = some '>' then r.single (inside.length + 1) .tag
    else .error "a tag does not end"
  else
    let length := (r.rest.takeWhile fun m => isTagChar m.char).length
    let rest := r.rest.drop length
    if atWordEnd rest || (r.inFlow && next? rest == some ',') then r.single length .tag
    else .error "a tag does not end"

/-- The marks of a text that was read, and the token. -/
def addScalar (r : Reader) (text : List Char) (isPlain : Bool) (rest : List Mark) : Reader :=
  { r with tokens := .scalar (String.ofList text) isPlain :: r.tokens, rest }

/-- A scalar between quotation marks. -/
def readQuotedScalar (r : Reader) (double : Bool) : Except String Reader := do
  let r ← r.rememberKey
  let (text, rest) ← readQuoted double (r.rest.drop 1)
  return (r.allowing false).addScalar text false rest

/-- The least column of what is inside of the open collections of lines. -/
def leastInside (r : Reader) : Nat :=
  match r.indents with
  | [] => 0
  | indent :: _ => indent + 1

/-- A block. -/
def readBlockScalar (r : Reader) (folded : Bool) : Except String Reader := do
  let r ← r.forgetKey
  let (text, rest) ← readBlock folded r.leastInside (r.rest.drop 1)
  return (r.allowing true).addScalar text false rest

/-- A plain scalar. -/
def readPlainScalar (r : Reader) : Except String Reader := do
  let r ← r.rememberKey
  let (text, wentOn, rest) ← readPlain r.inFlow r.leastInside r.rest
  return (r.allowing wentOn).addScalar text true rest

/-- The characters that a plain scalar cannot begin with. -/
def startsPlain (r : Reader) (c : Char) (next : Option Char) : Bool :=
  let isBlankNext := next.any fun c => c == ' ' || c == '\t'
  if c = '-' then !isBlankNext
  else if c = '?' ∨ c = ':' then !r.inFlow && !endsWord next
  else !endsWord (some c) && !leadingIndicators.contains c

/-- **Reads the next token**; the reader stands in front of it. -/
def readToken (r : Reader) (m : Mark) (next : Option Char) : Except String Reader :=
  if m.column = 0 ∧ m.char = '%' then do (← r.closeAll).readDirective
  else if isLineOf ['-', '-', '-'] r.rest then do (← r.closeAll).single 3 .documentStart
  else if isLineOf ['.', '.', '.'] r.rest then do (← r.closeAll).single 3 .documentEnd
  else
    match m.char with
    | '[' => r.openFlow .openBracket
    | '\x7b' => r.openFlow .openBrace
    | ']' => r.closeFlow .closeBracket
    | '\x7d' => r.closeFlow .closeBrace
    | ',' => do ((← r.forgetKey).allowing true).single 1 .comma
    | '*' => r.readName .alias
    | '&' => r.readName .anchor
    | '!' => r.readTag
    | '\'' => r.readQuotedScalar false
    | '"' => r.readQuotedScalar true
    | c =>
      if c = '-' ∧ endsWord next then r.announce m.column .blockSequence .dash
      else if c = '?' ∧ (r.inFlow ∨ endsWord next) then r.announce m.column .blockMapping .key
      else if c = ':' ∧ (r.inFlow ∨ endsWord next) then r.readColon m.column
      else if c = '|' ∧ !r.inFlow then r.readBlockScalar false
      else if c = '>' ∧ !r.inFlow then r.readBlockScalar true
      else if r.startsPlain c next then r.readPlainScalar
      else .error "a token cannot begin with this character"

/-- **Reads all tokens**: one in every step. -/
def run : (steps : Nat) → Reader → Except String Reader
  | 0, _ => .error "there are too many tokens"
  | steps + 1, r => do
    let (keyAllowed, rest) := skipSpace r.keyAllowed r.inFlow false r.rest
    let r ← { r with keyAllowed, rest }.renewKeys
    match r.rest with
    | [] => (r.outdentTo none).forgetKey
    | m :: ms =>
      let r := r.outdentTo (some m.column)
      run steps (← r.readToken m (next? ms))

end Reader

/-- **The tokens of marks.** -/
def tokens? (ms : List Mark) : Except String (List Token) :=
  (Reader.run (ms.length + 1) { rest := ms }).map fun r => r.tokens.reverse

end Colonnade.Yaml
