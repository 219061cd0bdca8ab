import Colonnade.Number.Digits
import Colonnade.Text.Letter

/-!
# Written scalars of YAML

A text is written in YAML in one of four styles. The *plain* style has no marks at all, so
it is out of the question for a text that would be read as something else – a number, a
truth value, null – or that has an indicator of YAML in it. Such a text goes between *single*
quotation marks, unless it has characters that do not show: then it goes between *double*
ones, with escapes. A text of several lines is a *literal* block.

* `Yaml.isAmbiguous` – the text may be taken for something else than a text;
* `Yaml.Shape` – what the characters of a text rule out;
* `Yaml.writeText` – the written form of a text, inside a mapping.
-/

namespace Colonnade.Yaml

open Number

/-! ### Texts that look like something else -/

/-- Words that stand for truth values, null or not a number, in lower case. -/
def words : List String :=
  ["true", "false", "null", "~", "y", "yes", "n", "no", "on", "off", "nil", "nan"]

/-- **The text may be taken for something else**: it is one of the words, or it begins as a
number does. -/
def isAmbiguous (s : String) : Bool :=
  match s.toList with
  | [] => true
  | c :: _ =>
    c.isDigit || c == '-' || c == '.' || c == '+' || words.contains (Text.lower s)

/-! ### What characters rule out -/

/-- The character ends a line. -/
def isBreak (c : Char) : Bool :=
  c == '\n' || c == '\r' || c == '\x85' || c == '\u2028' || c == '\u2029'

/-- The character shows in a written document. -/
def isPrintable (c : Char) : Bool :=
  let n := c.toNat
  n == 0x0A || (0x20 ≤ n && n ≤ 0x7E) ||
    (0xA0 ≤ n && n ≤ 0xFFFD && n != 0xFEFF)

/-- A blank, the end of a line, or the end of the text. -/
def endsWord : Option Char → Bool
  | none => true
  | some c => c == ' ' || c == '\t' || isBreak c

/-- The characters that a plain text cannot begin with. -/
def leadingIndicators : List Char :=
  ['#', ',', '[', ']', '\x7b', '\x7d', '&', '*', '!', '|', '>', '\'', '"', '%', '@', '\x60']

/-- The first character makes a plain text impossible. -/
def badStart (c : Char) (next : Option Char) : Bool :=
  leadingIndicators.contains c ||
    ((c == '?' || c == ':' || c == '-') && endsWord next)

/-- A later character makes a plain text impossible. -/
def badInside (previous c : Char) (next : Option Char) : Bool :=
  (c == ':' && endsWord next) || (c == '#' && endsWord (some previous))

/-- Some character after `previous` makes a plain text impossible. -/
def hasBadInside (previous : Char) : List Char → Bool
  | [] => false
  | c :: cs => badInside previous c cs.head? || hasBadInside c cs

/-- A character that satisfies `p` stands right before one that satisfies `q`. -/
def hasPair (p q : Char → Bool) : List Char → Bool
  | a :: b :: cs => (p a && q b) || hasPair p q (b :: cs)
  | _ => false

/-- **What the characters of a text rule out.** -/
structure Shape where
  plain : Bool
  single : Bool
  literal : Bool
deriving DecidableEq

/-- The shape of a text. -/
def Shape.of (s : String) : Shape :=
  let cs := s.toList
  match cs with
  | [] => ⟨true, true, false⟩
  | c :: rest =>
    let isSpace (c : Char) : Bool := c == ' '
    let special := !cs.all isPrintable || hasPair isSpace isBreak cs
    let breakSpace := hasPair isBreak isSpace cs
    let edge (c : Char) : Bool := isSpace c || isBreak c
    let last := cs.getLast?.getD c
    let marks := s.startsWith "---" || s.startsWith "..." || badStart c rest.head? ||
      hasBadInside c rest
    { plain := !(special || breakSpace || edge c || edge last || cs.any isBreak || marks)
      single := !(special || breakSpace)
      literal := !(special || isSpace last) }

/-! ### Writing -/

/-- The digits of a number in the hexadecimal system, in upper case, to a width. -/
def hexDigits (width n : Nat) : List Char :=
  padZeros width ((Nat.toDigits 16 n).map Char.toUpper)

/-- The escapes of characters that have one of their own. -/
def shortEscapes : List (Nat × Char) :=
  [(0x00, '0'), (0x07, 'a'), (0x08, 'b'), (0x09, 't'), (0x0A, 'n'), (0x0B, 'v'), (0x0C, 'f'),
    (0x0D, 'r'), (0x1B, 'e'), (0x22, '"'), (0x5C, '\\'), (0x85, 'N'), (0x2028, 'L'),
    (0x2029, 'P')]

/-- A character between double quotation marks. -/
def escaped (c : Char) : List Char :=
  let n := c.toNat
  match shortEscapes.find? fun (code, _) => code == n with
  | some (_, mark) => ['\\', mark]
  | none =>
    if isPrintable c then [c]
    else if n ≤ 0xFF then '\\' :: 'x' :: hexDigits 2 n
    else if n ≤ 0xFFFF then '\\' :: 'u' :: hexDigits 4 n
    else '\\' :: 'U' :: hexDigits 8 n

/-- A text between double quotation marks. -/
def doubleQuoted (s : String) : String :=
  String.ofList ('"' :: s.toList.flatMap escaped ++ ['"'])

/-- The lines of a text, each after the first indented by `indent` blanks if it has characters;
the first one too if `atStart`. -/
def indented (indent : Nat) (atStart : Bool) : List Char → List Char
  | [] => []
  | c :: cs =>
    if isBreak c then c :: indented indent true cs
    else if atStart then List.replicate indent ' ' ++ c :: indented indent false cs
    else c :: indented indent false cs

/-- A text between single quotation marks, those inside being doubled. -/
def singleQuoted (indent : Nat) (s : String) : String :=
  let inside := s.toList.flatMap fun c => if c = '\'' then ['\'', '\''] else [c]
  String.ofList ('\'' :: indented indent false (inside ++ ['\'']))

/-- The head of a literal block: how its indentation and its end are told. -/
def literalHead (cs : List Char) : List Char :=
  let indent := if (cs.head?.map fun c => c == ' ' || isBreak c).getD false then ['2'] else []
  let tail := cs.reverse.takeWhile isBreak
  let chomp :=
    if tail.isEmpty then ['-'] else if tail.length = 1 ∧ 1 < cs.length then [] else ['+']
  '|' :: indent ++ chomp

/-- A text as a literal block, indented by `indent` blanks. -/
def literal (indent : Nat) (s : String) : String :=
  String.ofList (literalHead s.toList ++ '\n' :: indented indent true s.toList)

/-- Ends the last line of a text, unless it ends with the end of a line. -/
def endLine (s : String) : String :=
  if (s.toList.getLast?.map isBreak).getD false then s else s ++ "\n"

/-- **The written form of a text** in a mapping whose blocks are indented by `indent`, up to the
end of its last line. -/
def writeText (indent : Nat) (s : String) : String :=
  let shape := Shape.of s
  endLine <|
    if s.toList.contains '\n' then
      if shape.literal then literal indent s else doubleQuoted s
    else if shape.plain && !isAmbiguous s then s
    else if shape.single then singleQuoted indent s
    else doubleQuoted s

end Colonnade.Yaml
