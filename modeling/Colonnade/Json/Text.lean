import Colonnade.Json.Number

/-!
# JSON texts

`Json.ofText?` reads a document, and tells a text that ends too early from any other fault.
The grammar is the common one. White space is space, tab, line feed and carriage return.
A character below the space cannot stand in a string, and a surrogate has to be one of a
pair. There may be at most `maxDepth` arrays and objects inside each other.

The reader goes from left to right and stops at the first fault, so the kind of fault is that
of the first place where the text leaves the grammar. Of any three calls inside each other
one takes a character, so three times the length of the text bounds their number.
-/

namespace Colonnade.Json

/-- The number of arrays and objects inside each other that a text may have. -/
def maxDepth : Nat := 127

/-- White space between the parts of a document. -/
def isSpace (c : Char) : Bool :=
  c == ' ' || c == '\t' || c == '\n' || c == '\r'

/-- The text from its next part on. -/
def skip (cs : List Char) : List Char :=
  cs.dropWhile isSpace

/-! ### Strings -/

/-- The value of a hexadecimal digit. -/
def hexValue? (c : Char) : Option Nat :=
  if c.isDigit then some (c.toNat - '0'.toNat)
  else if 'a' ≤ c ∧ c ≤ 'f' then some (c.toNat - 'a'.toNat + 10)
  else if 'A' ≤ c ∧ c ≤ 'F' then some (c.toNat - 'A'.toNat + 10)
  else none

/-- The number of bytes of a text. -/
def byteLength (cs : List Char) : Nat :=
  cs.foldr (fun c n => c.utf8Size + n) 0

/-- Reads four hexadecimal digits; a text of less than four bytes is too short. -/
def readUnit (cs : List Char) : Except Fault (Nat × List Char) :=
  if byteLength (cs.take 4) < 4 then .error .unfinished
  else
    match (cs.take 4).mapM hexValue? with
    | some ds => .ok (ds.foldl (fun n d => 16 * n + d) 0, cs.drop 4)
    | none => .error .malformed

/-- Reads the second half of a pair of surrogates. -/
def readLowSurrogate (high : Nat) : List Char → Except Fault (Char × List Char)
  | [] => .error .unfinished
  | '\\' :: [] => .error .unfinished
  | '\\' :: 'u' :: cs =>
    match readUnit cs with
    | .ok (low, rest) =>
      if 0xDC00 ≤ low ∧ low ≤ 0xDFFF then
        .ok (Char.ofNat ((high - 0xD800) * 0x400 + (low - 0xDC00) + 0x10000), rest)
      else .error .malformed
    | .error fault => .error fault
  | _ => .error .malformed

/-- Reads a character that is written as one or two code units. -/
def readCodePoint (cs : List Char) : Except Fault (Char × List Char) :=
  match readUnit cs with
  | .ok (n, rest) =>
    if 0xDC00 ≤ n ∧ n ≤ 0xDFFF then .error .malformed
    else if 0xD800 ≤ n ∧ n ≤ 0xDBFF then readLowSurrogate n rest
    else .ok (Char.ofNat n, rest)
  | .error fault => .error fault

/-- Reads what follows a backslash. -/
def readEscape : List Char → Except Fault (Char × List Char)
  | [] => .error .unfinished
  | 'u' :: cs => readCodePoint cs
  | c :: cs =>
    match [('"', '"'), ('\\', '\\'), ('/', '/'), ('b', '\x08'), ('f', '\x0c'), ('n', '\n'),
        ('r', '\r'), ('t', '\t')].find? fun (mark, _) => mark == c with
    | some (_, meant) => .ok (meant, cs)
    | none => .error .malformed

/-- **Reading a string** after its quotation mark. -/
def readString : (fuel : Nat) → List Char → Except Fault (List Char × List Char)
  | 0, _ => .error .unfinished
  | _ + 1, [] => .error .unfinished
  | _ + 1, '"' :: cs => .ok ([], cs)
  | fuel + 1, '\\' :: cs => do
    let (c, cs) ← readEscape cs
    let (s, rest) ← readString fuel cs
    return (c :: s, rest)
  | fuel + 1, c :: cs =>
    if c.toNat < 0x20 then .error .malformed
    else do
      let (s, rest) ← readString fuel cs
      return (c :: s, rest)

/-! ### Values -/

/-- Reads the rest of a word. -/
def readWord : (word : List Char) → List Char → Except Fault (List Char)
  | [], cs => .ok cs
  | _ :: _, [] => .error .unfinished
  | w :: word, c :: cs => if w = c then readWord word cs else .error .malformed

mutual

/-- **Reading a value**, inside which there may be `depth` more levels of nesting. -/
def readValue : (fuel depth : Nat) → List Char → Except Fault (Json × List Char)
  | 0, _, _ => .error .malformed
  | fuel + 1, depth, cs =>
    match skip cs with
    | [] => .error .unfinished
    | 'n' :: cs => (readWord ['u', 'l', 'l'] cs).map (.null, ·)
    | 't' :: cs => (readWord ['r', 'u', 'e'] cs).map (.bool true, ·)
    | 'f' :: cs => (readWord ['a', 'l', 's', 'e'] cs).map (.bool false, ·)
    | '"' :: cs =>
      (readString (cs.length + 1) cs).map fun (s, rest) => (.string (String.ofList s), rest)
    | '-' :: cs => readNumber true cs
    | '[' :: cs =>
      if depth = 0 then .error .malformed
      else (readItems fuel (depth - 1) true cs).map fun (items, rest) => (.array items, rest)
    | '\x7b' :: cs =>
      if depth = 0 then .error .malformed
      else
        (readMembers fuel (depth - 1) true cs).map fun (members, rest) =>
          (ofMembers members, rest)
    | c :: cs => if c.isDigit then readNumber false (c :: cs) else .error .malformed

/-- Reads the items of an array up to its end; `first` if none has been read. -/
def readItems :
    (fuel depth : Nat) → (first : Bool) → List Char → Except Fault (List Json × List Char)
  | 0, _, _, _ => .error .malformed
  | fuel + 1, depth, first, cs =>
    match skip cs with
    | [] => .error .unfinished
    | ']' :: rest => .ok ([], rest)
    | c :: cs =>
      if first then do
        let (item, rest) ← readValue fuel depth (c :: cs)
        let (items, rest) ← readItems fuel depth false rest
        return (item :: items, rest)
      else if c = ',' then
        if (skip cs).head? = some ']' then .error .malformed
        else do
          let (item, rest) ← readValue fuel depth cs
          let (items, rest) ← readItems fuel depth false rest
          return (item :: items, rest)
      else .error .malformed

/-- Reads the members of an object up to its end; `first` if none has been read. -/
def readMembers :
    (fuel depth : Nat) → (first : Bool) → List Char →
      Except Fault (List (String × Json) × List Char)
  | 0, _, _, _ => .error .malformed
  | fuel + 1, depth, first, cs =>
    match skip cs with
    | [] => .error .unfinished
    | '\x7d' :: rest => .ok ([], rest)
    | c :: cs =>
      if first then readMember fuel depth (c :: cs)
      else if c = ',' then readMember fuel depth cs
      else .error .malformed

/-- Reads a member and those after it. -/
def readMember :
    (fuel depth : Nat) → List Char → Except Fault (List (String × Json) × List Char)
  | 0, _, _ => .error .malformed
  | fuel + 1, depth, cs =>
    match skip cs with
    | [] => .error .unfinished
    | '"' :: cs => do
      let (key, rest) ← readString (cs.length + 1) cs
      match skip rest with
      | [] => .error .unfinished
      | ':' :: rest =>
        let (value, rest) ← readValue fuel depth rest
        let (members, rest) ← readMembers fuel depth false rest
        return ((String.ofList key, value) :: members, rest)
      | _ => .error .malformed
    | _ => .error .malformed

end

/-- **Reading a document**: one value, and nothing but white space after it. -/
def ofText? (s : String) : Except Fault Json := do
  let (value, rest) ← readValue (3 * s.length + 3) maxDepth s.toList
  if (skip rest).isEmpty then return value else .error .malformed

end Colonnade.Json
