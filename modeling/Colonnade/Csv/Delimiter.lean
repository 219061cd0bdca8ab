import Colonnade.Text.Letter

/-!
# Delimiters

A delimiter is one ASCII character. It may be named by a word, and the word for the tab is
the only way to give it on many command lines. A file that is not said to have another one
has a comma, or a tab if the extension of its name says so.
-/

namespace Colonnade.Csv.Delimiter

/-- Why a text is no delimiter. -/
inductive ReadError where
  | empty
  | tooLong
  | notAscii
deriving DecidableEq

/-- The message of a failed reading. -/
def ReadError.message : ReadError → String
  | empty => "Delimiter cannot be empty"
  | tooLong => "Delimiter must be a single character"
  | notAscii => "Delimiter must be ASCII"

def comma : UInt8 := 0x2C
def tab : UInt8 := 0x09

/-- The delimiters that have a name. -/
def names : List (String × UInt8) :=
  [("tab", tab), ("comma", comma), ("pipe", 0x7C), ("semicolon", 0x3B)]

/-- **Reading a delimiter**: a name, or the character itself. -/
def ofText? (s : String) : Except ReadError UInt8 :=
  match names.find? fun (name, _) => name == s with
  | some (_, b) => .ok b
  | none =>
    match s.toList with
    | [] => .error .empty
    | [c] => if c.toNat < 128 then .ok (UInt8.ofNat c.toNat) else .error .notAscii
    | _ => .error .tooLong

/-! ### Names of files -/

/-- The parts of a path between slashes that are not empty and not the current directory,
which counts only if nothing precedes it. -/
def parts (path : String) : List (List Char) :=
  (path.toList.splitOnP (· == '/')).filter fun part => !part.isEmpty

/-- The parts that matter: `.` is dropped unless it comes first in a relative path. -/
def components (path : String) : List (List Char) :=
  match parts path with
  | [] => []
  | first :: rest =>
    let rest := rest.filter (· ≠ ['.'])
    if first = ['.'] ∧ path.startsWith "/" then rest else first :: rest

/-- The path means the standard input. -/
def isDash (path : String) : Bool :=
  !path.startsWith "/" && components path == [['-']]

/-- The extension of the name of a file: what follows the last point, unless the point comes
first. -/
def extension? (path : String) : Option (List Char) :=
  match (components path).getLast? with
  | none => none
  | some name =>
    if name = ['.', '.'] ∨ name = ['.'] then none
    else
      let extension := (name.reverse.takeWhile (· ≠ '.')).reverse
      if name.length ≤ extension.length + 1 then none else some extension

/-- **The delimiter of a file**: the one that is given, or the one that its name suggests. -/
def forFile (path : String) (given : Option UInt8) : UInt8 :=
  match given with
  | some b => b
  | none =>
    match extension? path with
    | some extension => if Text.sameLetters extension ['t', 's', 'v'] then tab else comma
    | none => comma

/-- A delimiter as messages show it. -/
def shown (b : UInt8) : String :=
  if b = tab then "\\t"
  else if b = 0x0A then "\\n"
  else String.singleton (Char.ofNat b.toNat)

end Colonnade.Csv.Delimiter
