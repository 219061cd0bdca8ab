import Colonnade.Ascending
import Colonnade.Number.Double

/-!
# JSON values

A `Json` value is kept the way a reader of columns needs it. A number is an integer if it is
written as one and fits into 64 bits, signed or not, and a `Double` otherwise. The members
of an object are in ascending order of their keys, and each key stands once.
-/

namespace Colonnade

/-- **A JSON value.** -/
inductive Json where
  | null
  | bool (b : Bool)
  /-- A number without fraction and exponent that fits into 64 bits. -/
  | integer (n : Int)
  /-- Any other number. -/
  | double (x : Double)
  | string (s : String)
  | array (items : List Json)
  /-- The members in ascending order of their keys. -/
  | object (members : List (String × Json))
deriving Inhabited

namespace Json

/-- Why a text is not a JSON document. -/
inductive Fault where
  /-- A character that cannot stand where it does, a number out of range, or too deep a
  nesting. -/
  | malformed
  /-- The text ends too early. -/
  | unfinished
deriving DecidableEq, Inhabited

/-- The word for a fault. -/
def Fault.word : Fault → String
  | malformed => "syntax"
  | unfinished => "eof"

/-- The value of a key in ascending members. -/
def member? (key : String) (members : List (String × Json)) : Option Json :=
  (members.find? fun (k, _) => k == key).map Prod.snd

/-- Puts a member in its place; a later value of a key replaces the one before. -/
def insertMember (key : String) (value : Json) :
    List (String × Json) → List (String × Json)
  | [] => [(key, value)]
  | (k, v) :: rest =>
    match compare key k with
    | .lt => (key, value) :: (k, v) :: rest
    | .eq => (key, value) :: rest
    | .gt => (k, v) :: insertMember key value rest

/-- The object with these members, read from left to right. -/
def ofMembers (members : List (String × Json)) : Json :=
  .object (members.foldl (fun sorted (k, v) => insertMember k v sorted) [])

end Json

end Colonnade
