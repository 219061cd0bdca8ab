/-!
# Sets written in order

Null strings and skipped types are sets whose members are listed in ascending
order, without repetition. A set is kept as that list, so that two sets with the
same members are the same value: `insertInOrder` puts one member in its place and
`inOrder` builds the list from any other.
-/

namespace Colonnade

variable {α : Type} [Ord α]

/-- Puts `a` into an ascending list, unless it is there. -/
def insertInOrder (a : α) : List α → List α
  | [] => [a]
  | b :: bs =>
    match compare a b with
    | .lt => a :: b :: bs
    | .eq => b :: bs
    | .gt => b :: insertInOrder a bs

/-- The members of a list in ascending order, each once. -/
def inOrder (as : List α) : List α :=
  as.foldl (fun set a => insertInOrder a set) []

/-- The members of two ascending lists together. -/
def unionInOrder (as bs : List α) : List α :=
  bs.foldl (fun set b => insertInOrder b set) as

end Colonnade
