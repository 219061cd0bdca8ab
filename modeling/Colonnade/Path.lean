import Colonnade.Text.Blank

/-!
# Paths of columns

A column inside nested groups is named by a `Path`: the names of the groups from the
outermost on, and its own name last. A path has at least one segment.

`Path.ofText?` splits a text at a separator, trims the segments and drops those that are
empty; `Path.text` joins the segments with points. Segments may hold any character, so a
text with points need not read back.

Paths are ordered by their segments, and a path comes before those that continue it.
-/

namespace Colonnade

/-- **A path**: the names that lead to a column, at least one. -/
structure Path where
  segments : List String
  nonempty : segments ≠ []
deriving DecidableEq

namespace Path

/-- The path with these segments, if there are any. -/
def ofSegments? (segments : List String) : Option Path :=
  if h : segments ≠ [] then some ⟨segments, h⟩ else none

/-- The path of a column that is in no group. -/
def single (name : String) : Path :=
  ⟨[name], List.cons_ne_nil _ _⟩

instance : Inhabited Path := ⟨single ""⟩

/-- The path of a name after a list of others. -/
def below (above : List String) (name : String) : Path :=
  ⟨above ++ [name], by simp⟩

/-- **Reading a path**: what stands between separators, trimmed, without empty segments. -/
def ofText? (separator : Char) (s : String) : Option Path :=
  ofSegments? <|
    ((s.toList.splitOnP (· == separator)).map fun cs => String.ofList (Text.trimChars cs)).filter
      fun segment => !segment.isEmpty

/-- How many segments there are. -/
def length (p : Path) : Nat :=
  p.segments.length

/-- **The text of a path**: its segments with points between them. -/
def text (p : Path) : String :=
  ".".intercalate p.segments

/-- The name of the column itself. -/
def last (p : Path) : String :=
  p.segments.getLast p.nonempty

/-- The path of the group around the column, if it is in one. -/
def parent? (p : Path) : Option Path :=
  ofSegments? p.segments.dropLast

/-- The path of a column in the group with this path. -/
def child (p : Path) (name : String) : Path :=
  below p.segments name

/-- The path of a column beside this one. -/
def withLast (p : Path) (name : String) : Path :=
  below p.segments.dropLast name

/-- The segments of `q` are the first of `p`. -/
def startsWith (p q : Path) : Bool :=
  q.segments.isPrefixOf p.segments

/-- The path up to and with the segment at `depth`. -/
def upTo (p : Path) (depth : Nat) : Path :=
  ⟨p.segments.take (depth + 1), by simp [p.nonempty]⟩

instance : Ord Path := ⟨fun p q => compare p.segments q.segments⟩

/-! ### Small facts -/

@[simp] theorem segments_single (name : String) : (single name).segments = [name] := rfl

@[simp] theorem segments_below (above : List String) (name : String) :
    (below above name).segments = above ++ [name] := rfl

@[simp] theorem segments_child (p : Path) (name : String) :
    (p.child name).segments = p.segments ++ [name] := rfl

@[ext] theorem ext {p q : Path} (h : p.segments = q.segments) : p = q := by
  cases p; cases q; cases h; rfl

@[simp] theorem withLast_last (p : Path) : p.withLast p.last = p :=
  ext (List.dropLast_concat_getLast p.nonempty)

end Path

end Colonnade
