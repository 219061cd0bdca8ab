import Colonnade.Frame.Lookup

/-!
# Tables of text

A table is laid out in columns of fixed width, two blanks apart: a line of headers, a rule,
and a line for every row. A column is as wide as its widest text, and at least one character
wide; the rule is at least three. Blanks at the end of a line are dropped.

The width of a text is the number of its characters, where a colour sequence – an escape
character and all up to the next `m` – has none. Line ends and tabs would break the layout
and are shown as blanks.

* `Table.render` – the text of headers and rows;
* `Frame.render` – the first rows of a frame, with a column for each leaf.
-/

namespace Colonnade

namespace Table

/-- The character that begins a colour sequence. -/
def escapeChar : Char := '\x1b'

/-- **The width of a text**; `inSequence` while in a colour sequence. -/
def width (inSequence : Bool) : List Char → Nat
  | [] => 0
  | c :: cs =>
    if inSequence then width (c != 'm') cs
    else if c = escapeChar then width true cs
    else width false cs + 1

/-- The width of a text from its start. -/
def widthOf (s : String) : Nat :=
  width false s.toList

/-- The text on one line. -/
def oneLine (s : String) : String :=
  String.ofList (s.toList.map fun c => if c = '\n' ∨ c = '\r' ∨ c = '\t' then ' ' else c)

/-- The widths that a row needs, no less than those so far. -/
def widen (widths : List Nat) (row : List String) : List Nat :=
  match widths, row with
  | w :: widths, cell :: row => max w (widthOf cell) :: widen widths row
  | widths, _ => widths

/-- **The widths of the columns.** -/
def widths (headers : List String) (rows : List (List String)) : List Nat :=
  rows.foldl widen (headers.map fun h => max (widthOf h) 1)

/-- A cell with blanks up to a width. -/
def padded (cell : String) (w : Nat) : String :=
  let line := oneLine cell
  line ++ String.ofList (List.replicate (w - widthOf line) ' ')

/-- **A line** of cells, no more than there are columns. -/
def line (widths : List Nat) (cells : List String) : String :=
  let joined := "  ".intercalate (cells.zipWith padded widths)
  String.ofList (Text.trimEnd joined.toList) ++ "\n"

/-- The width of a column in the rule. -/
def ruleWidth (w : Nat) : Nat :=
  max w 3

/-- The rule under the headers. -/
def rule (widths : List Nat) : String :=
  let widths := widths.map ruleWidth
  line widths (widths.map fun w => String.ofList (List.replicate w '-'))

/-- **The text of a table.** -/
def render (headers : List String) (rows : List (List String)) : String :=
  let ws := widths headers rows
  line ws headers ++ rule ws ++ String.join (rows.map (line ws))

end Table

namespace Frame

/-- The leaves of a frame with their paths. -/
def leaves (f : Frame) : List (Path × Column) :=
  f.leafPaths.filterMap fun p => (f.get p).toOption.map (p, ·)

/-- The cells of a row of leaves, a null being shown as nothing. -/
def rowTexts (leaves : List (Path × Column)) (i : Nat) : List String :=
  leaves.map fun (_, c) => ((c.cell i).map Value.text).getD ""

/-- **The first rows of a frame as a table.** -/
def render (f : Frame) (limit : Nat) : String :=
  let leaves := f.leaves
  Table.render (leaves.map fun (p, _) => p.text)
    ((List.range (min f.rowCount limit)).map (rowTexts leaves))

end Frame

end Colonnade
