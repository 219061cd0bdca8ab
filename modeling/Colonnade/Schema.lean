import Colonnade.Table
import Colonnade.Yaml.Scalar

/-!
# Schemas

A `Schema` says what is in a frame without its cells: how many rows there are, and for every
leaf its path, its type and whether it may hold nulls.

* `Frame.schema` – the schema of a frame;
* `Schema.tableRows` – the rows of its table;
* `Schema.yaml` – its written form.
-/

namespace Colonnade

/-- What a schema says of a leaf. -/
structure Schema.Leaf where
  path : Path
  type : ColumnType
  nullable : Bool
deriving DecidableEq, Inhabited

/-- **A schema.** -/
structure Schema where
  rowCount : Nat
  leaves : List Schema.Leaf
deriving DecidableEq, Inhabited

/-- **The schema of a frame.** -/
def Frame.schema (f : Frame) : Schema where
  rowCount := f.rowCount
  leaves := f.leaves.map fun (path, c) => { path, type := c.type, nullable := c.isNullable }

namespace Schema

/-- The headers of the table of a schema. -/
def headers : List String := ["path", "type", "nullable"]

/-- The rows of the table of a schema. -/
def tableRows (s : Schema) : List (List String) :=
  s.leaves.map fun leaf =>
    [leaf.path.text, leaf.type.text, if leaf.nullable then "yes" else "no"]

/-- How far a block inside the entry of a leaf is indented. -/
def blockIndent : Nat := 4

/-- The entry of a leaf in the written form. -/
def leafYaml (leaf : Leaf) : String :=
  "- path: " ++ Yaml.writeText blockIndent leaf.path.text ++
    "  type: " ++ Yaml.writeText blockIndent leaf.type.token ++
    "  nullable: " ++ (if leaf.nullable then "true" else "false") ++ "\n"

/-- **The written form of a schema.** -/
def yaml (s : Schema) : String :=
  "rows: " ++ FrameError.count s.rowCount ++ "\ncolumns:" ++
    if s.leaves.isEmpty then " []\n" else "\n" ++ String.join (s.leaves.map leafYaml)

end Schema

end Colonnade
