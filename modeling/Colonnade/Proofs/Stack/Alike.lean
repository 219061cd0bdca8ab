import Colonnade.Proofs.Soundness.Stack
import Colonnade.Proofs.Stack.Depth
import Colonnade.Proofs.Stack.Total

/-!
# Pieces that are alike

Columns are of one of three *kinds*: values, a group or frames. Pieces are of the same kinds if
columns at the same names are of one kind in all of them, `Piece.SameKind`, and they are alike if
besides columns of values hold nothing nested, `Piece.Alike`. A stack takes a group apart into its
rows, each a piece of the level below (`Piece.inside`), so both have to go with the rows:

* what agrees at the same names of the pieces agrees at the same names of the rows of their groups,
  `Piece.RowsFromGroups.agree_inside`;
* the rows of a group are of the same kinds if the pieces are, `Piece.SameKind.inside`, and alike if
  the pieces are, `Piece.Alike.inside`;
* at the names inside a group, the cells of the rows are the cells of the pieces,
  `Piece.Alike.flatMap_cellsAt_inside`.
-/

namespace Colonnade

/-! ### Kinds of columns -/

/-- The three kinds of columns. -/
inductive Column.Kind where
  | values
  | group
  | frames
deriving DecidableEq

namespace Column

/-- The kind of a column. -/
def kind : Column → Kind
  | value _ _ _ _ => .values
  | group _ _ => .group
  | frames _ _ => .frames

/-- **A flat column**: if it is one of values, neither its type nor any of its cells is nested. -/
def Flat : Column → Prop
  | value _ type _ cells =>
    type ≠ .row ∧ type ≠ .frame ∧ ∀ v, some v ∈ cells → v.type ≠ .row ∧ v.type ≠ .frame
  | _ => True

/-- What a column of a kind has in a row about which nothing is known. -/
def Kind.absent : Kind → Option Value
  | .frames => some (.frame .empty)
  | _ => none

variable {c : Column}

theorem group?_eq_none_iff : c.group? = none ↔ c.kind ≠ .group := by
  cases c <;> simp [kind, group?]

/-- Names lead on only from a group. -/
theorem exists_eq_group_of_descend? {name : String} {rest : List String} {d : Column}
    (h : c.descend? (name :: rest) = some d) : ∃ label f, c = .group label f := by
  cases c with
  | group label f => exact ⟨label, f, rfl⟩
  | value _ _ _ _ => exact absurd h (by simp [descend?])
  | frames _ _ => exact absurd h (by simp [descend?])

/-- Groups have one type, -/
theorem type_of_kind_eq_group (h : c.kind = .group) : c.type = .row := by
  cases c with
  | group label f => rfl
  | value _ _ _ _ => exact absurd h (by simp [kind])
  | frames _ _ => exact absurd h (by simp [kind])

/-- A flat column of values has no nested cells. -/
theorem Flat.cells_ne (hc : c.Flat) (h : c.kind = .values) {v : Value} (hv : some v ∈ c.cells) :
    v.type ≠ .row ∧ v.type ≠ .frame := by
  cases c with
  | value name type nullable cells => exact hc.2.2 v hv
  | group _ _ => exact absurd h (by simp [kind])
  | frames _ _ => exact absurd h (by simp [kind])

@[simp] theorem kind_slice (i : Nat) (c : Column) : (c.slice i).kind = c.kind := by
  cases c <;> rw [slice] <;> rfl

/-- The cell of a row is a cell of the column, if it is one of values. -/
theorem mem_cells_of_slice (h : c.kind = .values) {i : Nat} {v : Value}
    (hv : some v ∈ (c.slice i).cells) : some v ∈ c.cells := by
  cases c with
  | value name type nullable cells =>
    rw [slice] at hv
    exact List.mem_of_getElem? (Option.join_eq_some_iff.mp (List.mem_singleton.mp hv).symm)
  | group _ _ => exact absurd h (by simp [kind])
  | frames _ _ => exact absurd h (by simp [kind])

/-- A row in a cell is the row of a group, unless it is a value. -/
theorem exists_eq_slice_of_mem_cells {r : Frame} (h : some (.row r) ∈ c.cells)
    (hkind : c.kind ≠ .values) :
    ∃ label g i, c = .group label g ∧ i < g.rowCount ∧ r = g.slice i := by
  cases c with
  | value _ _ _ _ => exact absurd rfl hkind
  | group label g =>
    obtain ⟨i, hi, hrow⟩ := List.mem_map.mp h
    exact ⟨label, g, i, rfl, List.mem_range.mp hi, by simpa using hrow.symm⟩
  | frames label fs =>
    obtain ⟨f, -, hrow⟩ := List.mem_map.mp h
    exact absurd hrow (by simp)

/-- A cell of a flat column, as a column, is flat. -/
theorem Flat.slice (hc : c.Flat) (i : Nat) : (c.slice i).Flat := by
  cases c with
  | value name type nullable cells =>
    obtain ⟨hrow, hframe, hcells⟩ := hc
    have hslice : ∀ v, some v ∈ ((value name type nullable cells).slice i).cells →
        v.type ≠ .row ∧ v.type ≠ .frame := fun v hv => hcells v (mem_cells_of_slice rfl hv)
    rw [Column.slice] at hslice ⊢
    exact ⟨hrow, hframe, hslice⟩
  | group name f => rw [slice_group]; trivial
  | frames name fs => rw [Column.slice]; trivial

/-- Texts are flat. -/
theorem flat_ofTexts (name : String) (texts : List (Option String)) : (ofTexts name texts).Flat := by
  refine ⟨by simp, by simp, fun v hv => ?_⟩
  obtain ⟨text, -, htext⟩ := List.mem_map.mp hv
  obtain ⟨s, -, rfl⟩ := Option.map_eq_some_iff.mp htext
  simp [Value.ofText, Value.type, Scalar.type]

end Column

/-! ### Pieces that are alike -/

namespace Piece

/-- The column that names lead to in a piece. -/
def find? (p : Piece) (names : List String) : Option Column :=
  p.frame.bind fun f => f.find? names

/-- **Pieces that are alike**: their frames are well-formed and as long as they are, columns of
values are flat, and columns at the same names are of one kind. -/
structure Alike (pieces : List Piece) : Prop where
  wellFormed : ∀ p ∈ pieces, ∀ f ∈ p.frame, f.WellFormed ∧ f.rowCount = p.rows
  flat : ∀ p ∈ pieces, ∀ names c, p.find? names = some c → c.Flat
  kind_eq : ∀ p ∈ pieces, ∀ q ∈ pieces, ∀ names c d, p.find? names = some c →
    q.find? names = some d → c.kind = d.kind

variable {pieces : List Piece} {p : Piece} {name : String} {names : List String} {c : Column}

theorem find?_singleton (p : Piece) (name : String) : p.find? [name] = p.column? name := by
  unfold find? column?
  cases p.frame with
  | none => rfl
  | some f => simp

theorem find?_cons (p : Piece) (name : String) (rest : List String) :
    p.find? (name :: rest) = (p.column? name).bind fun c => c.descend? rest := by
  unfold find? column?
  cases p.frame with
  | none => rfl
  | some f => simp

/-- The names of stacked pieces are those of the columns that they have. -/
theorem mem_names_iff : name ∈ Piece.names pieces ↔ ∃ p ∈ pieces, ∃ c, p.column? name = some c := by
  rw [Piece.names, List.mem_eraseDups, List.mem_flatMap]
  refine exists_congr fun p => and_congr_right fun _ => ?_
  unfold column?
  cases p.frame with
  | none => simp
  | some f =>
    rw [Option.map_some, Option.getD_some, Option.bind_some, ← Option.isSome_iff_exists,
      Option.isSome_iff_ne_none, ne_eq, Frame.column?_eq_none_iff, not_not]

/-- Names lead in a row to the row of what they lead to in its frame. -/
theorem find?_slice (g : Frame) (i : Nat) (names : List String) :
    (ofFrame (g.slice i)).find? names = (g.find? names).map (Column.slice i) :=
  Frame.find?_slice i g names

/-- The rows of a group are inside its column. -/
theorem ofFrame_slice_mem_inside {label : String} {g : Frame} (hp : p ∈ pieces)
    (hc : p.column? name = some (.group label g)) {i : Nat} (hi : i < g.rowCount) :
    ofFrame (g.slice i) ∈ inside pieces name := by
  refine List.mem_map.mpr ⟨some (.row (g.slice i)), List.mem_flatMap.mpr ⟨p, hp, ?_⟩, rfl⟩
  rw [cells_of_column? hc]
  exact List.mem_map_of_mem (List.mem_range.mpr hi)

/-- **The rows that cells hold are well-formed** if the pieces are. -/
theorem wellFormed_inside (h : ∀ p ∈ pieces, p.WellFormed) (name : String) :
    ∀ q ∈ inside pieces name, q.WellFormed := by
  refine List.forall_mem_map.mpr fun cell hcell => wellFormed_ofCell ?_
  rintro v rfl
  obtain ⟨p, hp, hv⟩ := List.mem_flatMap.mp hcell
  exact (h p hp).of_mem_cells hv

/-- No names lead to the piece itself, as a group. -/
theorem eq_group_of_find?_nil (h : p.find? [] = some c) : ∃ f, c = .group "" f := by
  obtain ⟨f, -, hfind⟩ := Option.bind_eq_some_iff.mp h
  exact ⟨f, (Option.some.inj hfind).symm⟩

/-- **Rows come from groups**: where the column of the name is no group, no row is in its cells. -/
def RowsFromGroups (pieces : List Piece) (name : String) : Prop :=
  ∀ p ∈ pieces, ∀ c, p.column? name = some c → c.kind ≠ .group → ∀ r, some (.row r) ∉ c.cells

/-- The pieces inside a column that have a frame are the rows in its cells, -/
theorem exists_row_of_mem_inside {q : Piece} (hq : q ∈ inside pieces name) {f : Frame}
    (hf : f ∈ q.frame) :
    ∃ p ∈ pieces, ∃ c, p.column? name = some c ∧ some (.row f) ∈ c.cells ∧ q = ofFrame f := by
  obtain ⟨cell, hcell, rfl⟩ := List.mem_map.mp hq
  obtain ⟨p, hp, hmem⟩ := List.mem_flatMap.mp hcell
  rcases cell with _ | (s | r | r)
  · exact absurd hf (by simp [ofCell])
  · exact absurd hf (by simp [ofCell])
  · obtain rfl : r = f := by simpa [ofCell, ofFrame] using hf
    obtain ⟨c, hc, hrow⟩ := exists_of_mem_cells hmem
    exact ⟨p, hp, c, hc, hrow, rfl⟩
  · exact absurd hf (by simp [ofCell])

/-- and so the rows of groups, if rows come from groups. -/
theorem RowsFromGroups.exists_of_mem_inside (h : RowsFromGroups pieces name) {q : Piece}
    (hq : q ∈ inside pieces name) {f : Frame} (hf : f ∈ q.frame) :
    ∃ p ∈ pieces, ∃ label g i, p.column? name = some (.group label g) ∧ i < g.rowCount ∧
      f = g.slice i ∧ q = ofFrame f := by
  obtain ⟨p, hp, c, hc, hrow, rfl⟩ := exists_row_of_mem_inside hq hf
  have hkind : c.kind = .group := by_contra fun hne => h p hp c hc hne f hrow
  obtain ⟨label, g, i, rfl, hi, rfl⟩ :=
    Column.exists_eq_slice_of_mem_cells hrow (by simp [hkind])
  exact ⟨p, hp, label, g, i, hc, hi, rfl, rfl⟩

/-- **Names lead in a row to the row of what they lead to** in the piece that it comes from. -/
theorem RowsFromGroups.exists_of_find?_inside (h : RowsFromGroups pieces name) {q : Piece}
    (hq : q ∈ inside pieces name) {next : String} {rest : List String}
    (hc : q.find? (next :: rest) = some c) :
    ∃ p ∈ pieces, ∃ d i, p.find? (name :: next :: rest) = some d ∧ c = d.slice i := by
  obtain ⟨f, hf, hfind⟩ := Option.bind_eq_some_iff.mp hc
  obtain ⟨p, hp, label, g, i, hcolumn, -, rfl, -⟩ := h.exists_of_mem_inside hq hf
  rw [Frame.find?_slice] at hfind
  obtain ⟨d, hd, rfl⟩ := Option.map_eq_some_iff.mp hfind
  exact ⟨p, hp, d, i, by rw [find?_cons, hcolumn]; exact hd, rfl⟩

/-- **What agrees at the same names goes on to agree in the rows of groups**, if it is the same in a
row as in its frame. -/
theorem RowsFromGroups.agree_inside {α : Type} {key : Column → α} (h : RowsFromGroups pieces name)
    (hslice : ∀ i c, key (c.slice i) = key c) (hgroup : ∀ f g, key (.group "" f) = key (.group "" g))
    (hkey : ∀ p ∈ pieces, ∀ q ∈ pieces, ∀ names c d, p.find? names = some c →
      q.find? names = some d → key c = key d) :
    ∀ p ∈ inside pieces name, ∀ q ∈ inside pieces name, ∀ names c d, p.find? names = some c →
      q.find? names = some d → key c = key d := by
  intro p hp q hq names c d hc hd
  cases names with
  | nil =>
    obtain ⟨f, rfl⟩ := eq_group_of_find?_nil hc
    obtain ⟨g, rfl⟩ := eq_group_of_find?_nil hd
    exact hgroup f g
  | cons next rest =>
    obtain ⟨p', hp', c', i, hc', rfl⟩ := h.exists_of_find?_inside hp hc
    obtain ⟨q', hq', d', j, hd', rfl⟩ := h.exists_of_find?_inside hq hd
    rw [hslice, hslice]
    exact hkey p' hp' q' hq' _ c' d' hc' hd'

/-- **Pieces of the same kinds**: their frames are well-formed and as long as they are, and columns
at the same names are of one kind. -/
structure SameKind (pieces : List Piece) : Prop where
  wellFormed : ∀ p ∈ pieces, p.WellFormed
  kind_eq : ∀ p ∈ pieces, ∀ q ∈ pieces, ∀ names c d, p.find? names = some c →
    q.find? names = some d → c.kind = d.kind

namespace SameKind

variable (h : SameKind pieces)

include h

theorem column_kind {q : Piece} {d : Column} (hp : p ∈ pieces) (hq : q ∈ pieces)
    (hc : p.column? name = some c) (hd : q.column? name = some d) : c.kind = d.kind :=
  h.kind_eq p hp q hq [name] c d ((find?_singleton p name).trans hc)
    ((find?_singleton q name).trans hd)

/-- **The rows of groups are of the same kinds** if the pieces are. -/
theorem inside (hrows : RowsFromGroups pieces name) : SameKind (inside pieces name) :=
  ⟨wellFormed_inside h.wellFormed name,
    hrows.agree_inside Column.kind_slice (fun _ _ => rfl) h.kind_eq⟩

/-- Where there is a group there are groups only. -/
theorem rowsFromGroups (hp : p ∈ pieces) (hc : p.column? name = some c) (hkind : c.kind = .group) :
    RowsFromGroups pieces name :=
  fun _ hq _ hd hne => absurd ((h.column_kind hq hp hd hc).trans hkind) hne

end SameKind

namespace Alike

variable (h : Alike pieces)

include h

theorem sameKind : SameKind pieces :=
  ⟨h.wellFormed, h.kind_eq⟩

theorem column_flat (hp : p ∈ pieces) (hc : p.column? name = some c) : c.Flat :=
  h.flat p hp [name] c ((find?_singleton p name).trans hc)

/-- The rows in cells are rows of groups, for columns of values are flat. -/
theorem rowsFromGroups (name : String) : RowsFromGroups pieces name := by
  intro p hp c hc hkind r hr
  cases c with
  | value label type nullable cells =>
    have hflat : Column.Flat (.value label type nullable cells) := h.column_flat hp hc
    exact absurd rfl (hflat.2.2 (.row r) hr).1
  | group label g => exact absurd rfl hkind
  | frames label fs =>
    obtain ⟨f, -, hrow⟩ := List.mem_map.mp hr
    exact absurd hrow (by simp)

/-- **The rows inside a column are alike** if the pieces are. -/
theorem inside (name : String) : Alike (inside pieces name) := by
  have hrows : RowsFromGroups pieces name := h.rowsFromGroups name
  have hkinds : SameKind (Piece.inside pieces name) := h.sameKind.inside hrows
  refine ⟨hkinds.wellFormed, fun q hq names c hc => ?_, hkinds.kind_eq⟩
  cases names with
  | nil =>
    obtain ⟨f, rfl⟩ := eq_group_of_find?_nil hc
    trivial
  | cons next rest =>
    obtain ⟨p, hp, e, i, he, rfl⟩ := hrows.exists_of_find?_inside hq hc
    exact (h.flat p hp _ e he).slice i

end Alike

end Piece

end Colonnade
