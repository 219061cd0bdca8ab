import Colonnade.Proofs.Stack.Cells

/-!
# Columns that keep their type

A column of values is *typed* if its type is neither open nor nested. Pieces are typed if their columns
of values are and if a type is found at the same names wherever there is a column, `Piece.Typed`. Then
no level of a stack has to infer a type from cells, and its columns are made by their type alone:

| type | the column of a level |
| --- | --- |
| `row` | the group of the stacked rows |
| `frame` | the frames, one after the other |
| any other | the cells, one after the other |

A frame can take the place of its rows, or its rows that of the frame (`Frame.rowPieces`): what is seen
of them at a name is the same (`Frame.cells_rowPieces`), and so is which names there are, unless there
are no rows.
-/

namespace Colonnade

/-! ### Columns of one type -/

namespace Column

/-- **A typed column**: if it is one of values, its type is neither open nor nested. -/
def Typed : Column → Prop
  | value _ type _ _ => type ≠ .any ∧ type ≠ .row ∧ type ≠ .frame
  | _ => True

variable {c : Column}

theorem Typed.type_ne_any (hc : c.Typed) : c.type ≠ .any := by
  cases c with
  | value _ _ _ _ => exact hc.1
  | group _ _ => simp [type]
  | frames _ _ => simp [type]

/-- A typed column of rows is a group, -/
theorem Typed.exists_eq_group (hc : c.Typed) (h : c.type = .row) : ∃ label f, c = .group label f := by
  cases c with
  | value _ _ _ _ => exact absurd h hc.2.1
  | group label f => exact ⟨label, f, rfl⟩
  | frames _ _ => exact absurd h (by simp [type])

/-- one of frames is a column of frames, -/
theorem Typed.exists_eq_frames (hc : c.Typed) (h : c.type = .frame) :
    ∃ label fs, c = .frames label fs := by
  cases c with
  | value _ _ _ _ => exact absurd h hc.2.2
  | group _ _ => exact absurd h (by simp [type])
  | frames label fs => exact ⟨label, fs, rfl⟩

/-- and one of any other type a column of values. -/
theorem exists_eq_value (hrow : c.type ≠ .row) (hframe : c.type ≠ .frame) :
    ∃ label nullable cells, c = .value label c.type nullable cells := by
  cases c with
  | value label _ nullable cells => exact ⟨label, nullable, cells, rfl⟩
  | group _ _ => exact absurd rfl hrow
  | frames _ _ => exact absurd rfl hframe

/-- The type of a typed column tells its kind. -/
theorem Typed.kind_eq_of_type_eq {d : Column} (hc : c.Typed) (hd : d.Typed)
    (h : c.type = d.type) : c.kind = d.kind := by
  by_cases hrow : c.type = .row
  · obtain ⟨_, _, rfl⟩ := hc.exists_eq_group hrow
    obtain ⟨_, _, rfl⟩ := hd.exists_eq_group (h ▸ hrow)
    rfl
  · by_cases hframe : c.type = .frame
    · obtain ⟨_, _, rfl⟩ := hc.exists_eq_frames hframe
      obtain ⟨_, _, rfl⟩ := hd.exists_eq_frames (h ▸ hframe)
      rfl
    · obtain ⟨_, _, _, hcv⟩ := exists_eq_value hrow hframe
      obtain ⟨_, _, _, hdv⟩ := exists_eq_value (h ▸ hrow) (h ▸ hframe)
      rw [hcv, hdv]
      rfl

@[simp] theorem type_slice (i : Nat) (c : Column) : (c.slice i).type = c.type := by
  cases c <;> rw [slice] <;> rfl

theorem Typed.slice (hc : c.Typed) (i : Nat) : (c.slice i).Typed := by
  cases c with
  | value _ _ _ _ => rw [Column.slice]; exact hc
  | group _ _ => rw [slice_group]; trivial
  | frames _ _ => rw [Column.slice]; trivial

end Column

/-! ### The rows of a frame as pieces -/

/-- Pieces of one row are as many rows as pieces. -/
theorem Piece.totalRows_eq_length {pieces : List Piece} (h : ∀ p ∈ pieces, p.rows = 1) :
    totalRows pieces = pieces.length := by
  induction pieces with
  | nil => rfl
  | cons p pieces ih =>
    obtain ⟨hp, hrest⟩ := List.forall_mem_cons.mp h
    rw [totalRows, List.foldr_cons, hp, ← totalRows, ih hrest, List.length_cons, Nat.add_comm]

namespace Frame

/-- **The rows of a frame**, each a piece of its own. -/
def rowPieces (f : Frame) : List Piece :=
  (List.range f.rowCount).map fun i => .ofFrame (f.slice i)

variable {f : Frame}

/-- The rows in the cells of a group are the rows of its frame. -/
theorem map_ofCell_cells_group (label : String) (f : Frame) :
    (Column.group label f).cells.map Piece.ofCell = f.rowPieces := by
  rw [Column.cells, List.map_map]
  rfl

theorem rows_of_mem_rowPieces {p : Piece} (hp : p ∈ f.rowPieces) : p.rows = 1 := by
  obtain ⟨i, -, rfl⟩ := List.mem_map.mp hp
  exact rowCount_slice i f

theorem totalRows_rowPieces (f : Frame) : Piece.totalRows f.rowPieces = f.rowCount := by
  rw [Piece.totalRows_eq_length fun p hp => rows_of_mem_rowPieces hp, rowPieces, List.length_map,
    List.length_range]

theorem column?_ofFrame_slice (i : Nat) (name : String) :
    (Piece.ofFrame (f.slice i)).column? name = (f.column? name).map (Column.slice i) :=
  column?_slice i f name

/-- **The rows have the types of the frame**, if there is one. -/
theorem exists_type_rowPieces_iff (hrows : 0 < f.rowCount) {name : String} {type : ColumnType} :
    (∃ p ∈ f.rowPieces, ∃ c, p.column? name = some c ∧ c.type = type) ↔
      ∃ c, f.column? name = some c ∧ c.type = type := by
  constructor
  · rintro ⟨p, hp, c, hc, rfl⟩
    obtain ⟨i, -, rfl⟩ := List.mem_map.mp hp
    rw [column?_ofFrame_slice] at hc
    obtain ⟨d, hd, rfl⟩ := Option.map_eq_some_iff.mp hc
    exact ⟨d, hd, (Column.type_slice i d).symm⟩
  · rintro ⟨c, hc, rfl⟩
    refine ⟨.ofFrame (f.slice 0), List.mem_map_of_mem (List.mem_range.mpr hrows), c.slice 0, ?_,
      Column.type_slice 0 c⟩
    rw [column?_ofFrame_slice, hc, Option.map_some]

/-- **The rows have the names of the frame**, if there is one. -/
theorem names_rowPieces (hnames : f.names.Nodup) (hrows : 0 < f.rowCount) :
    Piece.names f.rowPieces = f.names := by
  have hflat : (f.rowPieces.flatMap fun p => (p.frame.map names).getD []) =
      (List.range f.rowCount).flatMap fun _ => f.names := by
    rw [rowPieces, List.flatMap_map]
    exact List.flatMap_congr fun i _ => names_slice i f
  rw [Piece.names, hflat]
  exact eraseDups_flatMap_const hnames hrows

/-- **The cells of the rows are the cells of the frame.** -/
theorem cells_rowPieces (hlength : ∀ c ∈ f.columns, c.length = f.rowCount) (name : String) :
    (f.rowPieces.flatMap fun p => p.cells name) = (Piece.ofFrame f).cells name := by
  rw [rowPieces, List.flatMap_map]
  rcases hc : f.column? name with _ | c
  · have hrow (i : Nat) : (Piece.ofFrame (f.slice i)).cells name = [none] := by
      have hnone : (Piece.ofFrame (f.slice i)).column? name = none := by
        rw [column?_ofFrame_slice, hc, Option.map_none]
      rw [Piece.cells_of_column?_eq_none hnone, Piece.ofFrame, rowCount_slice]
      rfl
    simp only [hrow]
    rw [Piece.cells_of_column?_eq_none (p := .ofFrame f) hc, ← List.map_eq_flatMap, List.map_const',
      List.length_range]
    rfl
  · have hcl : c.length = f.rowCount := hlength c (mem_of_column?_eq_some hc)
    rw [Piece.cells_of_column? (p := .ofFrame f) hc, ← Column.map_cell_range, hcl,
      List.map_eq_flatMap]
    refine List.flatMap_congr fun i hi => ?_
    have hrow : (Piece.ofFrame (f.slice i)).column? name = some (c.slice i) := by
      rw [column?_ofFrame_slice, hc, Option.map_some]
    rw [Piece.cells_of_column? hrow, Column.cells_slice (hcl ▸ List.mem_range.mp hi)]

end Frame

/-! ### Pieces of one type -/

namespace Piece

/-- **Typed pieces**: their frames are well-formed, columns of values are typed, and columns at the
same names are of one type. -/
structure Typed (pieces : List Piece) : Prop where
  wellFormed : ∀ p ∈ pieces, p.WellFormed
  typed : ∀ p ∈ pieces, ∀ names c, p.find? names = some c → c.Typed
  type_eq : ∀ p ∈ pieces, ∀ q ∈ pieces, ∀ names c d, p.find? names = some c →
    q.find? names = some d → c.type = d.type

variable {pieces others : List Piece} {p q : Piece} {name : String} {c d : Column} {inner : StackRows}

/-- Pieces in which the same types are found at a name share a type if one of them do. -/
theorem sharedType?_of_type_iff {type : ColumnType}
    (h : ∀ t, (∃ p ∈ others, ∃ c, p.column? name = some c ∧ c.type = t) ↔
      ∃ p ∈ pieces, ∃ c, p.column? name = some c ∧ c.type = t)
    (hshared : sharedType? pieces name = some type) : sharedType? others name = some type := by
  obtain ⟨hany, ⟨p, hp, c, hc⟩, hall⟩ := sharedType?_eq_some_iff.mp hshared
  refine sharedType?_eq_some_iff.mpr ⟨hany, ?_, fun q hq d hd => ?_⟩
  · obtain ⟨q, hq, d, hd, -⟩ := (h c.type).mpr ⟨p, hp, c, hc, rfl⟩
    exact ⟨q, hq, d, hd⟩
  · obtain ⟨p', hp', c', hc', htype⟩ := (h d.type).mp ⟨q, hq, d, hd, rfl⟩
    exact htype.symm.trans (hall p' hp' c' hc')

namespace Typed

theorem of_append_left {before after : List Piece} (h : Typed (before ++ after)) : Typed before :=
  ⟨fun p hp => h.wellFormed p (List.mem_append_left after hp),
    fun p hp => h.typed p (List.mem_append_left after hp),
    fun p hp q hq => h.type_eq p (List.mem_append_left after hp) q (List.mem_append_left after hq)⟩

theorem of_append_right {before after : List Piece} (h : Typed (before ++ after)) : Typed after :=
  ⟨fun p hp => h.wellFormed p (List.mem_append_right before hp),
    fun p hp => h.typed p (List.mem_append_right before hp),
    fun p hp q hq =>
      h.type_eq p (List.mem_append_right before hp) q (List.mem_append_right before hq)⟩

variable (h : Typed pieces)

include h

theorem column_typed (hp : p ∈ pieces) (hc : p.column? name = some c) : c.Typed :=
  h.typed p hp [name] c ((find?_singleton p name).trans hc)

theorem column_type_eq (hp : p ∈ pieces) (hq : q ∈ pieces) (hc : p.column? name = some c)
    (hd : q.column? name = some d) : c.type = d.type :=
  h.type_eq p hp q hq [name] c d ((find?_singleton p name).trans hc)
    ((find?_singleton q name).trans hd)

/-- **A column of a level is made by its type.** -/
theorem stackColumn_eq_shape (hp : p ∈ pieces) (hc : p.column? name = some c) :
    stackColumn inner pieces name =
      Column.shape inner name c.type (pieces.flatMap fun p => p.cells name) := by
  have hshared : sharedType? pieces name = some c.type :=
    sharedType?_eq_some_iff.mpr ⟨(h.column_typed hp hc).type_ne_any, ⟨p, hp, c, hc⟩,
      fun q hq d hd => h.column_type_eq hq hp hd hc⟩
  rw [stackColumn, hshared]

/-- Where there is a group there are groups only. -/
theorem rowsFromGroups (hp : p ∈ pieces) (hc : p.column? name = some c) (htype : c.type = .row) :
    RowsFromGroups pieces name := by
  intro q hq d hd hkind
  obtain ⟨label, g, rfl⟩ := (h.column_typed hq hd).exists_eq_group
    ((h.column_type_eq hq hp hd hc).trans htype)
  exact absurd rfl hkind

/-- **The rows of a group are typed** if the pieces are. -/
theorem inside (hp : p ∈ pieces) (hc : p.column? name = some c) (htype : c.type = .row) :
    Typed (inside pieces name) := by
  have hrows : RowsFromGroups pieces name := h.rowsFromGroups hp hc htype
  refine ⟨wellFormed_inside h.wellFormed name, fun q hq names e he => ?_,
    hrows.agree_inside Column.type_slice (fun _ _ => rfl) h.type_eq⟩
  cases names with
  | nil =>
    obtain ⟨f, rfl⟩ := eq_group_of_find?_nil he
    trivial
  | cons next rest =>
    obtain ⟨p', hp', e', i, he', rfl⟩ := hrows.exists_of_find?_inside hq he
    exact (h.typed p' hp' _ e' he').slice i

end Typed

end Piece

end Colonnade
