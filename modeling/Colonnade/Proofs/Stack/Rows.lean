import Colonnade.Proofs.Soundness.Basic

/-!
# The rows of well-formed frames

A stack takes groups apart into rows and puts the rows on top of each other again. What a row has in
common with its frame is said here:

* a row is well-formed, and so is what a cell holds (`Frame.WellFormed.slice`,
  `Column.WellFormed.of_mem_cells`);
* names lead in a row to the row of what they lead to in the frame (`Frame.find?_slice`);
* a row that is taken of a row is that row (`Frame.slice_slice`), and its only cell in a column is the
  cell of the frame there (`Column.cell_slice`).
-/

namespace Colonnade

/-! ### Well-formed cells -/

theorem cellsWellFormed_iff {cells : List (Option Value)} :
    cellsWellFormed cells ↔ ∀ v, some v ∈ cells → v.WellFormed := by
  induction cells with
  | nil => simp [cellsWellFormed]
  | cons cell cells ih =>
    cases cell with
    | none => simp [cellsWellFormed, ih]
    | some v => simp [cellsWellFormed, ih]

theorem framesWellFormed_iff {fs : List Frame} :
    framesWellFormed fs ↔ ∀ f ∈ fs, f.WellFormed := by
  induction fs with
  | nil => simp [framesWellFormed]
  | cons f fs ih => simp [framesWellFormed, ih]

namespace Column

theorem wellFormed_value_iff {name : String} {type : ColumnType} {nullable : Bool}
    {cells : List (Option Value)} :
    (value name type nullable cells).WellFormed ↔ ∀ v, some v ∈ cells → v.WellFormed := by
  rw [WellFormed, cellsWellFormed_iff]

theorem wellFormed_frames_iff {name : String} {fs : List Frame} :
    (frames name fs).WellFormed ↔ ∀ f ∈ fs, f.WellFormed := by
  rw [WellFormed, framesWellFormed_iff]

end Column

/-- Whatever names lead to is well-formed if what they start from is, -/
theorem Column.WellFormed.of_descend? {c : Column} (hc : c.WellFormed) {names : List String}
    {d : Column} (h : c.descend? names = some d) : d.WellFormed := by
  induction names generalizing c with
  | nil => exact Option.some.inj ((Column.descend?_nil c).symm.trans h) ▸ hc
  | cons name rest ih =>
    cases c with
    | group label f =>
      obtain ⟨e, he, hdescend⟩ := Option.bind_eq_some_iff.mp h
      have hf : f.WellFormed := (Column.wellFormed_group _ _).mp hc
      exact ih (hf.column he) hdescend
    | value _ _ _ _ => exact absurd h (by simp [Column.descend?])
    | frames _ _ => exact absurd h (by simp [Column.descend?])

theorem Frame.WellFormed.of_find? {f : Frame} (hf : f.WellFormed) {names : List String}
    {c : Column} (h : f.find? names = some c) : c.WellFormed := by
  have hgroup : (Column.group "" f).WellFormed := (Column.wellFormed_group _ _).mpr hf
  exact hgroup.of_descend? h

/-- and as long. -/
theorem Column.WellFormed.length_descend? {c : Column} (hc : c.WellFormed) {names : List String}
    {d : Column} (h : c.descend? names = some d) : d.length = c.length := by
  induction names generalizing c with
  | nil => rw [← Option.some.inj ((Column.descend?_nil c).symm.trans h)]
  | cons name rest ih =>
    cases c with
    | group label f =>
      obtain ⟨e, he, hdescend⟩ := Option.bind_eq_some_iff.mp h
      have hf : f.WellFormed := (Column.wellFormed_group _ _).mp hc
      exact (ih (hf.column he) hdescend).trans (hf.length_column he)
    | value _ _ _ _ => exact absurd h (by simp [Column.descend?])
    | frames _ _ => exact absurd h (by simp [Column.descend?])

theorem Frame.WellFormed.length_find? {f : Frame} (hf : f.WellFormed) {names : List String}
    {c : Column} (h : f.find? names = some c) : c.length = f.rowCount := by
  have hgroup : (Column.group "" f).WellFormed := (Column.wellFormed_group _ _).mpr hf
  exact hgroup.length_descend? h

theorem Frame.WellFormed.length_of_mem {f : Frame} (hf : f.WellFormed) {c : Column}
    (h : c ∈ f.columns) : c.length = f.rowCount :=
  (wellFormed_iff.mp hf).2.1 c h

/-! ### A row and its frame -/

@[simp] theorem Frame.names_slice (i : Nat) (f : Frame) : (f.slice i).names = f.names := by
  rw [names, columns_slice, List.map_map]
  exact List.map_congr_left fun c _ => Column.name_slice i c

theorem Column.slice_group (i : Nat) (name : String) (f : Frame) :
    (group name f).slice i = group name (f.slice i) := by
  rw [slice]

theorem Frame.column?_slice (i : Nat) (f : Frame) (name : String) :
    (f.slice i).column? name = (f.column? name).map (Column.slice i) := by
  rw [column?, columns_slice, List.find?_map, column?]
  simp only [Function.comp_def, Column.name_slice]

/-- **Names lead in a row to the row of what they lead to.** -/
theorem Column.descend?_slice (i : Nat) (c : Column) (names : List String) :
    (c.slice i).descend? names = (c.descend? names).map (slice i) := by
  induction names generalizing c with
  | nil => simp
  | cons name rest ih =>
    cases c with
    | group label f =>
      rw [slice_group, descend?_group_cons, descend?_group_cons, Frame.column?_slice]
      cases f.column? name with
      | none => rfl
      | some d => exact ih d
    | value _ _ _ _ => rw [slice]; rfl
    | frames _ _ => rw [slice]; rfl

theorem Frame.find?_slice (i : Nat) (f : Frame) (names : List String) :
    (f.slice i).find? names = (f.find? names).map (Column.slice i) := by
  rw [find?, ← Column.slice_group, Column.descend?_slice, find?]

/-- **A row of a row** is that row. -/
theorem Column.slice_slice (i : Nat) (c : Column) : (c.slice i).slice 0 = c.slice i := by
  induction c using groupInduction with
  | leaf c hleaf =>
    cases c with
    | group name f => exact absurd hleaf (by simp [group?])
    | value name type nullable cells => simp [slice]
    | frames name fs => simp [slice]
  | group name f ih =>
    obtain ⟨columns, rowCount⟩ := f
    simp only [slice, Frame.slice, sliceAll_eq_map, List.map_map]
    refine congrArg (fun cs => group name ⟨cs, 1⟩) (List.map_congr_left fun c hc => ?_)
    exact ih c hc

theorem Frame.slice_slice (i : Nat) (f : Frame) : (f.slice i).slice 0 = f.slice i := by
  have h := Column.slice_slice i (.group "" f)
  rw [Column.slice_group, Column.slice_group] at h
  exact (Column.group.inj h).2

/-- **The cell of a row is the cell of the frame.** -/
theorem Column.cell_slice {c : Column} {i : Nat} (hi : i < c.length) :
    (c.slice i).cell 0 = c.cell i := by
  cases c with
  | value name type nullable cells => rw [slice]; rfl
  | group name f =>
    have hrow : i < f.rowCount := hi
    rw [slice_group, cell, cell, Frame.row?, Frame.row?, Frame.rowCount_slice, if_pos Nat.zero_lt_one,
      if_pos hrow, Frame.slice_slice]
  | frames name fs =>
    have hget : fs[i]? = some fs[i] := List.getElem?_eq_getElem hi
    rw [slice, cell, cell, hget, List.getD_eq_getElem?_getD, hget]
    rfl

/-- The cells of a column, one after the other. -/
theorem Column.map_cell_range (c : Column) : (List.range c.length).map c.cell = c.cells := by
  refine List.ext_getElem (by simp) fun i _ hi => ?_
  rw [List.getElem_map, List.getElem_range, cell_eq_join_getElem?, List.getElem?_eq_getElem hi,
    Option.join_some]

/-- The cell of a row is the only one. -/
theorem Column.cells_slice {c : Column} {i : Nat} (hi : i < c.length) :
    (c.slice i).cells = [c.cell i] := by
  rw [← map_cell_range, length_slice, List.range_one, List.map_singleton, cell_slice hi]

/-! ### Rows and cells are well-formed -/

/-- The row of a frame is well-formed if its columns are in that row. -/
theorem Frame.wellFormed_slice_of_columns {f : Frame} (hf : f.WellFormed) {i : Nat}
    (h : ∀ c ∈ f.columns, (c.slice i).WellFormed) : (f.slice i).WellFormed := by
  refine wellFormed_iff.mpr ⟨names_slice i f ▸ hf.nodup_names, ?_, ?_⟩
  · rw [columns_slice]
    exact List.forall_mem_map.mpr fun c _ => by rw [Column.length_slice, rowCount_slice]
  · rw [columns_slice]
    exact List.forall_mem_map.mpr h

/-- **A cell of a well-formed column, as a column, is well-formed.** -/
theorem Column.WellFormed.slice {c : Column} (hc : c.WellFormed) {i : Nat} (hi : i < c.length) :
    (c.slice i).WellFormed := by
  induction c using groupInduction with
  | leaf c hleaf =>
    cases c with
    | group name f => exact absurd hleaf (by simp [group?])
    | value name type nullable cells =>
      have hget : cells[i]? = some cells[i] := List.getElem?_eq_getElem hi
      rw [Column.slice, hget]
      refine wellFormed_value_iff.mpr fun v hv => wellFormed_value_iff.mp hc v ?_
      exact List.mem_singleton.mp hv ▸ List.getElem_mem hi
    | frames name fs =>
      have hget : fs[i]? = some fs[i] := List.getElem?_eq_getElem hi
      rw [Column.slice, List.getD_eq_getElem?_getD, hget]
      refine wellFormed_frames_iff.mpr (List.forall_mem_singleton.mpr ?_)
      exact wellFormed_frames_iff.mp hc _ (List.getElem_mem hi)
  | group name f ih =>
    have hf : f.WellFormed := (wellFormed_group _ _).mp hc
    rw [slice_group]
    refine (wellFormed_group _ _).mpr (Frame.wellFormed_slice_of_columns hf fun d hd => ?_)
    exact ih d hd (hf.of_mem hd) (hf.length_of_mem hd ▸ hi)

/-- **A row of a well-formed frame is well-formed.** -/
theorem Frame.WellFormed.slice {f : Frame} (hf : f.WellFormed) {i : Nat} (hi : i < f.rowCount) :
    (f.slice i).WellFormed :=
  Frame.wellFormed_slice_of_columns hf fun _ hc => (hf.of_mem hc).slice (hf.length_of_mem hc ▸ hi)

/-- **What a cell of a well-formed column holds is well-formed.** -/
theorem Column.WellFormed.of_mem_cells {c : Column} (hc : c.WellFormed) {v : Value}
    (hv : some v ∈ c.cells) : v.WellFormed := by
  cases c with
  | value name type nullable cells => exact wellFormed_value_iff.mp hc v hv
  | group name f =>
    obtain ⟨i, hi, hrow⟩ := List.mem_map.mp hv
    obtain rfl := Option.some.inj hrow
    have hf : f.WellFormed := (wellFormed_group _ _).mp hc
    rw [Value.WellFormed]
    exact ⟨hf.slice (List.mem_range.mp hi), Frame.rowCount_slice i f⟩
  | frames name fs =>
    obtain ⟨f, hf, hframe⟩ := List.mem_map.mp hv
    obtain rfl := Option.some.inj hframe
    rw [Value.WellFormed]
    exact wellFormed_frames_iff.mp hc f hf

end Colonnade
