import Colonnade.Proofs.Soundness.Stack
import Colonnade.Proofs.Stack.Rows

/-!
# The depth that bounds a stack

`Piece.stack` goes down one level of nesting each time, and its first argument says how many levels
there may be. Any argument will do that is no less than the depth of the frames, and all of them give
the same: `Piece.stack_eq_of_within`. So a column of cells may be looked at as if it had been collected
for itself or as one of many columns, each with a bound of its own.

What it takes is that cells lie one level below the frame whose column they are in, and that a row of a
frame is no deeper than the frame (`Column.depth_slice_le`).
-/

namespace Colonnade

/-! ### The depth of lists -/

theorem cellsDepth_le_iff {cells : List (Option Value)} {n : Nat} :
    cellsDepth cells ≤ n ↔ ∀ v, some v ∈ cells → v.depth ≤ n := by
  induction cells with
  | nil => simp [cellsDepth]
  | cons cell cells ih =>
    cases cell with
    | none => simp [cellsDepth, ih]
    | some v =>
      rw [cellsDepth, Nat.max_le, ih]
      simp

theorem framesDepth_le_iff {fs : List Frame} {n : Nat} :
    framesDepth fs ≤ n ↔ ∀ f ∈ fs, f.depth ≤ n := by
  induction fs with
  | nil => simp [framesDepth]
  | cons f fs ih => rw [framesDepth, Nat.max_le, ih, List.forall_mem_cons]

theorem columnsDepth_le_iff {cs : List Column} {n : Nat} :
    columnsDepth cs ≤ n ↔ ∀ c ∈ cs, c.depth ≤ n := by
  induction cs with
  | nil => simp [columnsDepth]
  | cons c cs ih => rw [columnsDepth, Nat.max_le, ih, List.forall_mem_cons]

/-- **A frame is one level deeper than its columns.** -/
theorem Frame.depth_le_succ_iff {f : Frame} {n : Nat} :
    f.depth ≤ n + 1 ↔ ∀ c ∈ f.columns, c.depth ≤ n := by
  obtain ⟨columns, rowCount⟩ := f
  rw [Frame.depth, Nat.add_le_add_iff_right, columnsDepth_le_iff]

theorem Frame.exists_depth_eq_succ (f : Frame) : ∃ n, f.depth = n + 1 := by
  obtain ⟨columns, rowCount⟩ := f
  exact ⟨columnsDepth columns, by rw [Frame.depth]⟩

/-! ### Rows and cells -/

/-- **A cell, as a column, is no deeper than its column.** -/
theorem Column.depth_slice_le {c : Column} (hc : c.WellFormed) {i : Nat} (hi : i < c.length) :
    (c.slice i).depth ≤ c.depth := by
  induction c using groupInduction with
  | leaf c hleaf =>
    cases c with
    | group name f => exact absurd hleaf (by simp [group?])
    | value name type nullable cells =>
      have hcells : ∀ v, some v ∈ cells → v.depth ≤ cellsDepth cells :=
        cellsDepth_le_iff.mp (Nat.le_refl _)
      have hget : cells[i]? = some cells[i] := List.getElem?_eq_getElem hi
      rw [slice, hget, depth, depth, cellsDepth_le_iff]
      intro v hv
      exact hcells v (List.mem_singleton.mp hv ▸ List.getElem_mem hi)
    | frames name fs =>
      have hframes : ∀ f ∈ fs, f.depth ≤ framesDepth fs := framesDepth_le_iff.mp (Nat.le_refl _)
      have hget : fs[i]? = some fs[i] := List.getElem?_eq_getElem hi
      rw [slice, List.getD_eq_getElem?_getD, hget, depth, depth, framesDepth_le_iff]
      exact List.forall_mem_singleton.mpr (hframes _ (List.getElem_mem hi))
  | group name f ih =>
    have hf : f.WellFormed := (wellFormed_group _ _).mp hc
    obtain ⟨n, hn⟩ := f.exists_depth_eq_succ
    have hcolumns : ∀ d ∈ f.columns, d.depth ≤ n := Frame.depth_le_succ_iff.mp (Nat.le_of_eq hn)
    rw [slice_group, depth, depth, hn, Frame.depth_le_succ_iff, Frame.columns_slice]
    refine List.forall_mem_map.mpr fun d hd => ?_
    exact Nat.le_trans (ih d hd (hf.of_mem hd) (hf.length_of_mem hd ▸ hi)) (hcolumns d hd)

/-- **A row of a frame is no deeper than the frame.** -/
theorem Frame.depth_slice_le {f : Frame} (hf : f.WellFormed) {i : Nat} (hi : i < f.rowCount) :
    (f.slice i).depth ≤ f.depth := by
  have h : ((Column.group "" f).slice i).depth ≤ (Column.group "" f).depth :=
    Column.depth_slice_le ((Column.wellFormed_group _ _).mpr hf) hi
  rwa [Column.slice_group, Column.depth, Column.depth] at h

/-- **What a cell holds is no deeper than its column.** -/
theorem Column.depth_le_of_mem_cells {c : Column} (hc : c.WellFormed) {v : Value}
    (hv : some v ∈ c.cells) : v.depth ≤ c.depth := by
  cases c with
  | value name type nullable cells =>
    rw [depth]
    exact cellsDepth_le_iff.mp (Nat.le_refl _) v hv
  | group name f =>
    obtain ⟨i, hi, hrow⟩ := List.mem_map.mp hv
    obtain rfl := Option.some.inj hrow
    rw [Value.depth, depth]
    exact Frame.depth_slice_le ((wellFormed_group _ _).mp hc) (List.mem_range.mp hi)
  | frames name fs =>
    obtain ⟨f, hf, hframe⟩ := List.mem_map.mp hv
    obtain rfl := Option.some.inj hframe
    rw [Value.depth, depth]
    exact framesDepth_le_iff.mp (Nat.le_refl _) f hf

/-! ### Pieces -/

namespace Piece

/-- **A piece within a depth**: its frame is well-formed and no deeper. -/
def Within (depth : Nat) (p : Piece) : Prop :=
  ∀ f ∈ p.frame, f.WellFormed ∧ f.depth ≤ depth

variable {depth : Nat} {p : Piece}

/-- Within no depth at all there is no frame. -/
theorem Within.frame_eq_none (h : p.Within 0) : p.frame = none := by
  refine Option.eq_none_iff_forall_ne_some.mpr fun f hf => ?_
  obtain ⟨n, hn⟩ := f.exists_depth_eq_succ
  have hle := (h f hf).2
  omega

theorem Within.mono {more : Nat} (h : p.Within depth) (hle : depth ≤ more) : p.Within more :=
  fun f hf => ⟨(h f hf).1, Nat.le_trans (h f hf).2 hle⟩

theorem within_ofFrame {f : Frame} (hf : f.WellFormed) (h : f.depth ≤ depth) :
    (ofFrame f).Within depth := by
  rintro g ⟨⟩
  exact ⟨hf, h⟩

/-- The row in a cell lies within the depth of the cell. -/
theorem within_ofCell {cell : Option Value} (h : ∀ v ∈ cell, v.WellFormed ∧ v.depth ≤ depth) :
    (ofCell cell).Within depth := by
  rcases cell with _ | (s | f | f)
  · rintro g ⟨⟩
  · rintro g ⟨⟩
  · obtain ⟨hrow, hdepth⟩ := h (.row f) rfl
    rw [Value.WellFormed] at hrow
    rw [Value.depth] at hdepth
    exact within_ofFrame hrow.1 hdepth
  · rintro g ⟨⟩

/-- **Cells lie one level below** their piece. -/
theorem Within.of_mem_cells (h : p.Within (depth + 1)) {name : String} {v : Value}
    (hv : some v ∈ p.cells name) : v.WellFormed ∧ v.depth ≤ depth := by
  obtain ⟨c, hc, hmem⟩ := exists_of_mem_cells hv
  obtain ⟨f, hf, hcolumn⟩ := Option.bind_eq_some_iff.mp hc
  obtain ⟨hwf, hdepth⟩ := h f hf
  have hle : c.depth ≤ depth :=
    Frame.depth_le_succ_iff.mp hdepth c (Frame.mem_of_column?_eq_some hcolumn)
  exact ⟨(hwf.column hcolumn).of_mem_cells hmem,
    Nat.le_trans (Column.depth_le_of_mem_cells (hwf.column hcolumn) hmem) hle⟩

/-- Pieces without frames are rows without columns. -/
theorem names_of_frame_eq_none {pieces : List Piece} (h : ∀ p ∈ pieces, p.frame = none) :
    names pieces = [] := by
  have hnil : (pieces.flatMap fun p => (p.frame.map Frame.names).getD []) = [] :=
    List.flatMap_eq_nil_iff.mpr fun p hp => by rw [h p hp]; rfl
  rw [names, hnil]
  rfl

/-- **The rows that the cells of a column hold**, as pieces of the level below. -/
def inside (pieces : List Piece) (name : String) : List Piece :=
  (pieces.flatMap fun p => p.cells name).map ofCell

theorem within_inside {pieces : List Piece} (h : ∀ p ∈ pieces, p.Within (depth + 1))
    (name : String) : ∀ p ∈ inside pieces name, p.Within depth := by
  refine List.forall_mem_map.mpr fun cell hcell => within_ofCell ?_
  rintro v rfl
  obtain ⟨p, hp, hv⟩ := List.mem_flatMap.mp hcell
  exact (h p hp).of_mem_cells hv

/-- A number is no row, however wide it is. -/
@[simp] theorem ofCell_widen (type : ColumnType) (cell : Option Value) :
    ofCell (cell.map (Value.widen type)) = ofCell cell := by
  rcases cell with _ | (s | f | f)
  · rfl
  · rw [Option.map_some]
    unfold Value.widen
    split <;> rfl
  · rw [Option.map_some]
    unfold Value.widen
    split <;> simp_all
  · rw [Option.map_some]
    unfold Value.widen
    split <;> simp_all

end Piece

/-- A column of cells depends only on how the rows in the cells are stacked, -/
theorem Column.shape_congr {stack more : StackRows} {name : String} {type : ColumnType}
    {cells : List (Option Value)}
    (h : stack (cells.map Piece.ofCell) = more (cells.map Piece.ofCell)) :
    shape stack name type cells = shape more name type cells := by
  unfold shape
  split
  · rw [h]
  · rfl
  · rfl

theorem Column.infer_congr {stack more : StackRows} {name : String} {cells : List (Option Value)}
    (h : stack (cells.map Piece.ofCell) = more (cells.map Piece.ofCell)) :
    infer stack name cells = infer more name cells := by
  refine shape_congr ?_
  simpa only [List.map_map, Function.comp_def, Piece.ofCell_widen] using h

namespace Piece

/-- and a level only on how the rows inside its columns are. -/
theorem stackLevel_congr {stack more : StackRows} {pieces : List Piece}
    (h : ∀ name, stack (inside pieces name) = more (inside pieces name)) :
    stackLevel stack pieces = stackLevel more pieces := by
  have hcolumn : stackColumn stack pieces = stackColumn more pieces := by
    funext name
    unfold stackColumn
    split
    · exact Column.shape_congr (h name)
    · exact Column.infer_congr (h name)
  simp only [stackLevel, hcolumn]

/-- One level more than there has to be changes nothing. -/
theorem stack_succ_of_within {depth : Nat} {pieces : List Piece}
    (h : ∀ p ∈ pieces, p.Within depth) : stack (depth + 1) pieces = stack depth pieces := by
  induction depth generalizing pieces with
  | zero =>
    have hnames : names pieces = [] := names_of_frame_eq_none fun p hp => (h p hp).frame_eq_none
    simp only [stack, stackLevel, hnames]
    rfl
  | succ depth ih => exact stackLevel_congr fun name => ih (within_inside h name)

/-- **All depths that bound the pieces give the same stack.** -/
theorem stack_eq_of_within {depth more : Nat} {pieces : List Piece}
    (h : ∀ p ∈ pieces, p.Within depth) (h' : ∀ p ∈ pieces, p.Within more) :
    stack depth pieces = stack more pieces := by
  have hadd {n : Nat} (hn : ∀ p ∈ pieces, p.Within n) (k : Nat) :
      stack (n + k) pieces = stack n pieces := by
    induction k with
    | zero => rfl
    | succ k ih =>
      rw [← ih, ← Nat.add_assoc]
      exact stack_succ_of_within fun p hp => (hn p hp).mono (Nat.le_add_right n k)
  rw [← hadd h more, Nat.add_comm, hadd h']

end Piece

/-- **Any bound for the depth of frames stacks them.** -/
theorem Frame.concat_eq_stack {fs : List Frame} (hfs : ∀ f ∈ fs, f.WellFormed) {depth : Nat}
    (hle : framesDepth fs ≤ depth) : concat fs = Piece.stack depth (fs.map Piece.ofFrame) := by
  have hwithin {n : Nat} (hn : framesDepth fs ≤ n) : ∀ p ∈ fs.map Piece.ofFrame, p.Within n :=
    List.forall_mem_map.mpr fun f hf =>
      Piece.within_ofFrame (hfs f hf) (framesDepth_le_iff.mp hn f hf)
  exact Piece.stack_eq_of_within (hwithin (Nat.le_refl _)) (hwithin hle)

end Colonnade
