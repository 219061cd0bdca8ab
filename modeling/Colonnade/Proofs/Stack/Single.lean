import Colonnade.Proofs.Soundness.Stack
import Colonnade.Proofs.Stack.Depth

/-!
# Rows that stand for themselves

A column of one cell may say more than its cell does: its type may be wider than that of the cell. It is
*single* if it does not, which is to say that collecting its cell gives the column back. A frame of one
row is single if its columns are. Nothing is lost when such a frame is made a row in a cell, and the
cells stacked:

* a single frame is its own row, `Frame.Single.slice_eq`;
* a single frame, stacked alone, is what it was, `Frame.Single.stack_eq`;
* a cell is collected into a single column if what it holds is single, `Column.exists_single`.
-/

namespace Colonnade

/-! ### The common type of cells of one type -/

/-- **Values of one type have that type in common.** -/
theorem commonType_eq {cells : List (Option Value)} {type : ColumnType}
    (hall : ∀ v, some v ∈ cells → v.type = type) (hsome : ∃ v, some v ∈ cells) :
    commonType cells = type := by
  have htypes : ∀ t ∈ (cells.filterMap id).map Value.type, t = type := by
    refine List.forall_mem_map.mpr fun v hv => hall v ?_
    obtain ⟨cell, hcell, rfl⟩ := List.mem_filterMap.mp hv
    exact hcell
  have hne : (cells.filterMap id).map Value.type ≠ [] := by
    obtain ⟨v, hv⟩ := hsome
    exact List.ne_nil_of_mem (List.mem_map_of_mem (List.mem_filterMap.mpr ⟨_, hv, rfl⟩))
  obtain ⟨first, rest, heq⟩ := List.exists_cons_of_ne_nil hne
  rw [heq] at htypes
  have hfirst : first = type := htypes first List.mem_cons_self
  have hrest : rest.all (· == first) := List.all_eq_true.mpr fun t ht =>
    beq_iff_eq.mpr ((htypes t (List.mem_cons_of_mem _ ht)).trans hfirst.symm)
  rw [commonType, heq, ColumnType.common, if_pos hrest, hfirst]

/-- Where nothing is known of any value, nothing is known of their type. -/
theorem commonType_of_nulls {cells : List (Option Value)} (h : ∀ cell ∈ cells, cell = none) :
    commonType cells = .any := by
  have hnil : cells.filterMap id = [] := List.filterMap_eq_nil_iff.mpr fun cell hcell => h cell hcell
  rw [commonType, hnil]
  rfl

namespace Column

variable {stack : StackRows} {name : String} {cells : List (Option Value)} {type : ColumnType}

/-- Values of one type are not widened, -/
theorem map_widen_eq (hall : ∀ v, some v ∈ cells → v.type = type) :
    cells.map (Option.map (Value.widen type)) = cells := by
  refine (List.map_congr_left fun cell hcell => ?_).trans (List.map_id cells)
  cases cell with
  | none => rfl
  | some v => rw [Option.map_some, ← hall v hcell, Value.widen_type, id]

/-- **so a column of inferred type is one of that type.** -/
theorem infer_eq_shape (hall : ∀ v, some v ∈ cells → v.type = type) (hsome : ∃ v, some v ∈ cells) :
    infer stack name cells = shape stack name type cells := by
  rw [infer, commonType_eq hall hsome, map_widen_eq hall]

/-- The collected column depends on a bound for the depth of its cells only in that it is one. -/
theorem infer_stack_eq_collect {depth : Nat}
    (hcells : ∀ v, some v ∈ cells → v.WellFormed ∧ v.depth ≤ depth) :
    infer (Piece.stack depth) name cells = collect name cells := by
  refine infer_congr (Piece.stack_eq_of_within ?_ ?_)
  · refine List.forall_mem_map.mpr fun cell hcell => Piece.within_ofCell ?_
    rintro v rfl
    exact hcells v hcell
  · refine List.forall_mem_map.mpr fun cell hcell => Piece.within_ofCell ?_
    rintro v rfl
    exact ⟨(hcells v hcell).1, cellsDepth_le_iff.mp (Nat.le_refl _) v hcell⟩

/-! ### Single columns -/

/-- **A single column**: it has one cell, and collecting the cell gives it back. -/
structure Single (c : Column) : Prop where
  slice_eq : c.slice 0 = c
  collect_eq : collect c.name [c.cell 0] = .ok c

namespace Single

variable {c : Column} (hc : c.Single)

include hc

theorem length_eq : c.length = 1 := by
  rw [← hc.slice_eq, length_slice]

theorem cells_eq : c.cells = [c.cell 0] := by
  obtain ⟨cell, hcells⟩ := List.length_eq_one_iff.mp ((length_cells c).trans hc.length_eq)
  rw [cell_eq_join_getElem?, hcells]
  rfl

/-- Its type is that of its cell. -/
theorem type_eq : c.type = commonType [c.cell 0] :=
  type_of_shape hc.collect_eq

/-- A single column of a type has a value of that type. -/
theorem exists_of_type_ne_any (h : c.type ≠ .any) : ∃ v, c.cell 0 = some v := by
  rcases hcell : c.cell 0 with _ | v
  · refine absurd ?_ h
    rw [hc.type_eq, hcell]
    exact commonType_of_nulls (List.forall_mem_singleton.mpr rfl)
  · exact ⟨v, rfl⟩

theorem type_of_cell_eq {v : Value} (h : c.cell 0 = some v) : v.type = c.type := by
  rw [hc.type_eq, h]
  refine (commonType_eq (fun w hw => ?_) ⟨v, List.mem_singleton_self _⟩).symm
  rw [Option.some.inj (List.mem_singleton.mp hw)]

end Single

end Column

/-! ### Single frames -/

/-- **A single frame**: one row, with single columns. -/
structure Frame.Single (f : Frame) : Prop where
  wellFormed : f.WellFormed
  rowCount_eq : f.rowCount = 1
  columns : ∀ c ∈ f.columns, c.Single

namespace Frame.Single

variable {f : Frame} (hf : f.Single)

include hf

/-- **A single frame is its only row.** -/
theorem slice_eq : f.slice 0 = f := by
  obtain ⟨columns, rowCount⟩ := f
  obtain rfl : rowCount = 1 := hf.rowCount_eq
  rw [slice, Column.sliceAll_eq_map]
  refine congrArg (Frame.mk · 1) ?_
  exact (List.map_congr_left fun c hc => (hf.columns c hc).slice_eq).trans (List.map_id columns)

/-- A column of a single frame, put together from the only piece that there is. -/
theorem stackColumn_eq {depth : Nat} (hdepth : f.depth ≤ depth + 1) {name : String} {c : Column}
    (hc : f.column? name = some c) :
    Piece.stackColumn (Piece.stack depth) [.ofFrame f] name = .ok c := by
  have hsingle : c.Single := hf.columns c (mem_of_column?_eq_some hc)
  have hname : c.name = name := name_of_column?_eq_some hc
  have hcolumn : (Piece.ofFrame f).column? name = some c := hc
  have hcells : ([Piece.ofFrame f].flatMap fun p => p.cells name) = [c.cell 0] := by
    rw [List.flatMap_singleton, Piece.cells_of_column? hcolumn, hsingle.cells_eq]
  have hinfer : Column.infer (Piece.stack depth) name [c.cell 0] = .ok c := by
    rw [Column.infer_stack_eq_collect, ← hname, hsingle.collect_eq]
    intro v hv
    have hmem : some v ∈ (Piece.ofFrame f).cells name := by
      rwa [Piece.cells_of_column? hcolumn, hsingle.cells_eq]
    exact (Piece.within_ofFrame hf.wellFormed hdepth).of_mem_cells hmem
  unfold Piece.stackColumn
  simp only [hcells]
  split
  next type hshared =>
    -- the type is that of the column, so the cell is a value of that type
    obtain ⟨hany, -, htype⟩ := Piece.sharedType?_eq_some_iff.mp hshared
    obtain rfl : c.type = type := htype _ (List.mem_singleton_self _) c hcolumn
    obtain ⟨v, hv⟩ := hsingle.exists_of_type_ne_any hany
    rw [← hinfer, hv, Column.infer_eq_shape (fun w hw => ?_) ⟨v, List.mem_singleton_self _⟩]
    obtain rfl := Option.some.inj (List.mem_singleton.mp hw)
    exact hsingle.type_of_cell_eq hv
  next => exact hinfer

/-- **A single frame, stacked alone, is what it was.** -/
theorem stack_eq {depth : Nat} (hdepth : f.depth ≤ depth) :
    Piece.stack depth [.ofFrame f] = .ok f := by
  obtain ⟨n, hn⟩ := f.exists_depth_eq_succ
  obtain ⟨depth, rfl⟩ : ∃ d, depth = d + 1 := ⟨depth - 1, by omega⟩
  have hnames : Piece.names [.ofFrame f] = f.names := by
    rw [Piece.names, List.flatMap_singleton]
    exact eraseDups_of_nodup hf.wellFormed.nodup_names
  have hcolumns : f.names.mapM (Piece.stackColumn (Piece.stack depth) [.ofFrame f]) =
      .ok f.columns := by
    rw [mapM_eq_ok_iff, Frame.names, List.forall₂_map_left_iff, List.forall₂_same]
    intro c hc
    exact hf.stackColumn_eq hdepth (column?_name hf.wellFormed.nodup_names hc)
  have hrows : Piece.totalRows [.ofFrame f] = f.rowCount := rfl
  simp only [Piece.stack, Piece.stackLevel, hnames, hcolumns, hrows]
  refine withRowCount_eq_ok_iff.mpr
    ⟨?_, hf.wellFormed.nodup_names, fun c hc => hf.wellFormed.length_of_mem hc⟩
  cases f
  rfl

end Frame.Single

/-! ### Collecting one cell -/

/-- **A value that may be collected and taken out again**: if it is a row, a single one. -/
def Value.Single (v : Value) : Prop :=
  v.WellFormed ∧ ∀ f, v = .row f → f.Single

/-- **A cell is collected into a single column**, in which it can be found again. -/
theorem Column.exists_single {cell : Option Value} (h : ∀ v ∈ cell, v.Single) (name : String) :
    ∃ c, collect name [cell] = .ok c ∧ c.Single ∧ c.WellFormed ∧ c.name = name ∧
      c.cell 0 = cell := by
  rcases cell with _ | (s | f | f)
  · have hcollect : collect name [none] = .ok (.value name .any true [none]) := rfl
    refine ⟨_, hcollect, ⟨?_, hcollect⟩, ?_, rfl, rfl⟩
    · rw [slice]; rfl
    · simp [wellFormed_value_iff]
  · have hcollect : collect name [some (.scalar s)] =
        .ok (.value name s.type false [some (.scalar s)]) := by
      cases s <;> rfl
    refine ⟨_, hcollect, ⟨?_, hcollect⟩, ?_, rfl, rfl⟩
    · rw [slice]; rfl
    · simp [wellFormed_value_iff, Value.WellFormed]
  · have hf : f.Single := (h (.row f) rfl).2 f rfl
    have hstack : Piece.stack (cellsDepth [some (.row f)]) [.ofFrame f] = .ok f := by
      refine hf.stack_eq (cellsDepth_le_iff.mp (Nat.le_refl _) (.row f) ?_)
      exact List.mem_singleton_self _
    have hcollect : collect name [some (.row f)] = .ok (.group name f) :=
      map_eq_ok_iff.mpr ⟨f, hstack, rfl⟩
    have hcell : (group name f).cell 0 = some (.row f) := by
      rw [cell, Frame.row?, if_pos (hf.rowCount_eq ▸ Nat.zero_lt_one), hf.slice_eq]
      rfl
    refine ⟨_, hcollect, ⟨?_, ?_⟩, (wellFormed_group _ _).mpr hf.wellFormed, rfl, hcell⟩
    · rw [slice_group, hf.slice_eq]
    · rw [hcell]
      exact hcollect
  · have hcollect : collect name [some (.frame f)] = .ok (.frames name [f]) := rfl
    have hf : f.WellFormed := by
      have hv := (h (.frame f) rfl).1
      rwa [Value.WellFormed] at hv
    refine ⟨_, hcollect, ⟨?_, hcollect⟩, ?_, rfl, rfl⟩
    · rw [slice]
      rfl
    · exact wellFormed_frames_iff.mpr (List.forall_mem_singleton.mpr hf)

end Colonnade
