import Colonnade.Proofs.Stack.Regroup

/-!
# A frame is made of its rows

A frame can be taken apart into its rows, each a frame of one row with the same columns (`Frame.IsRow`),
and the rows, stacked, are the frame again: `Frame.concat_rows`.

Two things of a frame cannot be seen in its rows: that a type is open although the cells would have
another, and that a column may hold a null although it does not. So columns of values have to be typed,
and nullable if and only if they hold a null (`Column.MarksNulls`). And a frame without rows cannot be
made of them at all.
-/

namespace Colonnade

/-! ### Columns made of their cells -/

/-- **A column that marks nulls**: if it is one of values, it is nullable if and only if it holds a
null. -/
def Column.MarksNulls : Column → Prop
  | .value _ _ nullable cells => nullable = true ↔ none ∈ cells
  | _ => True

/-- **A column is made of its cells** if its type and its nulls can be told from them, and if a group is
made of its rows. -/
theorem Column.shape_cells {inner : StackRows} {c : Column} (htyped : c.Typed)
    (hnulls : c.MarksNulls) (hgroup : ∀ g ∈ c.group?, inner g.rowPieces = .ok g) :
    shape inner c.name c.type c.cells = .ok c := by
  cases c with
  | value label type nullable cells =>
    have hany : cells.any Option.isNone = nullable := by
      rw [Bool.eq_iff_iff, List.any_eq_true]
      refine Iff.trans ?_ hnulls.symm
      simp
    have hshape : shape inner label type cells = .ok (.ofValues label type cells) :=
      shape_eq_ofValues htyped.2.1 htyped.2.2
    rw [ofValues, hany] at hshape
    exact hshape
  | group label g =>
    show (inner ((group label g).cells.map Piece.ofCell)).map (group label) = _
    rw [Frame.map_ofCell_cells_group, hgroup g rfl]
    rfl
  | frames label fs =>
    show Except.ok (frames label ((fs.map fun f => some (.frame f)).map Value.frameOf)) = _
    rw [List.map_map]
    exact congrArg (fun fs => Except.ok (frames label fs)) (List.map_id fs)

/-! ### The rows of a frame, stacked -/

namespace Frame

variable {f : Frame} {depth : Nat}

/-- A column of the rows of a frame is made of its cells. -/
theorem stackColumn_rowPieces {inner : StackRows} (hf : f.WellFormed) (hrows : 0 < f.rowCount)
    {c : Column} (hc : c ∈ f.columns) (htyped : c.Typed) :
    Piece.stackColumn inner f.rowPieces c.name = Column.shape inner c.name c.type c.cells := by
  have hcolumn : f.column? c.name = some c := column?_name hf.nodup_names hc
  have hwhole : Piece.sharedType? [.ofFrame f] c.name = some c.type := by
    refine Piece.sharedType?_eq_some_iff.mpr ⟨htyped.type_ne_any, ⟨_, List.mem_singleton_self _, c,
      hcolumn⟩, fun p hp d hd => ?_⟩
    obtain rfl := List.mem_singleton.mp hp
    obtain rfl := Option.some.inj (hd.symm.trans hcolumn)
    rfl
  have hshared : Piece.sharedType? f.rowPieces c.name = some c.type := by
    refine Piece.sharedType?_of_type_iff (fun type => ?_) hwhole
    rw [exists_type_rowPieces_iff hrows]
    simp only [List.mem_singleton, exists_eq_left]
    rfl
  have hcells : (f.rowPieces.flatMap fun p => p.cells c.name) = c.cells := by
    rw [cells_rowPieces (fun _ h => hf.length_of_mem h), Piece.cells_of_column? (p := .ofFrame f)
      hcolumn]
  rw [Piece.stackColumn, hshared, hcells]

/-- **The rows of a frame, stacked, are the frame**, by induction on the depth: the rows in a group
are stacked one level below. -/
theorem stack_rowPieces (hf : f.WellFormed) (hrows : 0 < f.rowCount)
    (h : ∀ name rest c, f.find? (name :: rest) = some c → c.Typed ∧ c.MarksNulls)
    (hdepth : f.depth ≤ depth) : Piece.stack depth f.rowPieces = .ok f := by
  induction depth generalizing f with
  | zero =>
    obtain ⟨n, hn⟩ := f.exists_depth_eq_succ
    omega
  | succ depth ih =>
    have hcolumns : f.names.mapM (Piece.stackColumn (Piece.stack depth) f.rowPieces) =
        .ok f.columns := by
      rw [mapM_eq_ok_iff, names, List.forall₂_map_left_iff, List.forall₂_same]
      intro c hc
      have hcolumn : f.column? c.name = some c := column?_name hf.nodup_names hc
      obtain ⟨htyped, hnulls⟩ := h c.name [] c (by
        rw [find?_cons, hcolumn, Option.bind_some, Column.descend?_nil])
      rw [stackColumn_rowPieces hf hrows hc htyped]
      refine Column.shape_cells htyped hnulls fun g hg => ?_
      obtain ⟨label, rfl⟩ : ∃ label, c = .group label g := ⟨_, Column.group?_eq_some_iff.mp hg⟩
      have hgd : g.depth ≤ depth := by
        have hle := depth_le_succ_iff.mp hdepth _ hc
        rwa [Column.depth] at hle
      have hgrows : g.rowCount = f.rowCount := hf.length_of_mem hc
      refine ih ((Column.wellFormed_group _ _).mp (hf.of_mem hc)) (hgrows ▸ hrows)
        (fun name rest d hd => ?_) hgd
      refine h label (name :: rest) d ?_
      rw [find?_cons, show f.column? label = some (.group label g) from hcolumn]
      exact hd
    have hcheck : withRowCount f.columns f.rowCount = .ok f :=
      withRowCount_eq_ok_iff.mpr ⟨by cases f; rfl, hf.nodup_names, fun c hc => hf.length_of_mem hc⟩
    simp only [Piece.stack, Piece.stackLevel, names_rowPieces hf.nodup_names hrows, hcolumns,
      totalRows_rowPieces]
    exact hcheck

end Frame

/-! ### A row of a frame -/

/-- A cell, as a column, is laid out as its column. -/
theorem Column.layout_slice (i : Nat) (c : Column) : (c.slice i).layout = c.layout := by
  induction c using groupInduction with
  | leaf c hleaf =>
    cases c with
    | group label f => exact absurd hleaf (by simp [group?])
    | value _ _ _ _ => rw [slice, layout, layout]
    | frames _ _ => rw [slice, layout, layout]
  | group label f ih =>
    obtain ⟨columns, rowCount⟩ := f
    rw [slice, Frame.slice, sliceAll_eq_map, layout, layout, layouts_eq_map, layouts_eq_map,
      List.map_map]
    exact congrArg (Layout.node label false) (List.map_congr_left fun c hc => ih c hc)

namespace Frame

/-- **The row of a frame at a position**: one row, laid out as the frame, in which a path leads to a
column of the same kind, type and nullability, with the cell of that row. -/
structure IsRow (f : Frame) (i : Nat) (r : Frame) : Prop where
  wellFormed : r.WellFormed
  rowCount_eq : r.rowCount = 1
  layout_eq : r.layout = f.layout
  column : ∀ path c, f.get path = .ok c → ∃ d, r.get path = .ok d ∧ d.kind = c.kind ∧
    d.type = c.type ∧ d.isNullable = c.isNullable ∧ d.cell 0 = c.cell i

variable {f : Frame}

/-- **A well-formed frame has a row at every position.** -/
theorem isRow_slice (hf : f.WellFormed) {i : Nat} (hi : i < f.rowCount) : f.IsRow i (f.slice i) := by
  refine ⟨hf.slice hi, rowCount_slice i f, ?_, fun path c hc => ?_⟩
  · rw [layout, layout, Column.layouts_eq_map, Column.layouts_eq_map, columns_slice, List.map_map]
    exact congrArg (Layout.node "" false)
      (List.map_congr_left fun c _ => Column.layout_slice i c)
  · have hfind : f.find? path.segments = some c := get_eq_ok_iff.mp hc
    refine ⟨c.slice i, ?_, Column.kind_slice i c, Column.type_slice i c, ?_,
      Column.cell_slice (hf.length_find? hfind ▸ hi)⟩
    · rw [get_eq_ok_iff, find?_slice, hfind, Option.map_some]
    · cases c <;> rw [Column.slice] <;> rfl

/-- **A frame is made of its rows.** There is a row at every position and none behind, and the rows,
stacked, are the frame. -/
theorem concat_rows (hf : f.WellFormed) (hrows : 0 < f.rowCount)
    (h : ∀ path c, f.get path = .ok c → c.Typed ∧ c.MarksNulls) :
    (∀ i, f.rowCount ≤ i → f.row? i = none) ∧
      (∀ i < f.rowCount, ∃ r, f.row? i = some r ∧ f.IsRow i r) ∧
        ∃ rows, (List.range f.rowCount).mapM f.row? = some rows ∧ concat rows = .ok f := by
  refine ⟨fun i hi => if_neg (Nat.not_lt.mpr hi), fun i hi => ⟨f.slice i, if_pos hi,
    isRow_slice hf hi⟩, (List.range f.rowCount).map fun i => f.slice i, ?_, ?_⟩
  · rw [mapM_eq_some_iff, List.forall₂_map_right_iff, List.forall₂_same]
    exact fun i hi => if_pos (List.mem_range.mp hi)
  · have hwf : ∀ r ∈ (List.range f.rowCount).map (fun i => f.slice i), r.WellFormed :=
      List.forall_mem_map.mpr fun i hi => hf.slice (List.mem_range.mp hi)
    have hdepth : framesDepth ((List.range f.rowCount).map fun i => f.slice i) ≤ f.depth :=
      framesDepth_le_iff.mpr <| List.forall_mem_map.mpr fun i hi =>
        depth_slice_le hf (List.mem_range.mp hi)
    rw [concat_eq_stack hwf hdepth, List.map_map]
    refine stack_rowPieces hf hrows (fun name rest c hc => ?_) (Nat.le_refl _)
    exact h ⟨name :: rest, List.cons_ne_nil _ _⟩ c (get_eq_ok_iff.mpr hc)

/-- Rows with a nested group that has no columns, a null and frames. -/
theorem concat_rows_nested :
    let f : Frame :=
      ⟨[.group "g" ⟨[.group "h" ⟨[], 2⟩, .ofValues "x" .int [some (.scalar (.int 1)), none]], 2⟩,
        .frames "t" [.empty, ⟨[.ofTexts "s" [some "a"]], 1⟩]], 2⟩
    (f.WellFormed ∧ 0 < f.rowCount ∧
        ∀ path c, f.get path = .ok c → c.Typed ∧ c.MarksNulls) ∧
      (∀ i, f.rowCount ≤ i → f.row? i = none) ∧
        (∀ i < f.rowCount, ∃ r, f.row? i = some r ∧ f.IsRow i r) ∧
          ∃ rows, (List.range f.rowCount).mapM f.row? = some rows ∧ concat rows = .ok f := by
  intro f
  have hf : f.WellFormed := by
    simp [f, WellFormed, columnsWellFormed, Column.WellFormed, Column.ofTexts, framesWellFormed,
      Column.ofValues, cellsWellFormed, Value.ofText, Value.WellFormed, Column.name,
      Column.length, empty]
  have hrows : 0 < f.rowCount := Nat.zero_lt_two
  have hpaths : ∀ path ∈ f.paths, ∀ c, f.get path = .ok c → c.Typed ∧ c.MarksNulls := by
    simp [f, paths, Column.pathsAll, Column.paths, Path.under, Path.single, get, getFrom, column?,
      Column.name, Column.ofValues, Column.Typed, Column.MarksNulls]
  have h : ∀ path c, f.get path = .ok c → c.Typed ∧ c.MarksNulls := fun path c hc =>
    hpaths path ((mem_paths hf path).mpr ⟨c, hc⟩) c hc
  exact ⟨⟨hf, hrows, h⟩, concat_rows hf hrows h⟩

end Frame

end Colonnade
