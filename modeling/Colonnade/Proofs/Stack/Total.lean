import Colonnade.Proofs.Soundness.Stack
import Colonnade.Proofs.Stack.Rows

/-!
# Well-formed frames can be stacked

A stack fails only if a level of it has two columns of one name or columns of different lengths.
Neither happens if the frames that go in are well-formed: the names of a level differ because each of
them is taken where it comes first, and a column has a cell for every row because a row in a cell is
one row. A row that is longer would make a group longer than the columns beside it.

What comes out is well-formed again and has as many rows as have gone in, `Piece.exists_stack`, by
induction on the depth. Columns of cells are made in the same way, `Column.exists_ofCells` and
`Column.exists_collect`.
-/

namespace Colonnade

variable {inner : StackRows} {name : String} {type : ColumnType} {cells : List (Option Value)}

/-- **Columns that are made for different names** and have one length make a frame. -/
theorem Frame.exists_of_names {names : List String} (hnames : names.Nodup)
    {make : String → Except FrameError Column} {n : Nat}
    (hmake : ∀ name, ∃ c, make name = .ok c ∧ c.name = name ∧ c.length = n) :
    ∃ columns, names.mapM make = .ok columns ∧ withRowCount columns n = .ok ⟨columns, n⟩ := by
  have hmade {name : String} {c : Column} (hc : make name = .ok c) :
      c.name = name ∧ c.length = n := by
    obtain ⟨d, hd, h⟩ := hmake name
    exact Except.ok.inj (hd.symm.trans hc) ▸ h
  obtain ⟨columns, hcolumns⟩ : ∃ columns, names.mapM make = .ok columns :=
    exists_mapM_eq_ok fun name _ => (hmake name).imp fun _ hc => hc.1
  refine ⟨columns, hcolumns, withRowCount_eq_ok_iff.mpr ⟨rfl, ?_, fun c hc => ?_⟩⟩
  · rw [map_eq_of_mapM_eq_ok (g := id) (fun _ _ hc => (hmade hc).1) hcolumns, List.map_id]
    exact hnames
  · obtain ⟨name, -, hname⟩ := exists_mem_of_mapM_eq_ok hcolumns hc
    exact (hmade hname).2

/-- **The columns of a frame that are made name by name** are those that are made for its names. -/
theorem Frame.column?_of_names {names : List String} {make : String → Except FrameError Column}
    {n : Nat} {f : Frame} (hname : ∀ name c, make name = .ok c → c.name = name)
    (h : (names.mapM make >>= fun columns => withRowCount columns n) = .ok f) :
    f.names = names ∧ f.rowCount = n ∧ ∀ name c,
      f.column? name = some c ↔ name ∈ names ∧ make name = .ok c := by
  obtain ⟨columns, hcolumns, hcheck⟩ := bind_eq_ok_iff.mp h
  obtain ⟨rfl, hnodup, -⟩ := withRowCount_eq_ok_iff.mp hcheck
  have hnames : columns.map Column.name = names := by
    rw [map_eq_of_mapM_eq_ok (g := id) hname hcolumns, List.map_id]
  refine ⟨hnames, rfl, fun name c => ?_⟩
  rw [column?_eq_some_iff (f := ⟨columns, n⟩) hnodup]
  constructor
  · rintro ⟨hmem, rfl⟩
    obtain ⟨name, hin, hc⟩ := exists_mem_of_mapM_eq_ok hcolumns hmem
    obtain rfl := hname name c hc
    exact ⟨hin, hc⟩
  · rintro ⟨hin, hc⟩
    obtain ⟨d, hd, hmade⟩ := exists_of_mapM_eq_ok hcolumns hin
    obtain rfl := Except.ok.inj (hmade.symm.trans hc)
    exact ⟨hd, hname name d hc⟩

/-! ### Well-formed pieces -/

/-- Widening changes numbers, not what is nested. -/
theorem Value.WellFormed.widen {v : Value} (hv : v.WellFormed) (type : ColumnType) :
    (v.widen type).WellFormed := by
  unfold Value.widen
  split
  · rw [Value.WellFormed]; trivial
  · rw [Value.WellFormed]; trivial
  · rw [Value.WellFormed]; trivial
  · exact hv

namespace Piece

/-- **A piece with a well-formed frame**, of as many rows as the piece. -/
def WellFormed (p : Piece) : Prop :=
  ∀ f ∈ p.frame, f.WellFormed ∧ f.rowCount = p.rows

theorem wellFormed_ofFrame {f : Frame} (hf : f.WellFormed) : (ofFrame f).WellFormed := by
  rintro g ⟨⟩
  exact ⟨hf, rfl⟩

/-- A cell that is no row is a row of nulls. -/
theorem wellFormed_ofCell {cell : Option Value} (h : ∀ v ∈ cell, v.WellFormed) :
    (ofCell cell).WellFormed := by
  rcases cell with _ | (s | f | f)
  · rintro g ⟨⟩
  · rintro g ⟨⟩
  · have hrow := h (.row f) rfl
    rw [Value.WellFormed] at hrow
    exact wellFormed_ofFrame hrow.1
  · rintro g ⟨⟩

/-- A cell is one row. -/
theorem rows_ofCell {cell : Option Value} (h : ∀ v ∈ cell, v.WellFormed) :
    (ofCell cell).rows = 1 := by
  rcases cell with _ | (s | f | f)
  · rfl
  · rfl
  · have hrow := h (.row f) rfl
    rw [Value.WellFormed] at hrow
    exact hrow.2
  · rfl

theorem totalRows_map_ofCell (h : ∀ v, some v ∈ cells → v.WellFormed) :
    totalRows (cells.map ofCell) = cells.length := by
  induction cells with
  | nil => rfl
  | cons cell cells ih =>
    have hcell : (ofCell cell).rows = 1 :=
      rows_ofCell fun v hv => h v (hv ▸ List.mem_cons_self)
    have hrest := ih fun v hv => h v (List.mem_cons_of_mem _ hv)
    rw [List.map_cons, totalRows, List.foldr_cons, hcell, ← totalRows, hrest, List.length_cons,
      Nat.add_comm]

variable {p : Piece}

theorem totalRows_append (first second : List Piece) :
    totalRows (first ++ second) = totalRows first + totalRows second := by
  induction first with
  | nil => simp [totalRows]
  | cons p first ih =>
    rw [List.cons_append, totalRows, List.foldr_cons, ← totalRows, ih, ← Nat.add_assoc]
    rfl

/-- The column of a piece is well-formed and as long as the piece. -/
theorem WellFormed.column? (hp : p.WellFormed) {c : Column} (h : p.column? name = some c) :
    c.WellFormed ∧ c.length = p.rows := by
  obtain ⟨f, hf, hc⟩ := Option.bind_eq_some_iff.mp h
  obtain ⟨hwf, hrows⟩ := hp f hf
  exact ⟨hwf.column hc, (hwf.length_column hc).trans hrows⟩

/-- There is a cell for every row. -/
theorem WellFormed.length_cells (hp : p.WellFormed) (name : String) :
    (p.cells name).length = p.rows := by
  unfold cells
  split
  next c hc => rw [Column.length_cells, (hp.column? hc).2]
  next => rw [List.length_replicate]

/-- What the cells hold is well-formed. -/
theorem WellFormed.of_mem_cells (hp : p.WellFormed) {v : Value} (hv : some v ∈ p.cells name) :
    v.WellFormed := by
  obtain ⟨c, hc, hmem⟩ := exists_of_mem_cells hv
  exact (hp.column? hc).1.of_mem_cells hmem

end Piece

/-! ### Something comes out -/

/-- Well-formed pieces can be stacked, what comes out is well-formed, and no row is lost. -/
def StackRows.Succeeds (inner : StackRows) : Prop :=
  ∀ pieces, (∀ p ∈ pieces, p.WellFormed) →
    ∃ f, inner pieces = .ok f ∧ f.WellFormed ∧ f.rowCount = Piece.totalRows pieces

namespace Column

/-- **Well-formed cells make a well-formed column**, with a cell for each. -/
theorem exists_shape (hinner : StackRows.Succeeds inner)
    (hcells : ∀ v, some v ∈ cells → v.WellFormed) :
    ∃ c, shape inner name type cells = .ok c ∧ c.WellFormed ∧ c.length = cells.length := by
  unfold shape
  split
  · have hpieces : ∀ p ∈ cells.map Piece.ofCell, p.WellFormed := by
      refine List.forall_mem_map.mpr fun cell hcell => Piece.wellFormed_ofCell ?_
      rintro v rfl
      exact hcells v hcell
    obtain ⟨f, hf, hwf, hrows⟩ := hinner _ hpieces
    exact ⟨.group name f, map_eq_ok_iff.mpr ⟨f, hf, rfl⟩, (wellFormed_group _ _).mpr hwf,
      hrows.trans (Piece.totalRows_map_ofCell hcells)⟩
  · refine ⟨_, rfl, wellFormed_frames_iff.mpr (List.forall_mem_map.mpr fun cell hcell => ?_),
      List.length_map _⟩
    rcases cell with _ | (s | f | f)
    · exact Frame.wellFormed_empty
    · exact Frame.wellFormed_empty
    · exact Frame.wellFormed_empty
    · have hframe := hcells _ hcell
      rwa [Value.WellFormed] at hframe
  · exact ⟨_, rfl, wellFormed_value_iff.mpr hcells, rfl⟩

/-- **Well-formed cells make a well-formed column** of inferred type. -/
theorem exists_infer (hinner : StackRows.Succeeds inner)
    (hcells : ∀ v, some v ∈ cells → v.WellFormed) :
    ∃ c, infer inner name cells = .ok c ∧ c.WellFormed ∧ c.length = cells.length := by
  have hwide : ∀ v, some v ∈ cells.map (Option.map (Value.widen (commonType cells))) →
      v.WellFormed := by
    intro v hv
    obtain ⟨cell, hcell, hwiden⟩ := List.mem_map.mp hv
    obtain ⟨w, rfl, rfl⟩ := Option.map_eq_some_iff.mp hwiden
    exact (hcells w hcell).widen _
  obtain ⟨c, hc, hwf, hlength⟩ := exists_shape hinner hwide
  exact ⟨c, hc, hwf, hlength.trans (List.length_map _)⟩

end Column

namespace Piece

variable {pieces : List Piece}

theorem exists_stackColumn (hinner : StackRows.Succeeds inner) (h : ∀ p ∈ pieces, p.WellFormed)
    (name : String) :
    ∃ c, stackColumn inner pieces name = .ok c ∧ c.WellFormed ∧ c.name = name ∧
      c.length = totalRows pieces := by
  have hcells : ∀ v, some v ∈ pieces.flatMap (fun p => p.cells name) → v.WellFormed := by
    intro v hv
    obtain ⟨p, hp, hmem⟩ := List.mem_flatMap.mp hv
    exact (h p hp).of_mem_cells hmem
  have hlength : (pieces.flatMap fun p => p.cells name).length = totalRows pieces :=
    length_flatMap fun p hp => (h p hp).length_cells name
  unfold stackColumn
  split
  next type _ =>
    obtain ⟨c, hc, hwf, hcl⟩ := Column.exists_shape hinner hcells
    exact ⟨c, hc, hwf, Column.name_of_shape hc, hcl.trans hlength⟩
  next =>
    obtain ⟨c, hc, hwf, hcl⟩ := Column.exists_infer hinner hcells
    exact ⟨c, hc, hwf, Column.name_of_shape hc, hcl.trans hlength⟩

/-- **One level** succeeds, for its columns have different names and as many cells as there are
rows. -/
theorem succeeds_stackLevel (hinner : StackRows.Succeeds inner) :
    StackRows.Succeeds (stackLevel inner) := by
  intro pieces h
  have hmake := exists_stackColumn hinner h
  obtain ⟨columns, hcolumns, hcheck⟩ :=
    Frame.exists_of_names (nodup_names pieces) fun name => (hmake name).imp fun _ hc =>
      ⟨hc.1, hc.2.2⟩
  obtain ⟨-, hnodup, hlength⟩ := Frame.withRowCount_eq_ok_iff.mp hcheck
  refine ⟨⟨columns, totalRows pieces⟩, bind_eq_ok_iff.mpr ⟨columns, hcolumns, hcheck⟩,
    Frame.wellFormed_iff.mpr ⟨hnodup, hlength, fun c hc => ?_⟩, rfl⟩
  obtain ⟨name, -, hname⟩ := exists_mem_of_mapM_eq_ok hcolumns hc
  obtain ⟨d, hd, hwf, -⟩ := hmake name
  exact Except.ok.inj (hd.symm.trans hname) ▸ hwf

/-- **Well-formed pieces can be stacked**, by induction on the depth. -/
theorem exists_stack (depth : Nat) : StackRows.Succeeds (stack depth) := by
  induction depth with
  | zero =>
    intro pieces _
    refine ⟨_, rfl, Frame.wellFormed_iff.mpr ?_, rfl⟩
    simp [Frame.names]
  | succ depth ih => exact succeeds_stackLevel ih

end Piece

/-- **Well-formed frames can be stacked**, and the stack is well-formed. -/
theorem Frame.exists_concat {fs : List Frame} (h : ∀ f ∈ fs, f.WellFormed) :
    ∃ r, concat fs = .ok r ∧ r.WellFormed := by
  obtain ⟨r, hr, hwf, -⟩ := Piece.exists_stack (framesDepth fs) (fs.map Piece.ofFrame)
    (List.forall_mem_map.mpr fun f hf => Piece.wellFormed_ofFrame (h f hf))
  exact ⟨r, hr, hwf⟩

theorem Column.exists_ofCells (name : String) (type : ColumnType)
    (hcells : ∀ v, some v ∈ cells → v.WellFormed) :
    ∃ c, ofCells name type cells = .ok c ∧ c.WellFormed ∧ c.length = cells.length :=
  exists_shape (Piece.exists_stack _) hcells

theorem Column.exists_collect (name : String) (hcells : ∀ v, some v ∈ cells → v.WellFormed) :
    ∃ c, collect name cells = .ok c ∧ c.WellFormed ∧ c.length = cells.length :=
  exists_infer (Piece.exists_stack _) hcells

end Colonnade
