import Colonnade.Frame.Stack
import Colonnade.Proofs.FirstSeen
import Colonnade.Proofs.Outcome
import Colonnade.Proofs.Soundness.Basic

/-!
# Stacked frames are sound

What comes out of frames on top of each other is sound if what goes in is, `Piece.sound_stack`. It is
proved by induction on the depth of the frames from what it says of one level, where the stacking of
the level below is a parameter.

It carries over to columns of cells, `Column.sound_ofCells`, and to cells that are collected. What
makes the inferred type right is `accepts_widen_commonType`: whatever the common type of cells is, a
column of it may hold them once they have been widened.
-/

namespace Colonnade

variable {rule : Rule} {inner : StackRows} {name : String} {type : ColumnType}
  {cells : List (Option Value)}

/-! ### The common type -/

/-- A column of the type of a value may hold the value. -/
theorem ColumnType.accepts_type (v : Value) : v.type.accepts v := by
  cases v with
  | scalar s => cases s <;> rfl
  | row f => rfl
  | frame f => rfl

/-- A value of the type is not changed when it is widened to it. -/
theorem Value.widen_type (v : Value) : v.widen v.type = v := by
  cases v with
  | scalar s => cases s <;> rfl
  | row f => rfl
  | frame f => rfl

/-- A whole number can be widened to `long`, -/
theorem ColumnType.accepts_widen_long {v : Value} (h : v.type = .int ∨ v.type = .long) :
    long.accepts (v.widen .long) := by
  cases v with
  | scalar s => cases s <;> first | rfl | simp [Value.type, Scalar.type] at h
  | row f => simp [Value.type] at h
  | frame f => simp [Value.type] at h

/-- and any number to `double`. -/
theorem ColumnType.accepts_widen_double {v : Value}
    (h : v.type = .int ∨ v.type = .long ∨ v.type = .double) : double.accepts (v.widen .double) := by
  cases v with
  | scalar s => cases s <;> first | rfl | simp [Value.type, Scalar.type] at h
  | row f => simp [Value.type] at h
  | frame f => simp [Value.type] at h

/-- **A column of the common type may hold a value that has been widened to it.** -/
theorem ColumnType.accepts_widen_common {types : List ColumnType} {v : Value} (h : v.type ∈ types) :
    (common types).accepts (v.widen (common types)) := by
  cases types with
  | nil => exact absurd h List.not_mem_nil
  | cons first rest =>
    rw [common]
    by_cases hone : rest.all (· == first)
    · -- all values are of the first type
      have htype : v.type = first := by
        rcases List.mem_cons.mp h with heq | hmem
        · exact heq
        · simpa using List.all_eq_true.mp hone _ hmem
      rw [if_pos hone, ← htype, Value.widen_type]
      exact accepts_type v
    · rw [if_neg hone]
      split_ifs with hlong hdouble
      · have hwhole := List.all_eq_true.mp hlong _ h
        exact accepts_widen_long (by simpa using hwhole)
      · have hnumber := List.all_eq_true.mp hdouble _ h
        exact accepts_widen_double (by simpa [or_assoc] using hnumber)
      · rfl

theorem accepts_widen_commonType {v : Value} (h : some v ∈ cells) :
    (commonType cells).accepts (v.widen (commonType cells)) := by
  refine ColumnType.accepts_widen_common (List.mem_map_of_mem ?_)
  exact List.mem_filterMap.mpr ⟨some v, h, rfl⟩

/-- Widening changes numbers, not what is nested. -/
theorem Value.Sound.widen {v : Value} (hv : v.Sound rule) (type : ColumnType) :
    (v.widen type).Sound rule := by
  unfold Value.widen
  split
  · rw [Value.Sound]; trivial
  · rw [Value.Sound]; trivial
  · rw [Value.Sound]; trivial
  · exact hv

/-! ### Pieces -/

namespace Piece

theorem cells_of_column? {p : Piece} {c : Column} (h : p.column? name = some c) :
    p.cells name = c.cells := by
  rw [cells, h]

theorem cells_of_column?_eq_none {p : Piece} (h : p.column? name = none) :
    p.cells name = List.replicate p.rows none := by
  rw [cells, h]

/-- A value among the cells is one of the column: all others are nulls. -/
theorem exists_of_mem_cells {p : Piece} {v : Value} (h : some v ∈ p.cells name) :
    ∃ c, p.column? name = some c ∧ some v ∈ c.cells := by
  rcases hc : p.column? name with _ | c
  · rw [cells_of_column?_eq_none hc] at h
    exact absurd (List.eq_of_mem_replicate h) (by simp)
  · exact ⟨c, rfl, cells_of_column? hc ▸ h⟩

/-- **A piece with a sound frame**, of as many rows as the piece. -/
def Sound (rule : Rule) (p : Piece) : Prop :=
  ∀ f ∈ p.frame, f.Sound rule ∧ f.rowCount = p.rows

theorem sound_ofFrame {f : Frame} (hf : f.Sound rule) : (ofFrame f).Sound rule := by
  rintro g ⟨⟩
  exact ⟨hf, rfl⟩

/-- A cell that is no row is a row of nulls. -/
theorem sound_ofCell {cell : Option Value} (h : ∀ v ∈ cell, v.Sound rule) :
    (ofCell cell).Sound rule := by
  rcases cell with _ | (s | f | f)
  · rintro g ⟨⟩
  · rintro g ⟨⟩
  · have hrow := h (.row f) rfl
    rw [Value.Sound] at hrow
    exact sound_ofFrame hrow.1
  · rintro g ⟨⟩

/-- The column of a piece is sound and as long as the piece. -/
theorem Sound.column? {p : Piece} (hp : p.Sound rule) {c : Column} (h : p.column? name = some c) :
    c.Sound rule ∧ c.length = p.rows := by
  obtain ⟨f, hf, hc⟩ := Option.bind_eq_some_iff.mp h
  obtain ⟨hsound, hrows⟩ := hp f hf
  exact ⟨hsound.column hc, (hsound.length_of_mem (Frame.mem_of_column?_eq_some hc)).trans hrows⟩

/-- The cells are those of the column, or nulls. -/
theorem Sound.cellsFit {p : Piece} (hp : p.Sound rule)
    (h : ∀ c, p.column? name = some c → c.type = type) : CellsFit rule type (p.cells name) := by
  intro v hv
  obtain ⟨c, hc, hmem⟩ := exists_of_mem_cells hv
  exact h c hc ▸ (hp.column? hc).1.cellsFit v hmem

/-- Whatever their types, the cells hold sound values. -/
theorem Sound.sound_of_mem_cells {p : Piece} (hp : p.Sound rule) {v : Value}
    (h : some v ∈ p.cells name) : v.Sound rule := by
  obtain ⟨c, hc, hmem⟩ := exists_of_mem_cells h
  exact ((hp.column? hc).1.cellsFit v hmem).1

theorem sound_map_ofCell (h : ∀ v, some v ∈ cells → v.Sound rule) :
    ∀ p ∈ cells.map ofCell, p.Sound rule := by
  refine List.forall_mem_map.mpr fun cell hcell => sound_ofCell ?_
  rintro v rfl
  exact h v hcell

/-- The names of stacked pieces differ. -/
theorem nodup_names (pieces : List Piece) : (names pieces).Nodup :=
  nodup_eraseDups _

/-- In the pieces that have it, the column is of the shared type. -/
theorem type_of_sharedType? {pieces : List Piece} (h : sharedType? pieces name = some type)
    {p : Piece} (hp : p ∈ pieces) {c : Column} (hc : p.column? name = some c) : c.type = type := by
  have hmem : c.type ∈ (pieces.filterMap fun p => p.column? name).map Column.type :=
    List.mem_map_of_mem (List.mem_filterMap.mpr ⟨p, hp, hc⟩)
  unfold sharedType? at h
  split at h
  next => exact absurd h (by simp)
  next first rest heq =>
    rw [heq] at hmem
    split at h
    next hall =>
      obtain rfl := Option.some.inj h
      rcases List.mem_cons.mp hmem with heq | hrest
      · exact heq
      · have hall := (Bool.and_eq_true_iff.mp hall).1
        simpa using List.all_eq_true.mp hall _ hrest
    next => exact absurd h (by simp)

/-- **The shared type** is that of the column wherever it is, and it is not `any`. -/
theorem sharedType?_eq_some_iff {pieces : List Piece} :
    sharedType? pieces name = some type ↔ type ≠ .any ∧
      (∃ p ∈ pieces, ∃ c, p.column? name = some c) ∧
        ∀ p ∈ pieces, ∀ c, p.column? name = some c → c.type = type := by
  have hmem {t : ColumnType} :
      t ∈ (pieces.filterMap fun p => p.column? name).map Column.type ↔
        ∃ p ∈ pieces, ∃ c, p.column? name = some c ∧ c.type = t := by
    simp [List.mem_filterMap]
    tauto
  constructor
  · intro h
    refine ⟨?_, ?_, fun p hp c hc => type_of_sharedType? h hp hc⟩
    · rintro rfl
      unfold sharedType? at h
      split at h
      · exact absurd h (by simp)
      · split at h
        next hall =>
          obtain rfl := Option.some.inj h
          exact absurd (Bool.and_eq_true_iff.mp hall).2 (by simp)
        next => exact absurd h (by simp)
    · by_contra hno
      have hnil : (pieces.filterMap fun p => p.column? name) = [] :=
        List.filterMap_eq_nil_iff.mpr fun p hp =>
          Option.eq_none_iff_forall_ne_some.mpr fun c hc => hno ⟨p, hp, c, hc⟩
      rw [sharedType?, hnil] at h
      exact absurd h (by simp)
  · rintro ⟨hany, ⟨p, hp, c, hc⟩, hall⟩
    obtain ⟨first, rest, heq⟩ := List.exists_cons_of_ne_nil
      (List.ne_nil_of_mem (hmem.mpr ⟨p, hp, c, hc, rfl⟩))
    have htypes : ∀ t ∈ first :: rest, t = type := by
      intro t ht
      rw [← heq] at ht
      obtain ⟨q, hq, d, hd, rfl⟩ := hmem.mp ht
      exact hall q hq d hd
    obtain rfl : first = type := htypes first List.mem_cons_self
    have hrest : rest.all (· == first) := List.all_eq_true.mpr fun t ht =>
      beq_iff_eq.mpr (htypes t (List.mem_cons_of_mem _ ht))
    rw [sharedType?, heq]
    simp [hrest, hany]

/-- What there is for every row of every piece is as long as all pieces together. -/
theorem length_flatMap {α : Type} {pieces : List Piece} {make : Piece → List α}
    (h : ∀ p ∈ pieces, (make p).length = p.rows) :
    (pieces.flatMap make).length = totalRows pieces := by
  induction pieces with
  | nil => rfl
  | cons p pieces ih =>
    obtain ⟨hp, hrest⟩ := List.forall_mem_cons.mp h
    rw [List.flatMap_cons, List.length_append, hp, ih hrest]
    rfl

end Piece

/-! ### What comes out is sound -/

/-- Sound pieces make sound frames. -/
def StackRows.Preserves (rule : Rule) (inner : StackRows) : Prop :=
  ∀ pieces, (∀ p ∈ pieces, p.Sound rule) → ∀ f, inner pieces = .ok f → f.Sound rule

/-- The column has the name that it was to have. -/
theorem Column.name_of_shape {c : Column} (h : shape inner name type cells = .ok c) :
    c.name = name := by
  unfold shape at h
  split at h
  · obtain ⟨f, -, rfl⟩ := map_eq_ok_iff.mp h
    rfl
  · rw [← Except.ok.inj h]
    rfl
  · rw [← Except.ok.inj h]
    rfl

/-- A column of a type has that type. -/
theorem Column.type_of_shape {c : Column} (h : shape inner name type cells = .ok c) :
    c.type = type := by
  unfold shape at h
  split at h
  · obtain ⟨f, -, rfl⟩ := map_eq_ok_iff.mp h
    rfl
  · obtain rfl := Except.ok.inj h
    rfl
  · obtain rfl := Except.ok.inj h
    rfl

/-- A column of a type that is not nested has the cells that it is made of. -/
theorem Column.shape_eq_ofValues (hrow : type ≠ .row) (hframe : type ≠ .frame) :
    shape inner name type cells = .ok (.ofValues name type cells) := by
  unfold shape
  split
  · exact absurd rfl hrow
  · exact absurd rfl hframe
  · rfl

/-- **Fitting cells make a sound column.** -/
theorem Column.sound_shape (hinner : StackRows.Preserves rule inner)
    (hcells : CellsFit rule type cells) {c : Column} (h : shape inner name type cells = .ok c) :
    c.Sound rule := by
  unfold shape at h
  split at h
  · obtain ⟨f, hf, rfl⟩ := map_eq_ok_iff.mp h
    refine (sound_group_iff _ _).mpr (hinner _ (Piece.sound_map_ofCell fun v hv => ?_) f hf)
    exact (hcells v hv).1
  · obtain rfl := Except.ok.inj h
    refine (sound_frames_iff _ _).mpr (List.forall_mem_map.mpr fun cell hcell => ?_)
    rcases cell with _ | (s | f | f)
    · exact Frame.sound_empty
    · exact Frame.sound_empty
    · exact Frame.sound_empty
    · have hframe := (hcells _ hcell).1
      rwa [Value.Sound] at hframe
  · obtain rfl := Except.ok.inj h
    exact sound_ofValues_iff.mpr hcells

/-- The cells of a column of inferred type fit the type. -/
theorem cellsFit_commonType (h : ∀ v, some v ∈ cells → v.Sound rule) :
    CellsFit rule (commonType cells) (cells.map (Option.map (Value.widen (commonType cells)))) := by
  intro w hw
  obtain ⟨cell, hcell, hwiden⟩ := List.mem_map.mp hw
  obtain ⟨v, rfl, rfl⟩ := Option.map_eq_some_iff.mp hwiden
  exact ⟨(h v hcell).widen _, fun _ => accepts_widen_commonType hcell⟩

/-- **Sound values make a sound column** of inferred type. -/
theorem Column.sound_infer (hinner : StackRows.Preserves rule inner)
    (hcells : ∀ v, some v ∈ cells → v.Sound rule) {c : Column}
    (h : infer inner name cells = .ok c) : c.Sound rule :=
  sound_shape hinner (cellsFit_commonType hcells) h

namespace Piece

variable {pieces : List Piece}

/-- The cells of stacked pieces fit the type that the pieces share. -/
theorem cellsFit_sharedType (h : ∀ p ∈ pieces, p.Sound rule)
    (hshared : sharedType? pieces name = some type) :
    CellsFit rule type (pieces.flatMap fun p => p.cells name) := by
  intro v hv
  obtain ⟨p, hp, hmem⟩ := List.mem_flatMap.mp hv
  exact (h p hp).cellsFit (fun c hc => type_of_sharedType? hshared hp hc) v hmem

theorem sound_of_mem_flatMap_cells (h : ∀ p ∈ pieces, p.Sound rule) {v : Value}
    (hv : some v ∈ pieces.flatMap fun p => p.cells name) : v.Sound rule := by
  obtain ⟨p, hp, hmem⟩ := List.mem_flatMap.mp hv
  exact (h p hp).sound_of_mem_cells hmem

theorem sound_stackColumn (hinner : StackRows.Preserves rule inner)
    (h : ∀ p ∈ pieces, p.Sound rule) {c : Column} (hc : stackColumn inner pieces name = .ok c) :
    c.Sound rule := by
  unfold stackColumn at hc
  split at hc
  next type hshared => exact Column.sound_shape hinner (cellsFit_sharedType h hshared) hc
  next => exact Column.sound_infer hinner (fun v hv => sound_of_mem_flatMap_cells h hv) hc

/-- **One level** keeps soundness. -/
theorem preserves_stackLevel (hinner : StackRows.Preserves rule inner) :
    StackRows.Preserves rule (stackLevel inner) := by
  intro pieces h f hf
  obtain ⟨columns, hcolumns, hcheck⟩ := bind_eq_ok_iff.mp hf
  refine Frame.sound_of_withRowCount (fun c hc => ?_) hcheck
  obtain ⟨name, -, hname⟩ := exists_mem_of_mapM_eq_ok hcolumns hc
  exact sound_stackColumn hinner h hname

/-- **Stacking keeps soundness**, by induction on the depth. -/
theorem sound_stack (depth : Nat) : StackRows.Preserves rule (stack depth) := by
  induction depth with
  | zero =>
    intro pieces _ f hf
    obtain rfl := Except.ok.inj hf
    simp [Frame.sound_iff, Frame.names]
  | succ depth ih => exact preserves_stackLevel ih

end Piece

theorem Column.sound_ofCells (hcells : CellsFit rule type cells) {c : Column}
    (h : ofCells name type cells = .ok c) : c.Sound rule :=
  sound_shape (Piece.sound_stack _) hcells h

theorem Column.sound_collect (hcells : ∀ v, some v ∈ cells → v.Sound rule) {c : Column}
    (h : collect name cells = .ok c) : c.Sound rule :=
  sound_infer (Piece.sound_stack _) hcells h

/-- **Frames on top of each other are sound.** -/
theorem Frame.sound_concat {fs : List Frame} (hfs : ∀ f ∈ fs, f.Sound rule) {f : Frame}
    (h : concat fs = .ok f) : f.Sound rule :=
  Piece.sound_stack _ _ (List.forall_mem_map.mpr fun g hg => Piece.sound_ofFrame (hfs g hg)) f h

end Colonnade
