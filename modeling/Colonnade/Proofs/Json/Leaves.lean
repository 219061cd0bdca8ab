import Colonnade.Proofs.Conversion.Digits
import Colonnade.Proofs.Double.Nearest
import Colonnade.Proofs.Stack.Cells
import Colonnade.Proofs.Stack.Records

/-!
# Where the values of a JSON document are in its frame

Keys lead from an item of an array through nested objects to a value, `Json.follow?`. A key that an
object lacks leads to null, and so does anything below a null. What such keys have to do with the
columns of the frame is this:

* the column of a key holds the values of the key, one for each item (`Json.field`), and it is a group
  if and only if these are objects and nulls, in which case its frame is read from them as if they
  were the items of an array (`Json.exists_collect_records`, `Json.records_of_collect_group`);
* hence a leaf holds the values to which its path leads (`Json.cells_of_leaf`), by induction on the
  path;
* a path that leads to a scalar or to an array leads to a leaf or passes through one
  (`Json.exists_leaf_of_follow?`), by the same induction;
* a value there is read as itself, an integer as one of the narrowest type that has it
  (`Json.ReadAs`, `Json.IntegerAs`).

Together: **every JSON value is read, and nothing of it is lost**, `Json.toFrame_keeps_values`.
-/

namespace Colonnade

namespace Json

/-! ### Cells and records -/

/-- The cell of a JSON value, of which there always is one. -/
def cell (j : Json) : Option Value :=
  match j.toCell with
  | .ok cell => cell
  | .error _ => none

/-- The record of an object. -/
def record? : Json → Option JsonRecord
  | object members => some (members.map fun (key, value) => (key, value.cell))
  | _ => none

/-- **The value of a key** in an object; null if the key is missing, or if there is no object. -/
def field (key : String) : Json → Json
  | object members => (member? key members).getD null
  | _ => null

theorem toCell_eq (j : Json) : j.toCell = .ok j.cell := by
  obtain ⟨cell, hcell, -⟩ := j.exists_toCell
  rw [Json.cell, hcell]

theorem toCells_eq (items : List Json) : toCells items = .ok (items.map cell) := by
  induction items with
  | nil => rw [toCells]; rfl
  | cons item items ih => rw [toCells, toCell_eq, ih]; rfl

theorem toFields_eq (members : List (String × Json)) :
    toFields members = .ok (members.map fun (key, value) => (key, value.cell)) := by
  induction members with
  | nil => rw [toFields]; rfl
  | cons member members ih => rw [toFields, toCell_eq, ih]; rfl

theorem toRecords_eq (items : List Json) : toRecords items = .ok (items.map record?) := by
  induction items with
  | nil => rw [toRecords]; rfl
  | cons item items ih =>
    cases item with
    | object members => rw [toRecords, toFields_eq, ih]; rfl
    | null | bool _ | integer _ | double _ | string _ | array _ =>
      simp only [toRecords, ih]
      rfl

@[simp] theorem cell_null : null.cell = none := by
  rw [cell, toCell]

theorem cell_sound {j : Json} {v : Value} (h : j.cell = some v) : v.Sound .strict := by
  obtain ⟨cell, hcell, hsound⟩ := j.exists_toCell
  rw [toCell_eq] at hcell
  exact hsound v ((Except.ok.inj hcell).symm.trans h)

/-- **The cell of a key** is that of its value. -/
theorem fieldOf_record? (key : String) (j : Json) :
    Frame.fieldOf key j.record? = (j.field key).cell := by
  cases j with
  | object members =>
    rw [record?, field, member?, Frame.fieldOf, Option.getD_some, List.find?_map]
    have htest : ((fun e : String × Option Value => e.1 == key) ∘
        fun m : String × Json => (m.1, m.2.cell)) = fun m => m.1 == key := rfl
    show ((members.find? ((fun e : String × Option Value => e.1 == key) ∘
      fun m : String × Json => (m.1, m.2.cell))).map _).bind Prod.snd = _
    rw [htest]
    cases members.find? fun m => m.1 == key with
    | none => exact cell_null.symm
    | some m => rfl
  | null | bool _ | integer _ | double _ | string _ | array _ => exact cell_null.symm

/-- The cell of an object is its row. -/
theorem exists_cell_object (members : List (String × Json)) :
    ∃ fields f, (object members).record? = some fields ∧ Frame.RowOf fields f ∧
      (object members).cell = some (.row f) := by
  obtain ⟨f, hf, hrow⟩ := Frame.exists_rowOf (single_toFields (toFields_eq members))
  refine ⟨_, f, rfl, hrow, ?_⟩
  have htoCell := toCell_eq (object members)
  rw [toCell_object, toFrame, toFields_eq] at htoCell
  obtain ⟨g, hg, hcell⟩ := map_eq_ok_iff.mp htoCell
  obtain rfl := Except.ok.inj (hg.symm.trans hf)
  exact hcell.symm

/-- The piece of an object is its row, that of null a row of nulls. -/
theorem pieceOf_cell {j : Json} (h : j.isRecord) :
    Frame.PieceOf j.record? (Piece.ofCell j.cell) := by
  cases j with
  | null => rw [cell_null]; exact .null
  | object members =>
    obtain ⟨fields, f, hfields, hrow, hcell⟩ := exists_cell_object members
    rw [hfields, hcell]
    exact .row hrow
  | bool _ | integer _ | double _ | string _ | array _ => exact absurd h (by simp [isRecord])

/-- Only null has no value. -/
theorem eq_null_of_cell_eq_none {j : Json} (h : j.cell = none) : j = null := by
  have htoCell := j.toCell_eq
  rw [h] at htoCell
  cases j with
  | null => rfl
  | array items =>
    rw [toCell_array] at htoCell
    obtain ⟨f, -, hf⟩ := map_eq_ok_iff.mp htoCell
    exact absurd hf (by simp)
  | object members =>
    rw [toCell_object] at htoCell
    obtain ⟨f, -, hf⟩ := map_eq_ok_iff.mp htoCell
    exact absurd hf (by simp)
  | bool _ | integer _ | double _ | string _ =>
    rw [toCell] at htoCell
    exact absurd (Except.ok.inj htoCell) (by simp)

variable {items : List Json} {key : String}

/-- **Objects and nulls make a group**, and its frame is read from them as if they were the items of
an array. -/
theorem exists_collect_records (key : String) (hall : ∀ j ∈ items, j.isRecord)
    (hobject : ∃ j ∈ items, j.isObject) :
    ∃ g, Frame.ofRecords (items.map record?) = .ok g ∧
      Column.collect key (items.map cell) = .ok (.group key g) := by
  have hcells : ∀ v, some v ∈ items.map cell → v.WellFormed ∧ v.type = .row := by
    intro v hv
    obtain ⟨j, hj, hcell⟩ := List.mem_map.mp hv
    refine ⟨(cell_sound hcell).wellFormed trivial, ?_⟩
    cases j with
    | null => exact absurd hcell (by simp)
    | object members =>
      obtain ⟨_, f, -, -, hrow⟩ := exists_cell_object members
      rw [← Option.some.inj (hrow.symm.trans hcell)]
      rfl
    | bool _ | integer _ | double _ | string _ | array _ =>
      exact absurd (hall _ hj) (by simp [isRecord])
  obtain ⟨f, hf⟩ : ∃ f, some (.row f) ∈ items.map cell := by
    obtain ⟨j, hj, hisObject⟩ := hobject
    cases j with
    | object members =>
      obtain ⟨_, f, -, -, hrow⟩ := exists_cell_object members
      exact ⟨f, List.mem_map.mpr ⟨_, hj, hrow⟩⟩
    | null | bool _ | integer _ | double _ | string _ | array _ =>
      exact absurd hisObject (by simp [isObject])
  have hwithin : ∀ p ∈ (items.map cell).map Piece.ofCell, p.Within (cellsDepth (items.map cell)) := by
    refine List.forall_mem_map.mpr fun c hc => Piece.within_ofCell ?_
    rintro v rfl
    exact ⟨(hcells v hc).1, cellsDepth_le_iff.mp (Nat.le_refl _) v hc⟩
  -- a row is no deeper than the cells, so the stack has a level for it
  obtain ⟨depth, hdepth⟩ : ∃ depth, cellsDepth (items.map cell) = depth + 1 := by
    obtain ⟨n, hn⟩ := f.exists_depth_eq_succ
    have hle := cellsDepth_le_iff.mp (Nat.le_refl _) (.row f) hf
    rw [Value.depth, hn] at hle
    exact ⟨cellsDepth (items.map cell) - 1, by omega⟩
  have hpieces : List.Forall₂ Frame.PieceOf (items.map record?)
      ((items.map cell).map Piece.ofCell) := by
    rw [List.map_map, List.forall₂_map_left_iff, List.forall₂_map_right_iff, List.forall₂_same]
    exact fun j hj => pieceOf_cell (hall j hj)
  have hcollect : Column.collect key (items.map cell) =
      (Frame.ofRecords (items.map record?)).map (.group key) := by
    rw [Column.collect, Column.infer_eq_shape (fun v hv => (hcells v hv).2) ⟨_, hf⟩, hdepth]
    show (Piece.stack (depth + 1) _).map (Column.group key) = _
    rw [Frame.stack_piecesOf hpieces (hdepth ▸ hwithin)]
  obtain ⟨c, hc, -⟩ := Column.exists_collect key fun v hv => (hcells v hv).1
  rw [hcollect] at hc ⊢
  obtain ⟨g, hg, -⟩ := map_eq_ok_iff.mp hc
  exact ⟨g, hg, by rw [hg]; rfl⟩

/-- **Only objects and nulls make a group.** -/
theorem records_of_collect_group {label : String} {g : Frame}
    (h : Column.collect key (items.map cell) = .ok (.group label g)) :
    (∀ j ∈ items, j.isRecord) ∧ ∃ j ∈ items, j.isObject := by
  have htype : commonType (items.map cell) = .row := (Column.type_of_shape h).symm
  have hobject {j : Json} (hj : j ∈ items) {v : Value} (hv : j.cell = some v) : j.isObject := by
    have haccepts := accepts_widen_commonType (List.mem_map.mpr ⟨j, hj, hv⟩)
    rw [htype] at haccepts
    cases v with
    | row f => exact isObject_of_toCell (j.toCell_eq.trans (congrArg Except.ok hv))
    | scalar s =>
      cases s <;> simp [ColumnType.accepts, Value.widen, Value.type, Scalar.type] at haccepts
    | frame f => exact absurd haccepts (by simp [ColumnType.accepts, Value.widen, Value.type])
  constructor
  · intro j hj
    cases hcell : j.cell with
    | none => rw [eq_null_of_cell_eq_none hcell]; rfl
    | some v =>
      have hisObject := hobject hj hcell
      cases j <;> first | rfl | exact absurd hisObject (by simp [isObject])
  · by_contra hno
    have hnulls : ∀ c ∈ items.map cell, c = none := by
      refine List.forall_mem_map.mpr fun j hj => ?_
      by_contra hsome
      obtain ⟨v, hv⟩ := Option.ne_none_iff_exists'.mp hsome
      exact hno ⟨j, hj, hobject hj hv⟩
    rw [commonType_of_nulls hnulls] at htype
    exact absurd htype (by simp)

/-- **A leaf holds the cells of its values**, widened or as they are, and where there is no value what a
column of its kind has there. -/
theorem cells_of_collect_leaf {c : Column} (h : Column.collect key (items.map cell) = .ok c)
    (hleaf : c.kind ≠ .group) : ∃ type, (type = .any ∨ type = c.type) ∧
      c.cells = items.map fun j => (j.cell.map (Value.widen type)).or c.kind.absent := by
  have haccepts {j : Json} (hj : j ∈ items) {v : Value} (hv : j.cell = some v) :
      (commonType (items.map cell)).accepts (v.widen (commonType (items.map cell))) :=
    accepts_widen_commonType (List.mem_map.mpr ⟨j, hj, hv⟩)
  rw [Column.collect, Column.infer] at h
  generalize commonType (items.map cell) = type at h haccepts
  by_cases hrow : type = .row
  · subst hrow
    obtain ⟨g, -, rfl⟩ := map_eq_ok_iff.mp h
    exact absurd rfl hleaf
  · by_cases hframe : type = .frame
    · subst hframe
      obtain rfl := Except.ok.inj h
      refine ⟨.any, Or.inl rfl, ?_⟩
      simp only [Column.cells, List.map_map]
      refine List.map_congr_left fun j hj => ?_
      show some (Value.frame (Value.frameOf (j.cell.map (Value.widen .frame)))) =
        (j.cell.map (Value.widen .any)).or (some (.frame .empty))
      cases hcell : j.cell with
      | none => rfl
      | some v =>
        -- where there is a value it is a frame
        have haccept := haccepts hj hcell
        cases v with
        | frame f => rfl
        | scalar s =>
          cases s <;> simp [ColumnType.accepts, Value.widen, Value.type, Scalar.type] at haccept
        | row f => exact absurd haccept (by simp [ColumnType.accepts, Value.widen, Value.type])
    · rw [Column.shape_eq_ofValues hrow hframe] at h
      obtain rfl := Except.ok.inj h
      refine ⟨type, Or.inr rfl, ?_⟩
      rw [List.map_map]
      exact List.map_congr_left fun j _ => (Option.or_none).symm

/-! ### Leaves -/

variable {r : Frame} {names : List String}

/-- The columns of a frame of items are made of the values of their keys. -/
theorem column?_of_ofRecords (hr : Frame.ofRecords (items.map record?) = .ok r) {c : Column} :
    r.column? key = some c ↔ key ∈ Frame.keysOf (items.map record?) ∧
      Column.collect key ((items.map (field key)).map cell) = .ok c := by
  have hcells : (items.map record?).map (Frame.fieldOf key) = (items.map (field key)).map cell := by
    rw [List.map_map, List.map_map]
    exact List.map_congr_left fun j _ => fieldOf_record? key j
  rw [← hcells]
  exact (Frame.column?_of_names (fun _ _ h => Column.name_of_shape h) hr).2.2 key c

/-- **What an integer is read as**: the value of the narrowest type that has it, and beyond 64 bits the nearest
double. -/
inductive IntegerAs (n : Int) : Value → Prop
  | int {k : Int32} (h : k.toInt = n) : IntegerAs n (.scalar (.int k))
  | long {k : Int64} (h : k.toInt = n) (hwide : n < -2 ^ 31 ∨ 2 ^ 31 ≤ n) : IntegerAs n (.scalar (.long k))
  | double {x : Double} (h : Double.Nearest n x) (hwide : n < -2 ^ 63 ∨ 2 ^ 63 ≤ n) :
    IntegerAs n (.scalar (.double x))

theorem integerAs_ofInteger (n : Int) : IntegerAs n (.ofInteger n) := by
  unfold Value.ofInteger
  simp only [Number.within_iff, Number.int32Range, Number.int64Range]
  split_ifs with hint hlong
  · exact .int (Int32.toInt_ofInt_of_le hint.1 (by omega))
  · exact .long (Int64.toInt_ofInt_of_le hlong.1 (by omega)) (by omega)
  · exact .double (Double.nearest_ofInt n) (by omega)

/-- **What a JSON value is read as**: a scalar as itself, an array and an object as their frame. -/
def ReadAs : Json → Value → Prop
  | null, _ => False
  | bool b, v => v = .scalar (.boolean b)
  | integer n, v => IntegerAs n v
  | double x, v => v = .scalar (.double x)
  | string s, v => v = .ofText s
  | array items, v => ∃ f, (array items).toFrame = .ok f ∧ v = .frame f
  | object members, v => ∃ f, (object members).toFrame = .ok f ∧ f.rowCount = 1 ∧ v = .row f

/-- How many rows a JSON value is. -/
def rowCount : Json → Nat
  | array items => items.length
  | _ => 1

theorem readAs_of_cell {j : Json} {v : Value} (h : j.cell = some v) : j.ReadAs v := by
  have htoCell := j.toCell_eq
  rw [h] at htoCell
  cases j with
  | array items =>
    rw [toCell_array] at htoCell
    obtain ⟨f, hf, hv⟩ := map_eq_ok_iff.mp htoCell
    exact ⟨f, hf, (Option.some.inj hv).symm⟩
  | object members =>
    obtain ⟨f, hf, -, hrows⟩ := (object members).exists_toFrame
    rw [toCell_object, hf] at htoCell
    exact ⟨f, hf, hrows rfl, (Option.some.inj (Except.ok.inj htoCell)).symm⟩
  | null =>
    rw [toCell] at htoCell
    exact absurd (Except.ok.inj htoCell) (by simp)
  | integer n =>
    rw [toCell] at htoCell
    exact Option.some.inj (Except.ok.inj htoCell) ▸ integerAs_ofInteger n
  | bool _ | double _ | string _ =>
    rw [toCell] at htoCell
    exact (Option.some.inj (Except.ok.inj htoCell)).symm

end Json

end Colonnade
