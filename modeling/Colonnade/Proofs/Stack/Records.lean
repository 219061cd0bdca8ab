import Mathlib
import Colonnade.Proofs.Soundness.Json
import Colonnade.Proofs.Stack.Single

/-!
# Records on top of each other

The frame of many records is made in one pass: the cells of a key are looked up in all the records, and
the type of the column is inferred from them together. A frame for each record knows the type of each
cell on its own, and stacking those frames has to find out what the types have in common.

The two agree. The frame of a record is single, so its cells are those of the record
(`Frame.RowOf.cells_eq`), and a type that all of them share is the type that would be inferred
(`Frame.stackColumn_piecesOf`). Hence `Frame.stack_piecesOf`, in which records may be missing, and with
it what it says about JSON: **reading an array of objects is reading each object and stacking the
rows**, `Json.toFrame_array_of_objects`.
-/

namespace Colonnade

/-! ### The frame of one record -/

/-- The values of a record may be collected and taken out again. -/
def JsonRecord.Single (fields : JsonRecord) : Prop :=
  ∀ key v, (key, some v) ∈ fields → v.Single

namespace Frame

/-- **The frame is the row of a record**: it has the keys in their order, and the cells. -/
structure RowOf (fields : JsonRecord) (f : Frame) : Prop where
  single : f.Single
  names_eq : f.names = (fields.map Prod.fst).eraseDups
  cell_eq : ∀ key c, f.column? key = some c → c.cell 0 = fieldOf key (some fields)

/-- A key that a record lacks is null. -/
theorem fieldOf_eq_none {fields : JsonRecord} {key : String} (h : key ∉ fields.map Prod.fst) :
    fieldOf key (some fields) = none := by
  have hfind : (fields.find? (·.1 == key)) = none := by
    refine List.find?_eq_none.mpr fun field hmem heq => h ?_
    exact List.mem_map.mpr ⟨field, hmem, beq_iff_eq.mp heq⟩
  rw [fieldOf, Option.getD_some, hfind]
  rfl

theorem single_fieldOf {fields : JsonRecord} (h : fields.Single) {key : String} {v : Value}
    (hv : fieldOf key (some fields) = some v) : v.Single := by
  obtain ⟨⟨k, cell⟩, hfind, hcell⟩ := Option.bind_eq_some_iff.mp hv
  obtain rfl : cell = some v := hcell
  exact h k v (List.mem_of_find?_eq_some hfind)

/-- **A record makes its row.** -/
theorem exists_rowOf {fields : JsonRecord} (h : fields.Single) :
    ∃ f, ofRecords [some fields] = .ok f ∧ RowOf fields f := by
  have hkeys : keysOf [some fields] = (fields.map Prod.fst).eraseDups := by
    simp [keysOf]
  have hcollect (key : String) : ∃ c, Column.collect key [fieldOf key (some fields)] = .ok c ∧
      c.Single ∧ c.WellFormed ∧ c.name = key ∧ c.cell 0 = fieldOf key (some fields) :=
    Column.exists_single (fun v hv => single_fieldOf h hv) key
  obtain ⟨columns, hcolumns, hcheck⟩ : ∃ columns,
      (keysOf [some fields]).mapM (fun key => Column.collect key [fieldOf key (some fields)]) =
        .ok columns ∧ withRowCount columns 1 = .ok ⟨columns, 1⟩ := by
    refine exists_of_names (nodup_eraseDups _) fun key => ?_
    obtain ⟨c, hc, hsingle, -, hname, -⟩ := hcollect key
    exact ⟨c, hc, hname, hsingle.length_eq⟩
  have hmade : ∀ c ∈ columns, c.Single ∧ c.WellFormed ∧ c.cell 0 = fieldOf c.name (some fields) := by
    intro c hc
    obtain ⟨key, -, hkey⟩ := exists_mem_of_mapM_eq_ok hcolumns hc
    obtain ⟨d, hd, hsingle, hwf, hname, hcell⟩ := hcollect key
    obtain rfl : d = c := Except.ok.inj (hd.symm.trans hkey)
    exact ⟨hsingle, hwf, hname ▸ hcell⟩
  obtain ⟨-, hnodup, hlength⟩ := withRowCount_eq_ok_iff.mp hcheck
  refine ⟨⟨columns, 1⟩, bind_eq_ok_iff.mpr ⟨columns, hcolumns, hcheck⟩, ⟨?_, rfl, ?_⟩, ?_, ?_⟩
  · exact wellFormed_iff.mpr ⟨hnodup, hlength, fun c hc => (hmade c hc).2.1⟩
  · exact fun c hc => (hmade c hc).1
  · rw [← hkeys, ← List.map_id (keysOf [some fields])]
    refine map_eq_of_mapM_eq_ok (fun key c hc => ?_) hcolumns
    exact Column.name_of_shape hc
  · intro key c hc
    rw [(hmade c (mem_of_column?_eq_some hc)).2.2, name_of_column?_eq_some hc]

namespace RowOf

variable {fields : JsonRecord} {f : Frame} (h : RowOf fields f)

include h

theorem mem_names_iff {key : String} : key ∈ f.names ↔ key ∈ fields.map Prod.fst := by
  rw [h.names_eq, List.mem_eraseDups]

/-- **The cell of a key** in the row is the one in the record. -/
theorem cells_eq (key : String) : (Piece.ofFrame f).cells key = [fieldOf key (some fields)] := by
  rcases hc : f.column? key with _ | c
  · have hrows : (Piece.ofFrame f).rows = 1 := h.single.rowCount_eq
    rw [Piece.cells_of_column?_eq_none (p := .ofFrame f) hc, hrows,
      fieldOf_eq_none (mt h.mem_names_iff.mpr (column?_eq_none_iff.mp hc))]
    rfl
  · rw [Piece.cells_of_column? (p := .ofFrame f) hc,
      (h.single.columns c (mem_of_column?_eq_some hc)).cells_eq, h.cell_eq key c hc]

end RowOf

/-! ### The rows of many records -/

/-- **A record as a piece**: its row, or a row of nulls if there is no record. -/
inductive PieceOf : Option JsonRecord → Piece → Prop
  | null : PieceOf none ⟨1, none⟩
  | row {fields : JsonRecord} {f : Frame} : RowOf fields f → PieceOf (some fields) (.ofFrame f)

namespace PieceOf

variable {fields : Option JsonRecord} {p : Piece} (h : PieceOf fields p)

include h

theorem rows_eq : p.rows = 1 := by
  cases h with
  | null => rfl
  | row hrow => exact hrow.single.rowCount_eq

theorem names_eq : (p.frame.map names).getD [] = ((fields.getD []).map Prod.fst).eraseDups := by
  cases h with
  | null => rfl
  | row hrow => exact hrow.names_eq

theorem cells_eq (key : String) : p.cells key = [fieldOf key fields] := by
  cases h with
  | null => rfl
  | row hrow => exact hrow.cells_eq key

theorem single {key : String} {c : Column} (hc : p.column? key = some c) : c.Single := by
  cases h with
  | null => exact absurd hc (by simp [Piece.column?])
  | row hrow => exact hrow.single.columns c (mem_of_column?_eq_some hc)

end PieceOf

variable {records : List (Option JsonRecord)} {pieces : List Piece} {depth : Nat}

/-- The names that come first are the keys that come first. -/
theorem names_piecesOf (h : List.Forall₂ PieceOf records pieces) :
    Piece.names pieces = keysOf records := by
  have hnames : pieces.map (fun p => (p.frame.map names).getD []) =
      records.map fun fields => ((fields.getD []).map Prod.fst).eraseDups := by
    induction h with
    | nil => rfl
    | cons hpiece _ ih => rw [List.map_cons, List.map_cons, hpiece.names_eq, ih]
  rw [Piece.names, List.flatMap_def, hnames, ← List.flatMap_def, eraseDups_flatMap_eraseDups, keysOf]

theorem cells_piecesOf (h : List.Forall₂ PieceOf records pieces) (key : String) :
    (pieces.flatMap fun p => p.cells key) = records.map (fieldOf key) := by
  induction h with
  | nil => rfl
  | cons hpiece _ ih =>
    rw [List.flatMap_cons, ih, hpiece.cells_eq]
    rfl

theorem totalRows_piecesOf (h : List.Forall₂ PieceOf records pieces) :
    Piece.totalRows pieces = records.length := by
  induction h with
  | nil => rfl
  | cons hpiece _ ih =>
    rw [Piece.totalRows, List.foldr_cons, ← Piece.totalRows, ih, hpiece.rows_eq, List.length_cons,
      Nat.add_comm]

/-- **A column of the stack is the one that is collected from all records.** If the rows share a type,
every value is of that type, and there is one, for otherwise the type were `any`. -/
theorem stackColumn_piecesOf (h : List.Forall₂ PieceOf records pieces)
    (hwithin : ∀ p ∈ pieces, p.Within (depth + 1)) (key : String) :
    Piece.stackColumn (Piece.stack depth) pieces key =
      Column.collect key (records.map (fieldOf key)) := by
  have hsingle {p : Piece} (hp : p ∈ pieces) {c : Column} (hc : p.column? key = some c) :
      c.Single := by
    obtain ⟨fields, -, hpiece⟩ := exists_mem_of_forall₂ h hp
    exact hpiece.single hc
  have hinfer : Column.infer (Piece.stack depth) key (pieces.flatMap fun p => p.cells key) =
      Column.collect key (pieces.flatMap fun p => p.cells key) := by
    refine Column.infer_stack_eq_collect fun v hv => ?_
    obtain ⟨p, hp, hmem⟩ := List.mem_flatMap.mp hv
    exact (hwithin p hp).of_mem_cells hmem
  rw [← cells_piecesOf h, ← hinfer, Piece.stackColumn]
  split
  next type hshared =>
    obtain ⟨hany, ⟨p, hp, c, hc⟩, htype⟩ := Piece.sharedType?_eq_some_iff.mp hshared
    refine (Column.infer_eq_shape (fun v hv => ?_) ?_).symm
    · -- a value comes from a column of the shared type, which has the type of its cell
      obtain ⟨q, hq, hcell⟩ := List.mem_flatMap.mp hv
      obtain ⟨d, hd, hmem⟩ := Piece.exists_of_mem_cells hcell
      rw [(hsingle hq hd).cells_eq] at hmem
      rw [(hsingle hq hd).type_of_cell_eq (List.mem_singleton.mp hmem).symm]
      exact htype _ hq d hd
    · obtain ⟨v, hv⟩ := (hsingle hp hc).exists_of_type_ne_any (htype _ hp c hc ▸ hany)
      refine ⟨v, List.mem_flatMap.mpr ⟨_, hp, ?_⟩⟩
      rw [Piece.cells_of_column? hc, (hsingle hp hc).cells_eq, hv]
      exact List.mem_singleton_self _
  next => rfl

/-- **The rows of records, stacked, are the frame of the records.** -/
theorem stack_piecesOf (h : List.Forall₂ PieceOf records pieces)
    (hwithin : ∀ p ∈ pieces, p.Within (depth + 1)) :
    Piece.stack (depth + 1) pieces = ofRecords records := by
  have hcolumn : Piece.stackColumn (Piece.stack depth) pieces =
      fun key => Column.collect key (records.map (fieldOf key)) :=
    funext (stackColumn_piecesOf h hwithin)
  rw [ofRecords]
  simp only [Piece.stack, Piece.stackLevel, hcolumn, names_piecesOf h, totalRows_piecesOf h]

/-- **So the frame of many records is a stack of frames**, one for each record. -/
theorem concat_eq_ofRecords {records : List JsonRecord} {fs : List Frame}
    (h : List.Forall₂ RowOf records fs) : concat fs = ofRecords (records.map some) := by
  have hwf : ∀ f ∈ fs, f.WellFormed := by
    intro f hf
    obtain ⟨fields, -, hrow⟩ := exists_mem_of_forall₂ h hf
    exact hrow.single.wellFormed
  have hpieces : List.Forall₂ PieceOf (records.map some) (fs.map Piece.ofFrame) := by
    rw [List.forall₂_map_left_iff, List.forall₂_map_right_iff]
    exact h.imp fun _ _ hrow => .row hrow
  rw [concat_eq_stack hwf (Nat.le_succ (framesDepth fs)), stack_piecesOf hpieces]
  refine List.forall_mem_map.mpr fun f hf => Piece.within_ofFrame (hwf f hf) ?_
  exact Nat.le_succ_of_le (framesDepth_le_iff.mp (Nat.le_refl _) f hf)

end Frame

/-! ### JSON objects -/

/-- A sound value is single if it is no row, or a single one. -/
theorem Value.single_of_sound {v : Value} (hv : v.Sound .strict)
    (hrow : ∀ f, v = .row f → f.Single) : v.Single :=
  ⟨hv.wellFormed trivial, hrow⟩

namespace Json

/-- Only an object is a row. -/
theorem isObject_of_toCell {j : Json} {f : Frame} (h : j.toCell = .ok (some (.row f))) :
    j.isObject := by
  cases j with
  | object members => rfl
  | array items =>
    rw [toCell_array] at h
    obtain ⟨g, -, hg⟩ := map_eq_ok_iff.mp h
    exact absurd (Option.some.inj hg) (by simp)
  | null | bool _ | double _ | string _ =>
    rw [toCell] at h
    exact absurd (Except.ok.inj h) (by simp [Value.ofText])
  | integer n =>
    rw [toCell] at h
    have hrow : Value.ofInteger n = .row f := Option.some.inj (Except.ok.inj h)
    unfold Value.ofInteger at hrow
    split_ifs at hrow

mutual

/-- **What is in the cell of a JSON value is single**: an object makes a row of its own. -/
theorem single_toCell :
    ∀ {j : Json} {cell : Option Value}, j.toCell = .ok cell → ∀ v ∈ cell, v.Single
  | object members, cell, h => by
    rintro v rfl
    obtain ⟨cell, hcell, hsound⟩ := exists_toCell (object members)
    obtain rfl := Except.ok.inj (hcell.symm.trans h)
    refine Value.single_of_sound (hsound v rfl) ?_
    rintro f rfl
    rw [toCell] at h
    obtain ⟨fields, hfields, h⟩ := bind_eq_ok_iff.mp h
    obtain ⟨g, hg, h⟩ := bind_eq_ok_iff.mp h
    obtain ⟨g', hg', hrow⟩ := Frame.exists_rowOf (single_toFields hfields)
    obtain rfl := Except.ok.inj (hg.symm.trans hg')
    obtain rfl : g = f := Value.row.inj (Option.some.inj (Except.ok.inj h))
    exact hrow.single
  | null, cell, h | bool _, cell, h | integer _, cell, h | double _, cell, h | string _, cell, h
  | array _, cell, h => by
    rintro v rfl
    obtain ⟨cell, hcell, hsound⟩ := exists_toCell _
    obtain rfl := Except.ok.inj (hcell.symm.trans h)
    refine Value.single_of_sound (hsound v rfl) ?_
    rintro f rfl
    exact absurd (isObject_of_toCell h) (by simp [isObject])

theorem single_toFields :
    ∀ {members : List (String × Json)} {fields : JsonRecord}, toFields members = .ok fields →
      fields.Single
  | [], fields, h => by
    rw [toFields] at h
    obtain rfl := Except.ok.inj h
    exact fun _ _ hv => absurd hv List.not_mem_nil
  | (key, value) :: members, fields, h => by
    rw [toFields] at h
    obtain ⟨cell, hcell, h⟩ := bind_eq_ok_iff.mp h
    obtain ⟨rest, hrest, h⟩ := bind_eq_ok_iff.mp h
    obtain rfl : (key, cell) :: rest = fields := Except.ok.inj h
    intro k v hv
    rcases List.mem_cons.mp hv with heq | hv
    · obtain ⟨-, rfl⟩ := Prod.mk.inj heq
      exact single_toCell hcell v rfl
    · exact single_toFields hrest k v hv

end

/-- Objects side by side are rows. -/
theorem areRecords_map_object (objects : List (List (String × Json))) :
    areRecords (objects.map object) = true := by
  cases objects with
  | nil => rfl
  | cons members objects => simp [areRecords, isRecord, isObject]

/-- The records of objects, each with its row. -/
theorem exists_rowsOf_objects (objects : List (List (String × Json))) :
    ∃ records fs, toRecords (objects.map object) = .ok (records.map some) ∧
      objects.mapM (fun members => (object members).toFrame) = .ok fs ∧
        List.Forall₂ Frame.RowOf records fs := by
  induction objects with
  | nil => exact ⟨[], [], by simp [toRecords], rfl, .nil⟩
  | cons members objects ih =>
    obtain ⟨records, fs, hrecords, hfs, hrows⟩ := ih
    obtain ⟨fields, hfields, -⟩ := exists_toFields members
    obtain ⟨f, hf, hrow⟩ := Frame.exists_rowOf (single_toFields hfields)
    have hframe : (object members).toFrame = .ok f := by
      rw [toFrame, hfields]
      exact hf
    refine ⟨fields :: records, f :: fs, ?_, ?_, .cons hrow hrows⟩
    · rw [List.map_cons, toRecords, hfields, hrecords]
      rfl
    · exact mapM_eq_ok_iff.mpr (.cons hframe (mapM_eq_ok_iff.mp hfs))

/-- **Reading an array of objects is reading each object and stacking the rows.** Both always give a
frame, and it is the same one: names and their order, types, what may be null, groups, frames in cells
and all cells. -/
theorem toFrame_array_of_objects (objects : List (List (String × Json))) :
    ∃ fs f, objects.mapM (fun members => (object members).toFrame) = .ok fs ∧
      (∀ g ∈ fs, g.rowCount = 1) ∧ Frame.concat fs = .ok f ∧
        (array (objects.map object)).toFrame = .ok f := by
  obtain ⟨records, fs, hrecords, hfs, hrows⟩ := exists_rowsOf_objects objects
  obtain ⟨f, hf, -⟩ := exists_toFrame (array (objects.map object))
  refine ⟨fs, f, hfs, fun g hg => ?_, ?_, hf⟩
  · obtain ⟨fields, -, hrow⟩ := exists_mem_of_forall₂ hrows hg
    exact hrow.single.rowCount_eq
  · rw [Frame.concat_eq_ofRecords hrows, ← hf, toFrame, if_pos (areRecords_map_object objects),
      hrecords]
    rfl

end Json

end Colonnade
