import Colonnade.Parser
import Colonnade.Proofs.Stack.Total

/-!
# Frames of JSON values are sound

Every JSON value is a cell and every JSON value is a frame: no nesting and no mixture of types can
make a reading fail once the text has been read (`Json.exists_toCell`, `Json.exists_toFrame`). What
comes out is sound in every respect, `Rule.strict`, because an object is a row of one row and all
columns are of inferred type.

A text that begins with an opening brace is an object if it is anything (`Json.isObject_of_ofText?`),
so the frame that the parser of rows makes of it has one row: `Parser.readJson?_row`.
-/

namespace Colonnade

/-- **Everything that soundness may include.** -/
def Rule.strict : Rule := ⟨True, True⟩

/-! ### Records -/

/-- The values of a record are sound. -/
def JsonRecord.Sound (fields : JsonRecord) : Prop :=
  ∀ key v, (key, some v) ∈ fields → v.Sound .strict

namespace Frame

theorem sound_fieldOf {fields : Option JsonRecord} (h : ∀ r ∈ fields, r.Sound) {key : String}
    {v : Value} (hv : fieldOf key fields = some v) : v.Sound .strict := by
  rcases fields with _ | fields
  · exact absurd hv (by simp [fieldOf])
  · obtain ⟨⟨k, cell⟩, hfind, hcell⟩ := Option.bind_eq_some_iff.mp hv
    obtain rfl : cell = some v := hcell
    exact h fields rfl k v (List.mem_of_find?_eq_some hfind)

/-- **Records make a sound frame**, with a row for each. -/
theorem exists_ofRecords {records : List (Option JsonRecord)}
    (h : ∀ fields, some fields ∈ records → JsonRecord.Sound fields) :
    ∃ f, ofRecords records = .ok f ∧ f.Sound .strict ∧ f.rowCount = records.length := by
  have hcells (key : String) : ∀ v, some v ∈ records.map (fieldOf key) → v.Sound .strict := by
    intro v hv
    obtain ⟨fields, hfields, hv⟩ := List.mem_map.mp hv
    exact sound_fieldOf (fun r hr => h r (hr ▸ hfields)) hv
  have hcolumn (key : String) : ∃ c, Column.collect key (records.map (fieldOf key)) = .ok c ∧
      c.name = key ∧ c.length = records.length := by
    obtain ⟨c, hc, -, hlength⟩ :=
      Column.exists_collect key fun v hv => (hcells key v hv).wellFormed trivial
    exact ⟨c, hc, Column.name_of_shape hc, hlength.trans (List.length_map _)⟩
  obtain ⟨columns, hcolumns, hcheck⟩ := exists_of_names (nodup_eraseDups _) hcolumn
  have hsound : ∀ c ∈ columns, c.Sound .strict := by
    intro c hc
    obtain ⟨key, -, hkey⟩ := exists_mem_of_mapM_eq_ok hcolumns hc
    exact Column.sound_collect (hcells key) hkey
  exact ⟨_, bind_eq_ok_iff.mpr ⟨columns, hcolumns, hcheck⟩, sound_of_withRowCount hsound hcheck,
    rfl⟩

/-- **Cells make a sound frame** of one column. -/
theorem exists_ofCells {cells : List (Option Value)} (h : ∀ v, some v ∈ cells → v.Sound .strict) :
    ∃ f, ofCells cells = .ok f ∧ f.Sound .strict := by
  obtain ⟨c, hc, -, hlength⟩ :=
    Column.exists_collect valueColumn fun v hv => (h v hv).wellFormed trivial
  have hcheck : withRowCount [c] cells.length = .ok ⟨[c], cells.length⟩ :=
    withRowCount_eq_ok_iff.mpr
      ⟨rfl, List.nodup_singleton _, List.forall_mem_singleton.mpr hlength⟩
  refine ⟨_, bind_eq_ok_iff.mpr ⟨c, hc, hcheck⟩, sound_of_withRowCount ?_ hcheck⟩
  exact List.forall_mem_singleton.mpr (Column.sound_collect h hc)

end Frame

/-! ### Values -/

@[simp] theorem Value.sound_scalar {rule : Rule} (s : Scalar) : (Value.scalar s).Sound rule := by
  rw [Value.Sound]
  trivial

theorem Value.sound_ofInteger {rule : Rule} (n : Int) : (Value.ofInteger n).Sound rule := by
  unfold Value.ofInteger
  split_ifs <;> exact Value.sound_scalar _

namespace Json

theorem sound_singleton {fields : JsonRecord} (h : fields.Sound) :
    ∀ r, some r ∈ [some fields] → JsonRecord.Sound r := by
  intro r hr
  obtain rfl := Option.some.inj (List.mem_singleton.mp hr)
  exact h

mutual

/-- **Every JSON value is a cell**, with a sound value in it if it is not null. -/
theorem exists_toCell : ∀ j : Json, ∃ cell, j.toCell = .ok cell ∧ ∀ v ∈ cell, v.Sound .strict
  | null => ⟨none, by rw [toCell], by rintro v ⟨⟩⟩
  | bool b => ⟨_, by rw [toCell], by rintro v ⟨⟩; exact Value.sound_scalar _⟩
  | integer n => ⟨_, by rw [toCell], by rintro v ⟨⟩; exact Value.sound_ofInteger n⟩
  | double x => ⟨_, by rw [toCell], by rintro v ⟨⟩; exact Value.sound_scalar _⟩
  | string s => ⟨_, by rw [toCell], by rintro v ⟨⟩; exact Value.sound_ofText s⟩
  | array items => by
    rw [toCell]
    split
    · obtain ⟨records, hrecords, hsound⟩ := exists_toRecords items
      obtain ⟨f, hf, hfs, -⟩ := Frame.exists_ofRecords hsound
      refine ⟨some (.frame f),
        bind_eq_ok_iff.mpr ⟨records, hrecords, bind_eq_ok_iff.mpr ⟨f, hf, rfl⟩⟩, ?_⟩
      rintro v ⟨⟩
      rwa [Value.Sound]
    · obtain ⟨cells, hcells, hsound⟩ := exists_toCells items
      obtain ⟨f, hf, hfs⟩ := Frame.exists_ofCells hsound
      refine ⟨some (.frame f),
        bind_eq_ok_iff.mpr ⟨cells, hcells, bind_eq_ok_iff.mpr ⟨f, hf, rfl⟩⟩, ?_⟩
      rintro v ⟨⟩
      rwa [Value.Sound]
  | object members => by
    rw [toCell]
    obtain ⟨fields, hfields, hsound⟩ := exists_toFields members
    obtain ⟨f, hf, hfs, hrows⟩ := Frame.exists_ofRecords (sound_singleton hsound)
    refine ⟨some (.row f),
      bind_eq_ok_iff.mpr ⟨fields, hfields, bind_eq_ok_iff.mpr ⟨f, hf, rfl⟩⟩, ?_⟩
    rintro v ⟨⟩
    rw [Value.Sound]
    exact ⟨hfs, fun _ => hrows⟩

theorem exists_toCells : ∀ items : List Json,
    ∃ cells, toCells items = .ok cells ∧ ∀ v, some v ∈ cells → v.Sound .strict
  | [] => ⟨[], by rw [toCells], fun v hv => absurd hv List.not_mem_nil⟩
  | item :: items => by
    obtain ⟨cell, hcell, hsound⟩ := exists_toCell item
    obtain ⟨cells, hcells, hrest⟩ := exists_toCells items
    refine ⟨cell :: cells, by rw [toCells, hcell, hcells]; rfl, fun v hv => ?_⟩
    rcases List.mem_cons.mp hv with rfl | hv
    · exact hsound v rfl
    · exact hrest v hv

theorem exists_toFields : ∀ members : List (String × Json),
    ∃ fields, toFields members = .ok fields ∧ JsonRecord.Sound fields
  | [] => ⟨[], by rw [toFields], fun _ _ hv => absurd hv List.not_mem_nil⟩
  | (key, value) :: members => by
    obtain ⟨cell, hcell, hsound⟩ := exists_toCell value
    obtain ⟨fields, hfields, hrest⟩ := exists_toFields members
    refine ⟨(key, cell) :: fields, by rw [toFields, hcell, hfields]; rfl, fun k v hv => ?_⟩
    rcases List.mem_cons.mp hv with heq | hv
    · obtain ⟨-, rfl⟩ := Prod.mk.inj heq
      exact hsound v rfl
    · exact hrest k v hv

theorem exists_toRecords : ∀ items : List Json,
    ∃ records, toRecords items = .ok records ∧
      ∀ fields, some fields ∈ records → JsonRecord.Sound fields
  | [] => ⟨[], by rw [toRecords], fun _ hv => absurd hv List.not_mem_nil⟩
  | object members :: items => by
    obtain ⟨fields, hfields, hsound⟩ := exists_toFields members
    obtain ⟨records, hrecords, hrest⟩ := exists_toRecords items
    refine ⟨some fields :: records, by rw [toRecords, hfields, hrecords]; rfl, fun r hr => ?_⟩
    rcases List.mem_cons.mp hr with heq | hr
    · exact Option.some.inj heq ▸ hsound
    · exact hrest r hr
  | null :: items | bool _ :: items | integer _ :: items | double _ :: items | string _ :: items
  | array _ :: items => by
    obtain ⟨records, hrecords, hrest⟩ := exists_toRecords items
    refine ⟨none :: records, by simp only [toRecords, hrecords]; rfl, fun r hr => ?_⟩
    rcases List.mem_cons.mp hr with heq | hr
    · exact absurd heq (by simp)
    · exact hrest r hr

end

/-- An array in a cell is the frame that it is on its own, -/
theorem toCell_array (items : List Json) :
    (array items).toCell = (array items).toFrame.map fun f => some (.frame f) := by
  rw [toCell, toFrame]
  split
  · exact bind_bind_pure_eq_map (toRecords items) Frame.ofRecords _
  · exact bind_bind_pure_eq_map (toCells items) Frame.ofCells _

/-- and so is an object. -/
theorem toCell_object (members : List (String × Json)) :
    (object members).toCell = (object members).toFrame.map fun f => some (.row f) := by
  rw [toCell, toFrame]
  exact bind_bind_pure_eq_map (toFields members) (fun fields => Frame.ofRecords [some fields]) _

/-- **Every JSON value is a frame**, an object one of one row. -/
theorem exists_toFrame (j : Json) :
    ∃ f, j.toFrame = .ok f ∧ f.Sound .strict ∧ (j.isObject → f.rowCount = 1) := by
  obtain ⟨cell, hcell, hsound⟩ := exists_toCell j
  cases j with
  | array items =>
    rw [toCell_array] at hcell
    obtain ⟨f, hf, rfl⟩ := map_eq_ok_iff.mp hcell
    have hframe := hsound (.frame f) rfl
    rw [Value.Sound] at hframe
    exact ⟨f, hf, hframe, fun h => absurd h (by simp [isObject])⟩
  | object members =>
    rw [toCell_object] at hcell
    obtain ⟨f, hf, rfl⟩ := map_eq_ok_iff.mp hcell
    have hrow := hsound (.row f) rfl
    rw [Value.Sound] at hrow
    exact ⟨f, hf, hrow.1, fun _ => hrow.2 trivial⟩
  | null | bool _ | integer _ | double _ | string _ =>
    -- a scalar is a column of its cell
    obtain ⟨f, hf, hframe⟩ : ∃ f, Frame.ofCells [cell] = .ok f ∧ f.Sound .strict :=
      Frame.exists_ofCells fun v hv => hsound v (List.mem_singleton.mp hv).symm
    exact ⟨f, bind_eq_ok_iff.mpr ⟨cell, hcell, hf⟩, hframe, fun h => absurd h (by simp [isObject])⟩

/-! ### Texts -/

/-- A text that begins with an opening brace reads as an object. -/
theorem isObject_of_readValue {fuel depth : Nat} {cs rest : List Char} {j : Json}
    (h : readValue fuel depth ('\x7b' :: cs) = .ok (j, rest)) : j.isObject := by
  cases fuel with
  | zero => exact absurd h (by simp [readValue])
  | succ fuel =>
    have hread : readValue (fuel + 1) depth ('\x7b' :: cs) =
        if depth = 0 then .error .malformed
        else (readMembers fuel (depth - 1) true cs).map fun read =>
          (ofMembers read.1, read.2) := by
      rw [readValue]
      rfl
    rw [hread] at h
    split at h
    · exact absurd h (by simp)
    · obtain ⟨read, -, heq⟩ := map_eq_ok_iff.mp h
      rw [← (Prod.mk.inj heq).1]
      rfl

theorem isObject_of_ofText? {s : String} (hs : s.toList.head? = some '\x7b') {j : Json}
    (h : ofText? s = .ok j) : j.isObject := by
  obtain ⟨cs, hcs⟩ : ∃ cs, s.toList = '\x7b' :: cs := by
    cases hlist : s.toList with
    | nil => rw [hlist] at hs; exact absurd hs (by simp)
    | cons c cs => rw [hlist] at hs; exact ⟨cs, by rw [Option.some.inj hs]⟩
  obtain ⟨⟨value, rest⟩, hvalue, hrest⟩ := bind_eq_ok_iff.mp h
  rw [hcs] at hvalue
  dsimp only at hrest
  split at hrest
  · exact Except.ok.inj hrest ▸ isObject_of_readValue hvalue
  · exact absurd hrest (by simp)

end Json

/-- **A frame that is read from a text is sound.** -/
theorem Frame.sound_ofJsonText {s : String} {f : Frame} (h : ofJsonText s = .ok f) :
    f.Sound .strict := by
  unfold ofJsonText at h
  split at h
  next document _ =>
    obtain ⟨g, hg, hsound, -⟩ := document.exists_toFrame
    exact Except.ok.inj (hg.symm.trans h) ▸ hsound
  next => exact absurd h (by simp)

namespace Parser

/-- A frame that is read from a cell is read from its text. -/
theorem ofJsonText_of_readJson? {first : Char} {s : String} {f : Frame}
    (h : readJson? first s = some f) :
    s.toList.head? = some first ∧ Frame.ofJsonText s = .ok f := by
  unfold readJson? at h
  split at h
  next hfirst =>
    cases hf : Frame.ofJsonText s with
    | error e => rw [hf] at h; exact absurd h (by simp [Except.toOption])
    | ok g => rw [hf] at h; exact ⟨hfirst, congrArg Except.ok (Option.some.inj h)⟩
  next => exact absurd h (by simp)

theorem sound_readJson? {first : Char} {s : String} {f : Frame} (h : readJson? first s = some f) :
    f.Sound .strict :=
  Frame.sound_ofJsonText (ofJsonText_of_readJson? h).2

/-- **A row that is read from a text is one row.** -/
theorem rowCount_readJson? {s : String} {f : Frame} (h : readJson? '\x7b' s = some f) :
    f.rowCount = 1 := by
  obtain ⟨hfirst, hf⟩ := ofJsonText_of_readJson? h
  unfold Frame.ofJsonText at hf
  split at hf
  next document hdocument =>
    obtain ⟨g, hg, -, hrows⟩ := document.exists_toFrame
    exact Except.ok.inj (hg.symm.trans hf) ▸ hrows (Json.isObject_of_ofText? hfirst hdocument)
  next => exact absurd hf (by simp)

end Parser

end Colonnade
