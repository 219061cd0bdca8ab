import Colonnade.Frame.Lookup
import Colonnade.Proofs.Frame.Descent

/-!
# Sound frames

A frame is *sound* if at every depth – in its groups, in its frame columns, and in the rows and frames
that its cells hold – names side by side differ, every column is as long as its frame, and a column
that holds a null says so. A `Rule` may ask for more:

| demand | what it asks |
| --- | --- |
| `oneRow` | a row in a cell is a frame of one row |
| `typed` | a cell that is not null is of the type of its column |

What is sound can be taken apart – a column, a row, the cells – and the parts are sound. The cells of
a column are best looked at together with its type: `CellsFit`.
-/

namespace Colonnade

/-- **What soundness is to include** besides names, lengths and nulls. -/
structure Rule where
  /-- A row in a cell is a frame of one row. -/
  oneRow : Prop
  /-- A cell that is not null is of the type of its column. -/
  typed : Prop

mutual

/-- Every frame in the value is sound. -/
def Value.Sound (rule : Rule) : Value → Prop
  | .scalar _ => True
  | .row f => f.Sound rule ∧ (rule.oneRow → f.rowCount = 1)
  | .frame f => f.Sound rule

/-- The column says whether it holds nulls, and every frame in it is sound. -/
def Column.Sound (rule : Rule) : Column → Prop
  | .value _ type nullable cells =>
    (none ∈ cells → nullable = true) ∧ (rule.typed → ∀ v, some v ∈ cells → type.accepts v) ∧
      cellsSound rule cells
  | .group _ f => f.Sound rule
  | .frames _ fs => framesSound rule fs

/-- **A sound frame.** -/
def Frame.Sound (rule : Rule) : Frame → Prop
  | ⟨columns, rowCount⟩ =>
    (columns.map Column.name).Nodup ∧ (∀ c ∈ columns, c.length = rowCount) ∧
      columnsSound rule columns

/-- Every frame in the cells is sound. -/
def cellsSound (rule : Rule) : List (Option Value) → Prop
  | [] => True
  | none :: cells => cellsSound rule cells
  | some v :: cells => v.Sound rule ∧ cellsSound rule cells

/-- Every frame of the list is sound. -/
def framesSound (rule : Rule) : List Frame → Prop
  | [] => True
  | f :: fs => f.Sound rule ∧ framesSound rule fs

/-- Every column of the list is sound. -/
def columnsSound (rule : Rule) : List Column → Prop
  | [] => True
  | c :: cs => c.Sound rule ∧ columnsSound rule cs

end

/-! ### One level -/

variable {rule : Rule}

theorem cellsSound_iff {cells : List (Option Value)} :
    cellsSound rule cells ↔ ∀ v, some v ∈ cells → v.Sound rule := by
  induction cells with
  | nil => simp [cellsSound]
  | cons cell cells ih =>
    cases cell with
    | none => simp [cellsSound, ih]
    | some v => simp [cellsSound, ih]

theorem framesSound_iff {fs : List Frame} : framesSound rule fs ↔ ∀ f ∈ fs, f.Sound rule := by
  induction fs with
  | nil => simp [framesSound]
  | cons f fs ih => simp [framesSound, ih]

theorem columnsSound_iff {cs : List Column} : columnsSound rule cs ↔ ∀ c ∈ cs, c.Sound rule := by
  induction cs with
  | nil => simp [columnsSound]
  | cons c cs ih => simp [columnsSound, ih]

/-- **Sound values for the cells of a column of a type.** -/
def CellsFit (rule : Rule) (type : ColumnType) (cells : List (Option Value)) : Prop :=
  ∀ v, some v ∈ cells → v.Sound rule ∧ (rule.typed → type.accepts v)

theorem Frame.sound_iff {f : Frame} :
    f.Sound rule ↔ f.names.Nodup ∧ (∀ c ∈ f.columns, c.length = f.rowCount) ∧
      ∀ c ∈ f.columns, c.Sound rule := by
  obtain ⟨columns, rowCount⟩ := f
  simp [Frame.Sound, Frame.names, columnsSound_iff]

namespace Column

theorem sound_value_iff {name : String} {type : ColumnType} {nullable : Bool}
    {cells : List (Option Value)} :
    (value name type nullable cells).Sound rule ↔
      (none ∈ cells → nullable = true) ∧ CellsFit rule type cells := by
  rw [Column.Sound, cellsSound_iff]
  refine and_congr_right fun _ => ⟨fun h v hv => ?_, fun h => ⟨fun ht v hv => ?_, fun v hv => ?_⟩⟩
  · exact ⟨h.2 v hv, fun ht => h.1 ht v hv⟩
  · exact (h v hv).2 ht
  · exact (h v hv).1

@[simp] theorem sound_group_iff (name : String) (f : Frame) :
    (group name f).Sound rule ↔ f.Sound rule := by
  rw [Column.Sound]

@[simp] theorem sound_frames_iff (name : String) (fs : List Frame) :
    (frames name fs).Sound rule ↔ ∀ f ∈ fs, f.Sound rule := by
  rw [Column.Sound, framesSound_iff]

@[simp] theorem sound_rename_iff (c : Column) (new : String) :
    (c.rename new).Sound rule ↔ c.Sound rule := by
  cases c <;> simp only [rename, Column.Sound]

/-- A column that is nullable if and only if it holds a null needs nothing but fitting cells. -/
theorem sound_ofValues_iff {name : String} {type : ColumnType} {cells : List (Option Value)} :
    (ofValues name type cells).Sound rule ↔ CellsFit rule type cells := by
  rw [ofValues, sound_value_iff, and_iff_right_iff_imp]
  exact fun _ hnone => List.any_eq_true.mpr ⟨none, hnone, rfl⟩

theorem Sound.frame {c : Column} {f : Frame} (hc : c.Sound rule) (hf : c.group? = some f) :
    f.Sound rule := by
  rwa [group?_eq_some_iff.mp hf, sound_group_iff] at hc

end Column

@[simp] theorem Value.sound_ofText (s : String) : (Value.ofText s).Sound rule := by
  rw [Value.ofText, Value.Sound]
  trivial

theorem cellsFit_nil (rule : Rule) (type : ColumnType) : CellsFit rule type [] :=
  fun _ hv => absurd hv List.not_mem_nil

theorem cellsFit_append {type : ColumnType} {cells more : List (Option Value)}
    (h : CellsFit rule type cells) (h' : CellsFit rule type more) :
    CellsFit rule type (cells ++ more) := by
  intro v hv
  rcases List.mem_append.mp hv with hv | hv
  · exact h v hv
  · exact h' v hv

/-! ### Rules that ask for less -/

instance : LE Rule :=
  ⟨fun less rule => (less.oneRow → rule.oneRow) ∧ (less.typed → rule.typed)⟩

mutual

/-- **What is sound by a rule is sound by one that asks for less.** -/
theorem Value.Sound.mono {less : Rule} (hle : less ≤ rule) :
    ∀ {v : Value}, v.Sound rule → v.Sound less
  | .scalar _, _ => by rw [Value.Sound]; trivial
  | .row _, h => by
    rw [Value.Sound] at h ⊢
    exact ⟨Frame.Sound.mono hle h.1, fun hrow => h.2 (hle.1 hrow)⟩
  | .frame _, h => by
    rw [Value.Sound] at h ⊢
    exact Frame.Sound.mono hle h

theorem Column.Sound.mono {less : Rule} (hle : less ≤ rule) :
    ∀ {c : Column}, c.Sound rule → c.Sound less
  | .value _ _ _ _, h => by
    rw [Column.Sound] at h ⊢
    exact ⟨h.1, fun htyped => h.2.1 (hle.2 htyped), cellsSound_mono hle h.2.2⟩
  | .group _ _, h => by
    rw [Column.Sound] at h ⊢
    exact Frame.Sound.mono hle h
  | .frames _ _, h => by
    rw [Column.Sound] at h ⊢
    exact framesSound_mono hle h

theorem Frame.Sound.mono {less : Rule} (hle : less ≤ rule) :
    ∀ {f : Frame}, f.Sound rule → f.Sound less
  | ⟨_, _⟩, h => by
    rw [Frame.Sound] at h ⊢
    exact ⟨h.1, h.2.1, columnsSound_mono hle h.2.2⟩

theorem cellsSound_mono {less : Rule} (hle : less ≤ rule) :
    ∀ {cells}, cellsSound rule cells → cellsSound less cells
  | [], _ => by rw [cellsSound]; trivial
  | none :: _, h => by
    rw [cellsSound] at h ⊢
    exact cellsSound_mono hle h
  | some _ :: _, h => by
    rw [cellsSound] at h ⊢
    exact ⟨Value.Sound.mono hle h.1, cellsSound_mono hle h.2⟩

theorem framesSound_mono {less : Rule} (hle : less ≤ rule) :
    ∀ {fs}, framesSound rule fs → framesSound less fs
  | [], _ => by rw [framesSound]; trivial
  | _ :: _, h => by
    rw [framesSound] at h ⊢
    exact ⟨Frame.Sound.mono hle h.1, framesSound_mono hle h.2⟩

theorem columnsSound_mono {less : Rule} (hle : less ≤ rule) :
    ∀ {cs}, columnsSound rule cs → columnsSound less cs
  | [], _ => by rw [columnsSound]; trivial
  | _ :: _, h => by
    rw [columnsSound] at h ⊢
    exact ⟨Column.Sound.mono hle h.1, columnsSound_mono hle h.2⟩

end

/-! ### Soundness and being well-formed -/

mutual

/-- **What is sound is well-formed**, if a row in a cell has to be one row. -/
theorem Value.Sound.wellFormed (hrule : rule.oneRow) : ∀ {v : Value}, v.Sound rule → v.WellFormed
  | .scalar _, _ => by rw [Value.WellFormed]; trivial
  | .row _, h => by
    rw [Value.Sound] at h
    rw [Value.WellFormed]
    exact ⟨Frame.Sound.wellFormed hrule h.1, h.2 hrule⟩
  | .frame _, h => by
    rw [Value.Sound] at h
    rw [Value.WellFormed]
    exact Frame.Sound.wellFormed hrule h

theorem Column.Sound.wellFormed (hrule : rule.oneRow) :
    ∀ {c : Column}, c.Sound rule → c.WellFormed
  | .value _ _ _ _, h => by
    rw [Column.Sound] at h
    rw [Column.WellFormed]
    exact cellsWellFormed_of_sound hrule h.2.2
  | .group _ _, h => by
    rw [Column.Sound] at h
    rw [Column.WellFormed]
    exact Frame.Sound.wellFormed hrule h
  | .frames _ _, h => by
    rw [Column.Sound] at h
    rw [Column.WellFormed]
    exact framesWellFormed_of_sound hrule h

theorem Frame.Sound.wellFormed (hrule : rule.oneRow) : ∀ {f : Frame}, f.Sound rule → f.WellFormed
  | ⟨_, _⟩, h => by
    rw [Frame.Sound] at h
    rw [Frame.WellFormed]
    exact ⟨h.1, h.2.1, columnsWellFormed_of_sound hrule h.2.2⟩

theorem cellsWellFormed_of_sound (hrule : rule.oneRow) :
    ∀ {cells}, cellsSound rule cells → cellsWellFormed cells
  | [], _ => by rw [cellsWellFormed]; trivial
  | none :: _, h => by
    rw [cellsSound] at h
    rw [cellsWellFormed]
    exact cellsWellFormed_of_sound hrule h
  | some _ :: _, h => by
    rw [cellsSound] at h
    rw [cellsWellFormed]
    exact ⟨Value.Sound.wellFormed hrule h.1, cellsWellFormed_of_sound hrule h.2⟩

theorem framesWellFormed_of_sound (hrule : rule.oneRow) :
    ∀ {fs}, framesSound rule fs → framesWellFormed fs
  | [], _ => by rw [framesWellFormed]; trivial
  | _ :: _, h => by
    rw [framesSound] at h
    rw [framesWellFormed]
    exact ⟨Frame.Sound.wellFormed hrule h.1, framesWellFormed_of_sound hrule h.2⟩

theorem columnsWellFormed_of_sound (hrule : rule.oneRow) :
    ∀ {cs}, columnsSound rule cs → columnsWellFormed cs
  | [], _ => by rw [columnsWellFormed]; trivial
  | _ :: _, h => by
    rw [columnsSound] at h
    rw [columnsWellFormed]
    exact ⟨Column.Sound.wellFormed hrule h.1, columnsWellFormed_of_sound hrule h.2⟩

end

/-! ### Columns and frames of sound parts -/

/-- A column of texts is sound. -/
theorem Column.sound_ofTexts (name : String) (texts : List (Option String)) :
    (ofTexts name texts).Sound rule := by
  refine sound_ofValues_iff.mpr fun v hv => ?_
  obtain ⟨text, -, htext⟩ := List.mem_map.mp hv
  obtain ⟨s, -, rfl⟩ := Option.map_eq_some_iff.mp htext
  exact ⟨Value.sound_ofText s, fun _ => rfl⟩

namespace Frame

@[simp] theorem sound_empty : empty.Sound rule := by
  simp [sound_iff, empty, names]

/-- **The checked constructor makes sound frames** of sound columns. -/
theorem sound_of_withRowCount {columns : List Column} {n : Nat} {f : Frame}
    (hcolumns : ∀ c ∈ columns, c.Sound rule) (h : withRowCount columns n = .ok f) :
    f.Sound rule := by
  obtain ⟨rfl, hnodup, hlength⟩ := withRowCount_eq_ok_iff.mp h
  exact sound_iff.mpr ⟨hnodup, hlength, hcolumns⟩

namespace Sound

variable {f : Frame} (hf : f.Sound rule)

include hf

theorem nodup_names : f.names.Nodup :=
  (sound_iff.mp hf).1

theorem length_of_mem {c : Column} (h : c ∈ f.columns) : c.length = f.rowCount :=
  (sound_iff.mp hf).2.1 c h

theorem of_mem {c : Column} (h : c ∈ f.columns) : c.Sound rule :=
  (sound_iff.mp hf).2.2 c h

theorem column {name : String} {c : Column} (h : f.column? name = some c) : c.Sound rule :=
  hf.of_mem (mem_of_column?_eq_some h)

/-- **Whatever names lead to is sound.** -/
theorem find? {names : List String} {c : Column} (h : f.find? names = some c) : c.Sound rule := by
  induction names generalizing f with
  | nil =>
    obtain rfl := Option.some.inj h
    exact (Column.sound_group_iff _ _).mpr hf
  | cons name rest ih =>
    obtain ⟨d, hd, hdescend⟩ := Option.bind_eq_some_iff.mp h
    have hsound : d.Sound rule := hf.column hd
    rcases hg : d.group? with _ | g
    · cases rest with
      | nil =>
        rw [Column.descend?_nil] at hdescend
        exact Option.some.inj hdescend ▸ hsound
      | cons next rest =>
        rw [Column.descend?_cons_of_group?_eq_none hg] at hdescend
        exact absurd hdescend (by simp)
    · have hg' : g.Sound rule := hsound.frame hg
      cases rest with
      | nil =>
        rw [Column.descend?_nil] at hdescend
        exact Option.some.inj hdescend ▸ hsound
      | cons next rest =>
        rw [Column.group?_eq_some_iff.mp hg] at hdescend
        exact ih hg' hdescend

end Sound

end Frame

/-! ### Rows and cells -/

theorem Frame.columns_slice (i : Nat) (f : Frame) :
    (f.slice i).columns = f.columns.map (Column.slice i) := by
  obtain ⟨columns, rowCount⟩ := f
  rw [Frame.slice, Column.sliceAll_eq_map]

@[simp] theorem Frame.rowCount_slice (i : Nat) (f : Frame) : (f.slice i).rowCount = 1 := by
  obtain ⟨columns, rowCount⟩ := f
  rw [Frame.slice]

@[simp] theorem Column.name_slice (i : Nat) (c : Column) : (c.slice i).name = c.name := by
  cases c <;> rw [Column.slice] <;> rfl

@[simp] theorem Column.length_slice (i : Nat) (c : Column) : (c.slice i).length = 1 := by
  cases c with
  | value _ _ _ _ => rw [Column.slice]; rfl
  | group _ f => rw [Column.slice]; exact Frame.rowCount_slice i f
  | frames _ _ => rw [Column.slice]; rfl

/-- The row of a frame is sound if its columns are in that row. -/
theorem Frame.sound_slice_of_columns {f : Frame} (hf : f.Sound rule) {i : Nat}
    (h : ∀ c ∈ f.columns, (c.slice i).Sound rule) : (f.slice i).Sound rule := by
  refine Frame.sound_iff.mpr ⟨?_, fun c hc => ?_, fun c hc => ?_⟩
  · have hnames : (f.slice i).names = f.names := by
      rw [Frame.names, Frame.columns_slice, List.map_map]
      exact List.map_congr_left fun c _ => Column.name_slice i c
    exact hnames ▸ hf.nodup_names
  · rw [Frame.columns_slice] at hc
    obtain ⟨d, -, rfl⟩ := List.mem_map.mp hc
    rw [Column.length_slice, Frame.rowCount_slice]
  · rw [Frame.columns_slice] at hc
    obtain ⟨d, hd, rfl⟩ := List.mem_map.mp hc
    exact h d hd

/-- **A cell of a sound column, as a column, is sound.** -/
theorem Column.Sound.slice {c : Column} (hc : c.Sound rule) {i : Nat} (hi : i < c.length) :
    (c.slice i).Sound rule := by
  induction c using groupInduction with
  | leaf c hleaf =>
    cases c with
    | group name f => exact absurd hleaf (by simp [group?])
    | value name type nullable cells =>
      obtain ⟨hnull, hfit⟩ := sound_value_iff.mp hc
      have hcell : cells[i]?.join ∈ cells := by
        have hget : cells[i]? = some cells[i] := List.getElem?_eq_getElem hi
        rw [hget]
        exact List.getElem_mem hi
      rw [Column.slice]
      refine sound_value_iff.mpr ⟨fun hnone => ?_, fun v hv => ?_⟩
      · exact hnull (List.mem_singleton.mp hnone ▸ hcell)
      · exact hfit v (List.mem_singleton.mp hv ▸ hcell)
    | frames name fs =>
      rw [Column.slice]
      refine (sound_frames_iff _ _).mpr (List.forall_mem_singleton.mpr ?_)
      rw [List.getD_eq_getElem?_getD, List.getElem?_eq_getElem hi, Option.getD_some]
      exact (sound_frames_iff _ _).mp hc _ (List.getElem_mem hi)
  | group name f ih =>
    rw [Column.slice]
    have hf : f.Sound rule := (sound_group_iff _ _).mp hc
    refine (sound_group_iff _ _).mpr (Frame.sound_slice_of_columns hf fun d hd => ?_)
    exact ih d hd (hf.of_mem hd) (hf.length_of_mem hd ▸ hi)

/-- **A row of a sound frame is sound.** -/
theorem Frame.Sound.slice {f : Frame} (hf : f.Sound rule) {i : Nat} (hi : i < f.rowCount) :
    (f.slice i).Sound rule :=
  Frame.sound_slice_of_columns hf fun _ hc => (hf.of_mem hc).slice (hf.length_of_mem hc ▸ hi)

/-- **The cells of a sound column fit its type.** -/
theorem Column.Sound.cellsFit {c : Column} (hc : c.Sound rule) : CellsFit rule c.type c.cells := by
  intro v hv
  cases c with
  | value name type nullable cells => exact (sound_value_iff.mp hc).2 v hv
  | group name f =>
    obtain ⟨i, hi, hrow⟩ := List.mem_map.mp hv
    obtain rfl := Option.some.inj hrow
    have hf : f.Sound rule := (sound_group_iff _ _).mp hc
    refine ⟨?_, fun _ => rfl⟩
    rw [Value.Sound]
    exact ⟨hf.slice (List.mem_range.mp hi), fun _ => Frame.rowCount_slice i f⟩
  | frames name fs =>
    obtain ⟨f, hf, hframe⟩ := List.mem_map.mp hv
    obtain rfl := Option.some.inj hframe
    refine ⟨?_, fun _ => rfl⟩
    rw [Value.Sound]
    exact (sound_frames_iff _ _).mp hc f hf

end Colonnade
