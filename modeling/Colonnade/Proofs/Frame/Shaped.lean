import Colonnade.Proofs.Soundness.Basic

/-!
# The shape of a frame

A frame is *shaped* if names side by side differ and every column is as long as its frame, in it and
in the frames of its groups and frame columns. Nothing is asked of cells, and so it is less than being
well-formed (`Frame.WellFormed.shaped`). It is what every operation that does not look into cells
needs: what is at a name, how long it is, and that the same can be said further in.
-/

namespace Colonnade

mutual

/-- The frames in the column are shaped; its cells may hold anything. -/
def Column.Shaped : Column → Prop
  | .value _ _ _ _ => True
  | .group _ f => f.Shaped
  | .frames _ fs => framesShaped fs

/-- **A frame of a shape**: names side by side differ and every column is as long as the frame, here
and in the frames of groups and frame columns. -/
def Frame.Shaped : Frame → Prop
  | ⟨columns, rowCount⟩ =>
    (columns.map Column.name).Nodup ∧ (∀ c ∈ columns, c.length = rowCount) ∧ columnsShaped columns

/-- Every frame of the list is shaped. -/
def framesShaped : List Frame → Prop
  | [] => True
  | f :: fs => f.Shaped ∧ framesShaped fs

/-- Every frame in the columns is shaped. -/
def columnsShaped : List Column → Prop
  | [] => True
  | c :: cs => c.Shaped ∧ columnsShaped cs

end

mutual

/-- A well-formed frame is shaped. -/
theorem Frame.WellFormed.shaped : ∀ {f : Frame}, f.WellFormed → f.Shaped
  | ⟨_, _⟩, h => by
    rw [Frame.WellFormed] at h
    rw [Frame.Shaped]
    exact ⟨h.1, h.2.1, columnsShaped_of_wellFormed h.2.2⟩

theorem Column.WellFormed.shaped : ∀ {c : Column}, c.WellFormed → c.Shaped
  | .value _ _ _ _, _ => by rw [Column.Shaped]; trivial
  | .group _ _, h => by
    rw [Column.WellFormed] at h
    rw [Column.Shaped]
    exact Frame.WellFormed.shaped h
  | .frames _ _, h => by
    rw [Column.WellFormed] at h
    rw [Column.Shaped]
    exact framesShaped_of_wellFormed h

theorem framesShaped_of_wellFormed : ∀ {fs : List Frame}, framesWellFormed fs → framesShaped fs
  | [], _ => by rw [framesShaped]; trivial
  | _ :: _, h => by
    rw [framesWellFormed] at h
    rw [framesShaped]
    exact ⟨Frame.WellFormed.shaped h.1, framesShaped_of_wellFormed h.2⟩

theorem columnsShaped_of_wellFormed :
    ∀ {cs : List Column}, columnsWellFormed cs → columnsShaped cs
  | [], _ => by rw [columnsShaped]; trivial
  | _ :: _, h => by
    rw [columnsWellFormed] at h
    rw [columnsShaped]
    exact ⟨Column.WellFormed.shaped h.1, columnsShaped_of_wellFormed h.2⟩

end

/-! ### Parts of a shaped frame -/

theorem columnsShaped_iff {cs : List Column} : columnsShaped cs ↔ ∀ c ∈ cs, c.Shaped := by
  induction cs with
  | nil => simp [columnsShaped]
  | cons c cs ih => simp [columnsShaped, ih]

theorem framesShaped_iff {fs : List Frame} : framesShaped fs ↔ ∀ f ∈ fs, f.Shaped := by
  induction fs with
  | nil => simp [framesShaped]
  | cons f fs ih => simp [framesShaped, ih]

theorem Frame.shaped_iff {f : Frame} :
    f.Shaped ↔ f.names.Nodup ∧ (∀ c ∈ f.columns, c.length = f.rowCount) ∧
      ∀ c ∈ f.columns, c.Shaped := by
  obtain ⟨columns, rowCount⟩ := f
  rw [Frame.Shaped, columnsShaped_iff]
  rfl

@[simp] theorem Frame.shaped_empty : Frame.empty.Shaped := by
  simp [Frame.shaped_iff, Frame.empty, Frame.names]

namespace Column

@[simp] theorem shaped_value (name : String) (type : ColumnType) (nullable : Bool)
    (cells : List (Option Value)) : (value name type nullable cells).Shaped := by
  rw [Shaped]
  trivial

@[simp] theorem shaped_group_iff (name : String) (f : Frame) :
    (group name f).Shaped ↔ f.Shaped := by
  rw [Shaped]

@[simp] theorem shaped_frames_iff (name : String) (fs : List Frame) :
    (frames name fs).Shaped ↔ ∀ f ∈ fs, f.Shaped := by
  rw [Shaped, framesShaped_iff]

@[simp] theorem shaped_rename_iff (c : Column) (new : String) :
    (c.rename new).Shaped ↔ c.Shaped := by
  cases c <;> simp [rename]

/-- The frame of a shaped group is shaped. -/
theorem Shaped.frame {c : Column} {f : Frame} (hc : c.Shaped) (hf : c.group? = some f) :
    f.Shaped := by
  rwa [group?_eq_some_iff.mp hf, shaped_group_iff] at hc

end Column

namespace Frame.Shaped

variable {f : Frame} (hf : f.Shaped)

include hf

theorem nodup_names : f.names.Nodup :=
  (shaped_iff.mp hf).1

theorem length_of_mem {c : Column} (h : c ∈ f.columns) : c.length = f.rowCount :=
  (shaped_iff.mp hf).2.1 c h

theorem of_mem {c : Column} (h : c ∈ f.columns) : c.Shaped :=
  (shaped_iff.mp hf).2.2 c h

theorem column {name : String} {c : Column} (h : f.column? name = some c) : c.Shaped :=
  hf.of_mem (mem_of_column?_eq_some h)

theorem length_column {name : String} {c : Column} (h : f.column? name = some c) :
    c.length = f.rowCount :=
  hf.length_of_mem (mem_of_column?_eq_some h)

end Frame.Shaped

end Colonnade
