import Colonnade.Frame.Lookup
import Mathlib.Data.List.Nodup

/-!
# Following names into a frame

A list of names leads from a column to a column inside it: `Column.descend?`. A frame is looked
at as the column group around it, so the empty list leads to the frame itself and a list of
names to what `Frame.get` finds at that path.

* `Frame.find?` – the column that names lead to in a frame, `Frame.groupAt?` the frame in it if
  it is a group;
* `Column.groupInduction` – what holds of a group if it holds of the columns in it;
* `Frame.get_eq_ok_iff` – looking up a path is following its names;
* `Frame.columns_eq_of_names_eq` – where names differ, the names in their order and the column of
  each name say what the columns are.
-/

namespace Colonnade

/-! ### Following names -/

/-- **Induction over columns**: a group is settled once its columns are. -/
theorem Column.groupInduction {motive : Column → Prop}
    (leaf : ∀ c, c.group? = none → motive c)
    (group : ∀ name f, (∀ c ∈ f.columns, motive c) → motive (.group name f)) : ∀ c, motive c
  | .value name type nullable cells => leaf (.value name type nullable cells) rfl
  | .frames name fs => leaf (.frames name fs) rfl
  | .group name ⟨columns, rowCount⟩ => group name ⟨columns, rowCount⟩ fun c hc =>
      have hlt : sizeOf c < sizeOf (Column.group name ⟨columns, rowCount⟩) := by
        have hmem : sizeOf c < sizeOf columns := List.sizeOf_lt_of_mem hc
        simp only [Column.group.sizeOf_spec, Frame.mk.sizeOf_spec]
        omega
      groupInduction leaf group c
  termination_by c => sizeOf c
  decreasing_by exact hlt

/-- **The column that names lead to** from a column, each one naming a column of the group that
the names before it lead to. -/
def Column.descend? : Column → List String → Option Column
  | c, [] => some c
  | .group _ f, name :: rest => (f.column? name).bind fun c => c.descend? rest
  | _, _ :: _ => none

/-- The column that names lead to from a frame; no names lead to the frame as a group. -/
def Frame.find? (f : Frame) (names : List String) : Option Column :=
  (Column.group "" f).descend? names

/-- The frame of the group that names lead to from a frame. -/
def Frame.groupAt? (f : Frame) (names : List String) : Option Frame :=
  (f.find? names).bind Column.group?

namespace Column

@[simp] theorem descend?_nil (c : Column) : c.descend? [] = some c := by
  cases c <;> rfl

@[simp] theorem descend?_group_cons (label name : String) (f : Frame) (rest : List String) :
    (Column.group label f).descend? (name :: rest) =
      (f.column? name).bind fun c => c.descend? rest := rfl

/-- Below a column that is no group there is nothing. -/
theorem descend?_cons_of_group?_eq_none {c : Column} (h : c.group? = none) (name : String)
    (rest : List String) : c.descend? (name :: rest) = none := by
  cases c with
  | group label f => exact absurd h (by simp [Column.group?])
  | value _ _ _ _ => rfl
  | frames _ _ => rfl

/-- The own name of a column plays no role below it. -/
@[simp] theorem descend?_rename_cons (c : Column) (new name : String) (rest : List String) :
    (c.rename new).descend? (name :: rest) = c.descend? (name :: rest) := by
  cases c <;> rfl

@[simp] theorem group?_rename (c : Column) (new : String) : (c.rename new).group? = c.group? := by
  cases c <;> rfl

theorem group?_eq_some_iff {c : Column} {f : Frame} :
    c.group? = some f ↔ c = .group c.name f := by
  cases c <;> simp [Column.group?, Column.name]

/-- Following names one after the other. -/
theorem descend?_append (c : Column) (p q : List String) :
    c.descend? (p ++ q) = (c.descend? p).bind fun d => d.descend? q := by
  induction p generalizing c with
  | nil => simp
  | cons name p ih =>
    cases c with
    | group label f =>
      simp only [List.cons_append, descend?_group_cons, Option.bind_assoc]
      exact congrArg _ (funext fun d => ih d)
    | value _ _ _ _ => rfl
    | frames _ _ => rfl

end Column

namespace Frame

@[simp] theorem find?_nil (f : Frame) : f.find? [] = some (.group "" f) := rfl

@[simp] theorem find?_cons (f : Frame) (name : String) (rest : List String) :
    f.find? (name :: rest) = (f.column? name).bind fun c => c.descend? rest := rfl

@[simp] theorem groupAt?_nil (f : Frame) : f.groupAt? [] = some f := rfl

/-- The names lead from a frame into one of its groups and on from there. -/
theorem groupAt?_cons (f : Frame) (name : String) (rest : List String) :
    f.groupAt? (name :: rest) =
      ((f.column? name).bind Column.group?).bind fun inner => inner.groupAt? rest := by
  unfold groupAt?
  rw [find?_cons]
  cases f.column? name with
  | none => rfl
  | some c =>
    cases rest with
    | nil => cases c <;> rfl
    | cons next rest => cases c <;> rfl

theorem groupAt?_cons_eq_some_iff {f g : Frame} {name : String} {rest : List String} :
    f.groupAt? (name :: rest) = some g ↔
      ∃ c inner, f.column? name = some c ∧ c.group? = some inner ∧ inner.groupAt? rest = some g := by
  simp only [groupAt?_cons, Option.bind_eq_some_iff]
  constructor
  · rintro ⟨inner, ⟨c, hc, hgroup⟩, hrest⟩
    exact ⟨c, inner, hc, hgroup, hrest⟩
  · rintro ⟨c, inner, hc, hgroup, hrest⟩
    exact ⟨inner, ⟨c, hc, hgroup⟩, hrest⟩

/-- **Looking up a path is following its names.** -/
theorem getFrom_eq_ok_iff {f : Frame} {path : Path} {depth : Nat} {names : List String}
    {c : Column} (h : names ≠ []) :
    getFrom path depth f names = .ok c ↔ f.find? names = some c := by
  induction names generalizing f depth with
  | nil => exact absurd rfl h
  | cons name rest ih =>
    cases rest with
    | nil => cases hc : f.column? name <;> simp [getFrom, hc]
    | cons next rest =>
      rcases hc : f.column? name with _ | (_ | ⟨label, inner⟩ | _)
      · simp [getFrom, hc]
      · simp [getFrom, hc, Column.descend?]
      · simp only [getFrom, hc, find?_cons, Option.bind_some]
        exact ih (List.cons_ne_nil _ _)
      · simp [getFrom, hc, Column.descend?]

theorem get_eq_ok_iff {f : Frame} {path : Path} {c : Column} :
    f.get path = .ok c ↔ f.find? path.segments = some c :=
  getFrom_eq_ok_iff path.nonempty

/-! ### One name more -/

/-- One name more leads to a column of a group, -/
theorem find?_concat {f inner : Frame} {above : List String} (h : f.groupAt? above = some inner)
    (x : String) : f.find? (above ++ [x]) = inner.column? x := by
  obtain ⟨c, hc, hgroup⟩ := Option.bind_eq_some_iff.mp h
  rw [find?, Column.descend?_append, ← find?, hc, Option.bind_some,
    Column.group?_eq_some_iff.mp hgroup, Column.descend?_group_cons]
  cases inner.column? x <;> simp

/-- and if it leads to a column there is a group. -/
theorem exists_groupAt?_of_concat {f : Frame} {above : List String} {x : String} {c : Column}
    (h : f.find? (above ++ [x]) = some c) : ∃ inner, f.groupAt? above = some inner := by
  rw [find?, Column.descend?_append, ← find?] at h
  obtain ⟨d, hd, hx⟩ := Option.bind_eq_some_iff.mp h
  rcases hg : d.group? with _ | inner
  · rw [Column.descend?_cons_of_group?_eq_none hg] at hx
    exact absurd hx (by simp)
  · exact ⟨inner, by rw [groupAt?, hd, Option.bind_some, hg]⟩

/-! ### Columns by their names -/

theorem column?_eq_none_iff {f : Frame} {name : String} :
    f.column? name = none ↔ name ∉ f.names := by
  simp [column?, names]

theorem name_of_column?_eq_some {f : Frame} {name : String} {c : Column}
    (h : f.column? name = some c) : c.name = name := by
  simpa using List.find?_some h

theorem mem_of_column?_eq_some {f : Frame} {name : String} {c : Column}
    (h : f.column? name = some c) : c ∈ f.columns :=
  List.mem_of_find?_eq_some h

/-- A column has the last of the names that lead to it. -/
theorem name_of_get_eq_ok {f : Frame} {path : Path} {c : Column} (h : f.get path = .ok c) :
    c.name = path.last := by
  have hfind : f.find? (path.segments.dropLast ++ [path.last]) = some c := by
    rw [Path.last, List.dropLast_concat_getLast]
    exact get_eq_ok_iff.mp h
  obtain ⟨inner, hinner⟩ := exists_groupAt?_of_concat hfind
  exact name_of_column?_eq_some ((find?_concat hinner _).symm.trans hfind)

/-- Where names differ, a column is the one of its name. -/
theorem column?_name {f : Frame} (hf : f.names.Nodup) {c : Column} (h : c ∈ f.columns) :
    f.column? c.name = some c := by
  obtain ⟨d, hd⟩ : ∃ d, f.column? c.name = some d :=
    Option.ne_none_iff_exists'.mp fun hnone =>
      column?_eq_none_iff.mp hnone (List.mem_map_of_mem h)
  have hdc : d.name = c.name := name_of_column?_eq_some hd
  rw [hd, List.inj_on_of_nodup_map hf (mem_of_column?_eq_some hd) h hdc]

theorem column?_eq_some_iff {f : Frame} (hf : f.names.Nodup) {name : String} {c : Column} :
    f.column? name = some c ↔ c ∈ f.columns ∧ c.name = name := by
  constructor
  · exact fun h => ⟨mem_of_column?_eq_some h, name_of_column?_eq_some h⟩
  · rintro ⟨hmem, rfl⟩
    exact column?_name hf hmem

/-- A column stands between others, -/
theorem exists_columns_around {f : Frame} {c : Column} (h : c ∈ f.columns) :
    ∃ before after, f.columns = before ++ [c] ++ after := by
  obtain ⟨before, after, hcolumns⟩ := List.append_of_mem h
  exact ⟨before, after, by simp [hcolumns]⟩

/-- and where names differ they have other names. -/
theorem name_ne_of_columns_around {f : Frame} (hf : f.names.Nodup) {before after : List Column}
    {c d : Column} (h : f.columns = before ++ [c] ++ after) (hd : d ∈ before ++ after) :
    d.name ≠ c.name := by
  intro hname
  rw [names, h, List.append_assoc, List.singleton_append,
    (List.perm_middle.map Column.name).nodup_iff] at hf
  exact (List.nodup_cons.mp hf).1 (List.mem_map.mpr ⟨d, hd, hname⟩)

/-- **Names in order, and the column of each name, are all there is to columns** with different
names. -/
theorem columns_eq_of_names_eq {f g : Frame} (hf : f.names.Nodup) (hnames : f.names = g.names)
    (h : ∀ name ∈ f.names, f.column? name = g.column? name) : f.columns = g.columns := by
  have hg : g.names.Nodup := hnames ▸ hf
  have hlookup (k : Frame) (hk : k.names.Nodup) : k.columns = k.names.filterMap k.column? := by
    rw [names, List.filterMap_map]
    exact ((List.filterMap_congr fun c hc => column?_name hk hc).trans List.filterMap_some).symm
  rw [hlookup f hf, hlookup g hg, ← hnames]
  exact List.filterMap_congr h

end Frame

/-! ### Well-formed frames -/

theorem columnsWellFormed_iff {cs : List Column} :
    columnsWellFormed cs ↔ ∀ c ∈ cs, c.WellFormed := by
  induction cs with
  | nil => simp [columnsWellFormed]
  | cons c cs ih => simp [columnsWellFormed, ih]

theorem Frame.wellFormed_iff {f : Frame} :
    f.WellFormed ↔ f.names.Nodup ∧ (∀ c ∈ f.columns, c.length = f.rowCount) ∧
      ∀ c ∈ f.columns, c.WellFormed := by
  obtain ⟨columns, rowCount⟩ := f
  simp [Frame.WellFormed, Frame.names, columnsWellFormed_iff]

@[simp] theorem Frame.wellFormed_empty : Frame.empty.WellFormed := by
  simp [Frame.wellFormed_iff, Frame.empty, Frame.names]

@[simp] theorem Column.wellFormed_group (name : String) (f : Frame) :
    (Column.group name f).WellFormed ↔ f.WellFormed := by
  simp [Column.WellFormed]

@[simp] theorem Column.wellFormed_rename (c : Column) (new : String) :
    (c.rename new).WellFormed ↔ c.WellFormed := by
  cases c <;> simp [Column.rename, Column.WellFormed]

/-- The frame of a well-formed group is well-formed. -/
theorem Column.WellFormed.frame {c : Column} {f : Frame} (hc : c.WellFormed)
    (hf : c.group? = some f) : f.WellFormed := by
  rwa [Column.group?_eq_some_iff.mp hf, Column.wellFormed_group] at hc

/-- **What the check of a level lets pass.** -/
theorem Frame.withRowCount_eq_ok_iff {columns : List Column} {n : Nat} {f : Frame} :
    withRowCount columns n = .ok f ↔
      f = ⟨columns, n⟩ ∧ (columns.map Column.name).Nodup ∧ ∀ c ∈ columns, c.length = n := by
  have hcheck : checkColumns n [] columns = .ok () ↔ _ := checkColumns_eq_ok_iff
  rw [withRowCount]
  cases h : checkColumns n [] columns with
  | error e =>
    rw [h] at hcheck
    simp only [Except.map, reduceCtorEq, false_iff, List.not_mem_nil, not_false_eq_true,
      implies_true, true_and] at hcheck ⊢
    exact fun hc => hcheck hc.2
  | ok u =>
    rw [h] at hcheck
    simp only [Except.map, Except.ok.injEq, List.not_mem_nil, not_false_eq_true,
      implies_true, true_and, true_iff] at hcheck ⊢
    exact ⟨fun hf => ⟨hf.symm, hcheck⟩, fun hf => hf.1.symm⟩

namespace Frame.WellFormed

variable {f : Frame} (hf : f.WellFormed)

include hf

theorem nodup_names : f.names.Nodup :=
  (wellFormed_iff.mp hf).1

theorem of_mem {c : Column} (h : c ∈ f.columns) : c.WellFormed :=
  (wellFormed_iff.mp hf).2.2 c h

theorem column {name : String} {c : Column} (h : f.column? name = some c) : c.WellFormed :=
  hf.of_mem (mem_of_column?_eq_some h)

theorem length_column {name : String} {c : Column} (h : f.column? name = some c) :
    c.length = f.rowCount :=
  (wellFormed_iff.mp hf).2.1 c (mem_of_column?_eq_some h)

/-- **Every group in a well-formed frame is a well-formed frame.** -/
theorem groupAt {names : List String} {g : Frame} (h : f.groupAt? names = some g) :
    g.WellFormed := by
  induction names generalizing f with
  | nil =>
    rw [groupAt?_nil, Option.some.injEq] at h
    exact h ▸ hf
  | cons name rest ih =>
    obtain ⟨c, inner, hc, hg, h⟩ := groupAt?_cons_eq_some_iff.mp h
    exact ih ((hf.column hc).frame hg) h

end Frame.WellFormed

end Colonnade
