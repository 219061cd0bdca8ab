import Colonnade.Proofs.Double.Nearest
import Colonnade.Proofs.Stack.Cells
import Colonnade.Proofs.Stack.Depth

/-!
# What a collector makes of its cells

A collector without a declared type takes any cells and makes a column of them,
`Collector.exists_finish_of_push`. The type of the column is what the types of the cells have in common,
whatever the order of the cells is and however many there are of a type:

| types of the cells | type of the column |
| --- | --- |
| none | `any` |
| one | that one |
| `int` and `long` | `long` |
| `double` and one or both of them | `double` |
| all other mixtures | `any` |

What the column holds is the relation `Column.Gathers` between it and the cells. For a column of values
it says that each cell is what was pushed, or the same number in a wider type (`Value.Widened`); for
frames that they are those that were pushed. A group has a row for every cell, and each of its columns
gathers in its turn the cells that the pushed rows have under its name (`Value.cellAt`), so that the
relation goes down to the leaves of the rows.

Inside pushed rows the types of columns are trusted: a column of values that all rows declare to be one
of rows becomes a group, and what it holds besides rows is lost (`Collector.loses_what_is_no_row`). The
theorem asks therefore that such cells are rows, and those of columns of frames frames,
`Value.AsDeclared`. Typed values are (`Value.Sound.asDeclared`).
-/

namespace Colonnade

variable {pushed stored cells : List (Option Value)} {name : String} {type : ColumnType}

/-! ### What types have in common -/

/-- The types of the cells that are not null. -/
def typesOf (cells : List (Option Value)) : Set ColumnType :=
  {type | ∃ v, some v ∈ cells ∧ v.type = type}

/-- **What a set of types has in common.** -/
inductive ColumnType.Common (types : Set ColumnType) : ColumnType → Prop
  | none (h : types = ∅) : Common types .any
  | one {type : ColumnType} (h : types = {type}) : Common types type
  | long (hmore : types.Nontrivial) (h : types ⊆ {.int, .long}) : Common types .long
  | double (hmore : types.Nontrivial) (hdouble : .double ∈ types)
      (h : types ⊆ {.int, .long, .double}) : Common types .double
  | any (hmore : types.Nontrivial) (h : ¬ types ⊆ {.int, .long, .double}) : Common types .any

namespace ColumnType.Common

variable {types : Set ColumnType} {other : ColumnType}

theorem eq_any_of_empty (h : Common ∅ type) : type = .any := by
  cases h with
  | none => rfl
  | one h => exact absurd h.symm (Set.singleton_ne_empty type)
  | long hmore => exact absurd rfl hmore.ne_empty
  | double hmore => exact absurd rfl hmore.ne_empty
  | any => rfl

theorem eq_of_singleton (h : Common {other} type) : type = other := by
  cases h with
  | none h => exact absurd h (Set.singleton_ne_empty other)
  | one h => exact (Set.singleton_injective h).symm
  | long hmore => exact absurd rfl hmore.ne_singleton
  | double hmore => exact absurd rfl hmore.ne_singleton
  | any hmore => exact absurd rfl hmore.ne_singleton

theorem eq_long (h : Common types type) (hmore : types.Nontrivial) (hwhole : types ⊆ {.int, .long}) :
    type = .long := by
  cases h with
  | none h => exact absurd h hmore.ne_empty
  | one h => exact absurd h hmore.ne_singleton
  | long => rfl
  | double _ hdouble => exact absurd (hwhole hdouble) (by simp)
  | any _ h => exact absurd (hwhole.trans (by simp [Set.insert_subset_iff])) h

theorem eq_double (h : Common types type) (hmore : types.Nontrivial) (hdouble : .double ∈ types)
    (hnumbers : types ⊆ {.int, .long, .double}) : type = .double := by
  cases h with
  | none h => exact absurd h hmore.ne_empty
  | one h => exact absurd h hmore.ne_singleton
  | long _ h => exact absurd (h hdouble) (by simp)
  | double => rfl
  | any _ h => exact absurd hnumbers h

theorem eq_any (h : Common types type) (hmore : types.Nontrivial)
    (hother : ¬ types ⊆ {.int, .long, .double}) : type = .any := by
  cases h with
  | none => rfl
  | one h => exact absurd h hmore.ne_singleton
  | long _ h => exact absurd (h.trans (by simp [Set.insert_subset_iff])) hother
  | double _ _ h => exact absurd h hother
  | any => rfl

/-- **Types have one type in common.** -/
theorem unique (h : Common types type) (h' : Common types other) : type = other := by
  cases h with
  | none h => exact (h ▸ h').eq_any_of_empty.symm
  | one h => exact (h ▸ h').eq_of_singleton.symm
  | long hmore h => exact (h'.eq_long hmore h).symm
  | double hmore hdouble h => exact (h'.eq_double hmore hdouble h).symm
  | any hmore h => exact (h'.eq_any hmore h).symm

/-- **A nested type is common to types only if there is no other.** -/
theorem eq_singleton (h : Common types type) (hany : type ≠ .any) (hlong : type ≠ .long)
    (hdouble : type ≠ .double) : types = {type} := by
  cases h with
  | none => exact absurd rfl hany
  | one h => exact h
  | long => exact absurd rfl hlong
  | double => exact absurd rfl hdouble
  | any => exact absurd rfl hany

end ColumnType.Common

/-- **The type that is computed is the one in common.** -/
theorem ColumnType.common_spec (types : List ColumnType) :
    Common {type | type ∈ types} (common types) := by
  cases types with
  | nil => exact .none (by simp)
  | cons first rest =>
    rw [common]
    by_cases hone : rest.all (· == first)
    · rw [if_pos hone]
      refine .one (Set.eq_singleton_iff_unique_mem.mpr ⟨List.mem_cons_self, fun type htype => ?_⟩)
      rcases List.mem_cons.mp htype with rfl | hmem
      · rfl
      · simpa using List.all_eq_true.mp hone type hmem
    · rw [if_neg hone]
      obtain ⟨other, hother, hne⟩ : ∃ other ∈ rest, other ≠ first := by simpa using hone
      have hmore : {type | type ∈ first :: rest}.Nontrivial :=
        ⟨other, List.mem_cons_of_mem first hother, first, List.mem_cons_self, hne⟩
      have hall (p : ColumnType → Bool) :
          (first :: rest).all p ↔ {type | type ∈ first :: rest} ⊆ {type | p type} :=
        List.all_eq_true
      split_ifs with hlong hdouble
      · refine .long hmore fun type htype => ?_
        simpa using (hall _).mp hlong htype
      · refine .double hmore ?_ fun type htype => ?_
        · -- else all of them were whole numbers
          by_contra hno
          refine hlong ((hall _).mpr fun type htype => ?_)
          have hnumber : (type == .int || type == .long || type == .double) = true :=
            (hall _).mp hdouble htype
          have hne : type ≠ .double := fun heq => hno (heq ▸ htype)
          simpa [hne] using hnumber
        · simpa [or_assoc] using (hall _).mp hdouble htype
      · refine .any hmore fun hsub => hdouble ((hall _).mpr fun type htype => ?_)
        simpa [or_assoc] using hsub htype

theorem commonType_spec (cells : List (Option Value)) :
    ColumnType.Common (typesOf cells) (commonType cells) := by
  have htypes : typesOf cells = {type | type ∈ (cells.filterMap id).map Value.type} := by
    ext type
    simp [typesOf]
  exact htypes ▸ ColumnType.common_spec _

/-- **All values are of a nested type** if it is the common one. -/
theorem type_of_commonType (h : commonType cells = type) (hnested : type = .row ∨ type = .frame)
    {v : Value} (hv : some v ∈ cells) : v.type = type := by
  have hsingle : typesOf cells = {type} := by
    refine (h ▸ commonType_spec cells).eq_singleton ?_ ?_ ?_ <;>
      rcases hnested with rfl | rfl <;> simp
  have hmem : v.type ∈ typesOf cells := ⟨v, hv, rfl⟩
  rwa [hsingle] at hmem

/-! ### Values in wider columns -/

/-- **A value as a column holds it**: itself, or the same number in a wider type, as exactly as that
can be. -/
inductive Value.Widened : Value → Value → Prop
  | same (v : Value) : Widened v v
  | long {n : Int32} {m : Int64} (h : m.toInt = n.toInt) :
      Widened (.scalar (.int n)) (.scalar (.long m))
  | ofInt {n : Int32} {x : Double} (h : Double.Nearest n.toInt x) :
      Widened (.scalar (.int n)) (.scalar (.double x))
  | ofLong {n : Int64} {x : Double} (h : Double.Nearest n.toInt x) :
      Widened (.scalar (.long n)) (.scalar (.double x))

theorem Value.widened_widen (v : Value) (type : ColumnType) : Widened v (v.widen type) := by
  unfold widen
  split
  · exact .long (by simp)
  · exact .ofInt (Double.nearest_ofInt _)
  · exact .ofLong (Double.nearest_ofInt _)
  · exact .same v

/-- Cells that are what was pushed, nulls being nulls. -/
abbrev HoldWidened (pushed stored : List (Option Value)) : Prop :=
  List.Forall₂ (Option.Rel Value.Widened) pushed stored

theorem holdWidened_refl (cells : List (Option Value)) : HoldWidened cells cells := by
  refine List.forall₂_same.mpr fun cell _ => ?_
  cases cell with
  | none => exact .none
  | some v => exact .some (.same v)

theorem holdWidened_widen (cells : List (Option Value)) (type : ColumnType) :
    HoldWidened cells (cells.map (Option.map (Value.widen type))) := by
  refine List.forall₂_map_right_iff.mpr (List.forall₂_same.mpr fun cell _ => ?_)
  cases cell with
  | none => exact .none
  | some v => exact .some (v.widened_widen type)

/-- **What does not see numbers does not see that they are wider.** -/
theorem HoldWidened.map_eq {α : Type} {f : Option Value → α} (h : HoldWidened pushed stored)
    (hf : ∀ s t : Scalar, f (some (.scalar s)) = f (some (.scalar t))) :
    pushed.map f = stored.map f := by
  induction h with
  | nil => rfl
  | cons hcell _ ih =>
    rw [List.map_cons, List.map_cons, ih]
    congr 1
    cases hcell with
    | none => rfl
    | some hwide => cases hwide <;> first | rfl | exact hf _ _

/-! ### Rows and their cells -/

/-- **The cell of a row** under a name; a row that has no such column, a null and any other value have
a null there. -/
def Value.cellAt (name : String) : Option Value → Option Value
  | some (.row f) => (f.column? name).bind fun c => c.cell 0
  | _ => none

/-- The cell of a row is one of a column of the row. -/
theorem Value.exists_of_mem_map_cellAt {v : Value} (h : some v ∈ pushed.map (cellAt name)) :
    ∃ f c, some (.row f) ∈ pushed ∧ f.column? name = some c ∧ some v ∈ c.cells := by
  obtain ⟨cell, hcell, hv⟩ := List.mem_map.mp h
  unfold cellAt at hv
  split at hv
  next f =>
    obtain ⟨c, hc, hget⟩ := Option.bind_eq_some_iff.mp hv
    rw [Column.cell_eq_join_getElem?] at hget
    exact ⟨f, c, hcell, hc, List.mem_of_getElem? (Option.join_eq_some_iff.mp hget)⟩
  next => exact absurd hv (by simp)

namespace Piece

/-- **A cell, as a piece, has one cell in each column.** -/
theorem cells_ofCell {cell : Option Value} (h : ∀ v ∈ cell, v.WellFormed) (name : String) :
    (ofCell cell).cells name = [Value.cellAt name cell] := by
  rcases cell with _ | (s | f | f)
  · rfl
  · rfl
  · have hlength : ((ofFrame f).cells name).length = 1 :=
      ((wellFormed_ofCell h).length_cells name).trans (rows_ofCell h)
    obtain ⟨first, hfirst⟩ := List.length_eq_one_iff.mp hlength
    rw [ofCell, hfirst, Value.cellAt]
    congr 1
    cases hc : f.column? name with
    | none =>
      have hnone : (ofFrame f).column? name = none := hc
      rw [cells_of_column?_eq_none hnone] at hfirst
      exact List.eq_of_mem_replicate (hfirst ▸ List.mem_singleton_self first)
    | some c =>
      have hsome : (ofFrame f).column? name = some c := hc
      rw [cells_of_column? hsome] at hfirst
      rw [Option.bind_some, Column.cell_eq_join_getElem?, hfirst, List.getElem?_cons_zero,
        Option.join_some]
  · rfl

theorem flatMap_cells_ofCell (h : ∀ v, some v ∈ pushed → v.WellFormed) (name : String) :
    (pushed.map ofCell).flatMap (fun p => p.cells name) = pushed.map (Value.cellAt name) := by
  induction pushed with
  | nil => rfl
  | cons cell pushed ih =>
    rw [List.map_cons, List.flatMap_cons, ih fun v hv => h v (List.mem_cons_of_mem _ hv),
      cells_ofCell (fun v hv => h v (hv ▸ List.mem_cons_self)) name, List.map_cons,
      List.singleton_append]

/-- The columns of cells, as pieces, are those of the rows. -/
theorem column?_ofCell {cell : Option Value} {c : Column}
    (h : (ofCell cell).column? name = some c) :
    ∃ f, cell = some (.row f) ∧ f.column? name = some c := by
  rcases cell with _ | (s | f | f)
  · exact absurd h (by simp [ofCell, column?])
  · exact absurd h (by simp [ofCell, column?])
  · exact ⟨f, rfl, h⟩
  · exact absurd h (by simp [ofCell, column?])

/-- The names of stacked cells are those of the rows. -/
theorem mem_names_map_ofCell_iff :
    name ∈ names (pushed.map ofCell) ↔ ∃ f, some (.row f) ∈ pushed ∧ name ∈ f.names := by
  have hcolumn (f : Frame) : name ∈ f.names ↔ ∃ c, f.column? name = some c := by
    rw [← Option.ne_none_iff_exists', ne_eq, Frame.column?_eq_none_iff, not_not]
  rw [mem_names_iff]
  constructor
  · rintro ⟨p, hp, c, hc⟩
    obtain ⟨cell, hcell, rfl⟩ := List.mem_map.mp hp
    obtain ⟨f, rfl, hc⟩ := column?_ofCell hc
    exact ⟨f, hcell, (hcolumn f).mpr ⟨c, hc⟩⟩
  · rintro ⟨f, hf, hname⟩
    obtain ⟨c, hc⟩ := (hcolumn f).mp hname
    exact ⟨ofCell (some (.row f)), List.mem_map_of_mem hf, c, hc⟩

end Piece

/-! ### Declared types inside rows -/

/-- **In the rows of a value, at every depth, a column of rows holds rows and one of frames frames.** -/
inductive Value.AsDeclared : Value → Prop
  | scalar (s : Scalar) : AsDeclared (.scalar s)
  | frame (f : Frame) : AsDeclared (.frame f)
  | row {f : Frame}
      (htype : ∀ c ∈ f.columns, c.type = .row ∨ c.type = .frame →
        ∀ v, some v ∈ c.cells → v.type = c.type)
      (hcells : ∀ c ∈ f.columns, ∀ v, some v ∈ c.cells → AsDeclared v) : AsDeclared (.row f)

/-- **Typed values are as declared**, by induction on a bound for their depth. -/
theorem Value.Sound.asDeclared {rule : Rule} (hrow : rule.oneRow) (htyped : rule.typed) {v : Value}
    (h : v.Sound rule) : v.AsDeclared := by
  obtain ⟨depth, hdepth⟩ : ∃ depth, v.depth ≤ depth := ⟨_, Nat.le_refl _⟩
  induction depth generalizing v with
  | zero =>
    rcases v with s | f | f
    · exact .scalar s
    · obtain ⟨n, hn⟩ := f.exists_depth_eq_succ
      rw [Value.depth] at hdepth
      omega
    · exact .frame f
  | succ depth ih =>
    rcases v with s | f | f
    · exact .scalar s
    · rw [Value.depth] at hdepth
      rw [Value.Sound] at h
      have hcolumn {c : Column} (hc : c ∈ f.columns) : c.Sound rule :=
        (Frame.sound_iff.mp h.1).2.2 c hc
      refine .row (fun c hc hnested v hv => ?_) fun c hc v hv => ?_
      · have haccepts := ((hcolumn hc).cellsFit v hv).2 htyped
        rcases hnested with heq | heq <;> rw [heq] at haccepts ⊢ <;>
          exact beq_iff_eq.mp haccepts
      · refine ih ((hcolumn hc).cellsFit v hv).1 ?_
        exact Nat.le_trans (Column.depth_le_of_mem_cells ((hcolumn hc).wellFormed hrow) hv)
          (Frame.depth_le_succ_iff.mp hdepth c hc)
    · exact .frame f

/-- **What may be stacked within a depth.** -/
structure Value.Stackable (depth : Nat) (v : Value) : Prop where
  wellFormed : v.WellFormed
  asDeclared : v.AsDeclared
  depth_le : v.depth ≤ depth

/-- **The cells of rows may be stacked one level below.** -/
theorem Value.Stackable.cellAt {depth : Nat}
    (h : ∀ v, some v ∈ pushed → v.Stackable (depth + 1)) {v : Value}
    (hv : some v ∈ pushed.map (cellAt name)) : v.Stackable depth := by
  obtain ⟨f, c, hf, hc, hmem⟩ := exists_of_mem_map_cellAt hv
  obtain ⟨hwf, hdeclared, hdepth⟩ := h _ hf
  rw [Value.WellFormed] at hwf
  rw [Value.depth] at hdepth
  have hcolumn := Frame.mem_of_column?_eq_some hc
  have hcwf := hwf.1.column hc
  refine ⟨hcwf.of_mem_cells hmem, ?_, ?_⟩
  · cases hdeclared with
    | row _ hcells => exact hcells c hcolumn v hmem
  · exact Nat.le_trans (Column.depth_le_of_mem_cells hcwf hmem)
      (Frame.depth_le_succ_iff.mp hdepth c hcolumn)

/-! ### What a column gathers -/

/-- **The column is made of what was pushed**, a cell, a row or a frame for each. -/
inductive Column.Gathers : Column → List (Option Value) → Prop
  | values {name : String} {type : ColumnType} {pushed stored : List (Option Value)}
      (h : HoldWidened pushed stored) : Gathers (.ofValues name type stored) pushed
  | frames {name : String} {pushed : List (Option Value)}
      (hframe : ∀ v, some v ∈ pushed → v.type = .frame) :
      Gathers (.frames name (pushed.map Value.frameOf)) pushed
  | group {name : String} {g : Frame} {pushed : List (Option Value)}
      (hrow : ∀ v, some v ∈ pushed → v.type = .row)
      (hcount : g.rowCount = pushed.length)
      (hnodup : g.names.Nodup)
      (hnames : ∀ name, name ∈ g.names ↔ ∃ f, some (.row f) ∈ pushed ∧ name ∈ f.names)
      (hcolumns : ∀ c ∈ g.columns, Gathers c (pushed.map (Value.cellAt c.name))) :
      Gathers (.group name g) pushed

/-- Rows that may be stacked within a depth are gathered. -/
def StackRows.Gathers (depth : Nat) (inner : StackRows) : Prop :=
  ∀ pushed : List (Option Value), (∀ v, some v ∈ pushed → v.Stackable depth ∧ v.type = .row) →
    ∀ g, inner (pushed.map Piece.ofCell) = .ok g → ∀ name, (Column.group name g).Gathers pushed

section Shape

variable {inner : StackRows} {depth : Nat} {c : Column}

/-- **A column that is made of cells gathers them**, if they are nested as its type says. -/
theorem Column.gathers_of_shape (hinner : inner.Gathers depth) (hstored : HoldWidened pushed stored)
    (hpushed : ∀ v, some v ∈ pushed → v.Stackable depth)
    (htype : type = .row ∨ type = .frame → ∀ v, some v ∈ pushed → v.type = type)
    (h : shape inner name type stored = .ok c) : c.Gathers pushed := by
  unfold shape at h
  split at h
  · obtain ⟨g, hg, rfl⟩ := map_eq_ok_iff.mp h
    rw [← hstored.map_eq fun _ _ => rfl] at hg
    exact hinner pushed (fun v hv => ⟨hpushed v hv, htype (.inl rfl) v hv⟩) g hg name
  · obtain rfl := Except.ok.inj h
    rw [← hstored.map_eq fun _ _ => rfl]
    exact .frames (htype (.inr rfl))
  · obtain rfl := Except.ok.inj h
    exact .values hstored

theorem Column.gathers_of_infer (hinner : inner.Gathers depth)
    (hpushed : ∀ v, some v ∈ pushed → v.Stackable depth)
    (h : infer inner name pushed = .ok c) : c.Gathers pushed :=
  gathers_of_shape hinner (holdWidened_widen pushed _) hpushed
    (fun hnested _ hv => type_of_commonType rfl hnested hv) h

/-- **The column of a name gathers the cells that the rows have there.** Its type is one that the
rows declare, or is inferred. -/
theorem Piece.gathers_of_stackColumn (hinner : inner.Gathers depth)
    (hpushed : ∀ v, some v ∈ pushed → v.Stackable (depth + 1))
    (h : stackColumn inner (pushed.map ofCell) name = .ok c) :
    c.Gathers (pushed.map (Value.cellAt name)) := by
  unfold stackColumn at h
  rw [flatMap_cells_ofCell fun v hv => (hpushed v hv).wellFormed] at h
  split at h
  next type hshared =>
    -- the rows that have the column declare one type for it, and its cells are as declared
    refine Column.gathers_of_shape hinner (holdWidened_refl _)
      (fun v hv => Value.Stackable.cellAt hpushed hv) (fun hnested v hv => ?_) h
    obtain ⟨f, d, hf, hd, hmem⟩ := Value.exists_of_mem_map_cellAt hv
    obtain rfl : d.type = type := type_of_sharedType? hshared (List.mem_map_of_mem hf) hd
    have hdeclared := (hpushed _ hf).asDeclared
    cases hdeclared with
    | row htype _ => exact htype d (Frame.mem_of_column?_eq_some hd) hnested v hmem
  next =>
    -- nested types are inferred only from cells that are all nested, so nothing is asked of them
    exact Column.gathers_of_infer hinner (fun v hv => Value.Stackable.cellAt hpushed hv) h

/-- **One level** gathers rows if the level below does. -/
theorem Piece.gathers_stackLevel (hinner : inner.Gathers depth) :
    (stackLevel inner).Gathers (depth + 1) := by
  intro pushed hpushed g hg name
  have hstackable : ∀ v, some v ∈ pushed → v.Stackable (depth + 1) := fun v hv => (hpushed v hv).1
  obtain ⟨hnames, hrows, hcolumn⟩ := column?_of_stackLevel hg
  have hnodup : g.names.Nodup := hnames ▸ nodup_names _
  refine .group (fun v hv => (hpushed v hv).2) ?_ hnodup (fun name => ?_) fun c hc => ?_
  · exact hrows.trans (totalRows_map_ofCell fun v hv => (hstackable v hv).wellFormed)
  · rw [hnames, mem_names_map_ofCell_iff]
  · have hfound := (Frame.column?_eq_some_iff hnodup).mpr ⟨hc, rfl⟩
    exact gathers_of_stackColumn hinner hstackable ((hcolumn c.name c).mp hfound).2

/-- **Stacks gather rows**, by induction on the depth. Within no depth there are none. -/
theorem Piece.gathers_stack (depth : Nat) : (stack depth).Gathers depth := by
  induction depth with
  | zero =>
    intro pushed hpushed g hg name
    obtain rfl := Except.ok.inj hg
    -- a row has a frame, which is at least one level deep
    have hno : ∀ f, some (.row f) ∉ pushed := by
      intro f hf
      have hle := (hpushed _ hf).1.depth_le
      obtain ⟨n, hn⟩ := f.exists_depth_eq_succ
      rw [Value.depth] at hle
      omega
    refine .group (fun v hv => (hpushed v hv).2) ?_ List.nodup_nil (fun name => ?_) (by simp)
    · exact totalRows_map_ofCell fun v hv => (hpushed v hv).1.wellFormed
    · constructor
      · exact fun hmem => absurd hmem List.not_mem_nil
      · rintro ⟨f, hf, -⟩
        exact absurd hf (hno f)
  | succ depth ih => exact gathers_stackLevel ih

end Shape

/-! ### Collectors -/

/-- **The kind of an inferred column** is the one that its type asks for. -/
theorem Column.forms_of_infer {inner : StackRows} {c : Column}
    (h : infer inner name cells = .ok c) :
    (c.type = .row → ∃ g, c = .group name g) ∧
      (c.type = .frame → c = .frames name (cells.map Value.frameOf)) ∧
        (c.type ≠ .row → c.type ≠ .frame → c = .value name c.type (cells.any Option.isNone)
          (cells.map (Option.map (Value.widen c.type)))) := by
  have htype : c.type = commonType cells := type_of_shape h
  rw [infer, ← htype] at h
  refine ⟨fun hrow => ?_, fun hframe => ?_, fun hrow hframe => ?_⟩
  · rw [hrow] at h
    obtain ⟨g, -, rfl⟩ := map_eq_ok_iff.mp h
    exact ⟨g, rfl⟩
  · rw [hframe] at h
    rw [(holdWidened_widen cells .frame).map_eq fun _ _ => rfl]
    exact (Except.ok.inj h).symm
  · rw [shape_eq_ofValues hrow hframe] at h
    have hnulls : (cells.map (Option.map (Value.widen c.type))).any Option.isNone =
        cells.any Option.isNone := by
      rw [List.any_map]
      congr 1
      funext cell
      exact Option.isNone_map
    rw [← hnulls]
    exact (Except.ok.inj h).symm

namespace Collector

/-- Without a declared type, every cell is added. -/
theorem foldlM_push (before cells : List (Option Value)) :
    cells.foldlM push { cells := before } = .ok { cells := before ++ cells } := by
  induction cells generalizing before with
  | nil =>
    rw [List.append_nil]
    rfl
  | cons cell cells ih =>
    have hpush : push { cells := before } cell = .ok { cells := before ++ [cell] } := by
      cases cell <;> rfl
    rw [List.foldlM_cons, hpush, List.append_cons before cell cells]
    exact ih (before ++ [cell])

/-- The type is inferred from what was pushed. -/
theorem type_of_finish {collector : Collector} {c : Column}
    (hpush : cells.foldlM push {} = .ok collector) (h : collector.finish name = .ok c) :
    c.type = commonType cells := by
  obtain rfl := Except.ok.inj ((foldlM_push [] cells).symm.trans hpush)
  exact Column.type_of_shape h

/-- **What is collected is what was pushed.** The column has a cell for each, its type depends on
no more than the set of types of what was pushed, and it gathers the cells. -/
theorem exists_finish_of_push (hwf : ∀ v, some v ∈ cells → v.WellFormed)
    (hdeclared : ∀ v, some v ∈ cells → v.AsDeclared) (name : String) :
    ∃ collector c, cells.foldlM push {} = .ok collector ∧ collector.finish name = .ok c ∧
      c.name = name ∧ c.length = cells.length ∧ ColumnType.Common (typesOf cells) c.type ∧
        (∀ others collector' name' d, typesOf others = typesOf cells →
          others.foldlM push {} = .ok collector' → collector'.finish name' = .ok d →
            d.type = c.type) ∧
        c.Gathers cells ∧
        (c.type = .row → ∃ g, c = .group name g) ∧
        (c.type = .frame → c = .frames name (cells.map Value.frameOf)) ∧
        (c.type ≠ .row → c.type ≠ .frame → ∃ stored,
          c = .value name c.type (cells.any Option.isNone) stored ∧ HoldWidened cells stored ∧
            ∀ v, some v ∈ stored → c.type.accepts v) := by
  have hpush : cells.foldlM push {} = .ok { cells } := foldlM_push [] cells
  obtain ⟨c, hc, -, hlength⟩ := Column.exists_collect name hwf
  have hfinish : Collector.finish { cells } name = .ok c := hc
  have htype : c.type = commonType cells := type_of_finish hpush hfinish
  have hcommon : ColumnType.Common (typesOf cells) c.type := htype ▸ commonType_spec cells
  obtain ⟨hrow, hframe, hvalues⟩ := Column.forms_of_infer hc
  refine ⟨_, c, hpush, hfinish, Column.name_of_shape hc, hlength, hcommon, ?_, ?_, hrow, hframe,
    fun hr hf => ⟨_, hvalues hr hf, holdWidened_widen cells _, fun v hv => ?_⟩⟩
  · -- types have one type in common, whatever cells they are taken from
    intro others collector' name' d hsame hpush' hd
    have hother : ColumnType.Common (typesOf cells) d.type := by
      rw [type_of_finish hpush' hd, ← hsame]
      exact commonType_spec others
    exact hother.unique hcommon
  · refine Column.gathers_of_infer (Piece.gathers_stack (cellsDepth cells)) (fun v hv => ?_) hc
    exact ⟨hwf v hv, hdeclared v hv, cellsDepth_le_iff.mp (Nat.le_refl _) v hv⟩
  · obtain ⟨cell, hcell, hwide⟩ := List.mem_map.mp hv
    obtain ⟨w, rfl, rfl⟩ := Option.map_eq_some_iff.mp hwide
    rw [htype]
    exact accepts_widen_commonType hcell

/-- Rows of which two have whole numbers of two types under one name, and a null between them. -/
theorem exists_finish_of_push_rows :
    let cells : List (Option Value) :=
      [some (.row ⟨[.ofValues "x" .int [some (.scalar (.int 1))]], 1⟩), none,
        some (.row ⟨[.ofValues "x" .long [some (.scalar (.long 2))]], 1⟩)]
    (∀ v, some v ∈ cells → v.WellFormed) ∧ (∀ v, some v ∈ cells → v.AsDeclared) ∧
      ∃ collector c, cells.foldlM push {} = .ok collector ∧ collector.finish "c" = .ok c ∧
        c.length = 3 ∧ c.type = .row ∧ c.Gathers cells := by
  intro cells
  have hwf : ∀ v, some v ∈ cells → v.WellFormed := by
    simp [cells, Value.WellFormed, Frame.WellFormed, columnsWellFormed, Column.WellFormed,
      cellsWellFormed, Column.ofValues, Column.length]
  have hrow {type : ColumnType} {s : Scalar} (hrow : type ≠ .row) (hframe : type ≠ .frame) :
      Value.AsDeclared (.row ⟨[.ofValues "x" type [some (.scalar s)]], 1⟩) := by
    refine .row (fun c hc hnested => ?_) fun c hc v hv => ?_
    · obtain rfl := List.mem_singleton.mp hc
      exact absurd hnested (not_or.mpr ⟨hrow, hframe⟩)
    · obtain rfl := List.mem_singleton.mp hc
      obtain rfl := Option.some.inj (List.mem_singleton.mp hv)
      exact .scalar s
  have hdeclared : ∀ v, some v ∈ cells → v.AsDeclared := by
    intro v hv
    simp only [cells, List.mem_cons, Option.some.injEq, reduceCtorEq, List.not_mem_nil, or_false,
      false_or] at hv
    rcases hv with rfl | rfl
    · exact hrow (by simp) (by simp)
    · exact hrow (by simp) (by simp)
  obtain ⟨collector, c, hpush, hfinish, -, hlength, hcommon, -, hgathers, -⟩ :=
    exists_finish_of_push hwf hdeclared "c"
  have htypes : typesOf cells = {.row} := by
    ext type
    simp [typesOf, cells, Value.type, eq_comm]
  refine ⟨hwf, hdeclared, collector, c, hpush, hfinish, hlength, ?_, hgathers⟩
  exact (htypes ▸ hcommon).eq_of_singleton

/-- **A column inside a row is trusted to hold rows if it says so.** A number in it is lost. -/
theorem loses_what_is_no_row :
    let cells : List (Option Value) :=
      [some (.row ⟨[.value "x" .row false [some (.scalar (.int 5))]], 1⟩)]
    (∀ v, some v ∈ cells → v.WellFormed) ∧ ∃ collector c, cells.foldlM push {} = .ok collector ∧
      collector.finish "c" = .ok c ∧ c = .group "c" ⟨[.group "x" ⟨[], 1⟩], 1⟩ ∧
        ¬ c.Gathers cells := by
  intro cells
  refine ⟨?_, { cells }, .group "c" ⟨[.group "x" ⟨[], 1⟩], 1⟩, rfl, rfl, rfl, fun h => ?_⟩
  · simp [cells, Value.WellFormed, Frame.WellFormed, columnsWellFormed, Column.WellFormed,
      cellsWellFormed, Column.length]
  · cases h with
    | group _ _ _ _ hcolumns =>
      have hinside : (Column.group "x" ⟨[], 1⟩).Gathers [some (.scalar (.int 5))] :=
        hcolumns _ List.mem_cons_self
      cases hinside with
      | group hrow => exact absurd (hrow _ List.mem_cons_self) (by decide)

end Collector

end Colonnade
