import Colonnade.Proofs.Removal.Listing
import Colonnade.Proofs.Stack.Typed

/-!
# Stacking what has been stacked

Stacking frames and then stacking what comes out is stacking all of them at once, as long as columns
keep their type (`Frame.concat_append`). At the uppermost level a stacked frame stands for the frames
that it was made of. One level below, its groups are taken apart into rows, and these stand for the rows
that the group was made of: as many rows, with the same cells, although a row of nulls has now the
columns that others had, and an absent frame is now an empty one.

`Piece.Regrouped` says which pieces may stand for which, and `StackRows.Regroups` that this makes no
difference to a stack. One level keeps this (`Piece.regroups_stackLevel`), because it makes its columns
of cells that are regrouped one level below (`Piece.RegroupedCells`).
-/

namespace Colonnade

variable {inner : StackRows}

/-! ### Pieces that stand for others -/

namespace Piece

/-- **Regrouped pieces**: they are as they were, or what has been stacked of them stands for them, as
one frame or, if each of them is one row, row by row. -/
inductive Regrouped (inner : StackRows) (pieces : List Piece) : List Piece → Prop
  | same : Regrouped inner pieces pieces
  | whole {f : Frame} : inner pieces = .ok f → Regrouped inner pieces [ofFrame f]
  | rows {f : Frame} : inner pieces = .ok f → (∀ p ∈ pieces, p.rows = 1) →
      Regrouped inner pieces f.rowPieces

/-- **Regrouped cells** of a column of a type: rows that stand for rows, the same frames – whether or
not an empty one was there –, or the same cells. -/
structure RegroupedCells (inner : StackRows) (type : ColumnType) (cells others : List (Option Value)) :
    Prop where
  rows : type = .row → Regrouped inner (cells.map ofCell) (others.map ofCell)
  frames : type = .frame → others.map Value.frameOf = cells.map Value.frameOf
  values : type ≠ .row → type ≠ .frame → others = cells

variable {pieces others : List Piece} {cells : List (Option Value)} {name : String}
  {type : ColumnType}

theorem RegroupedCells.refl (inner : StackRows) (type : ColumnType) (cells : List (Option Value)) :
    RegroupedCells inner type cells cells :=
  ⟨fun _ => .same, fun _ => rfl, fun _ _ => rfl⟩

/-- **The cells of a column stand for those that it was made of.** -/
theorem RegroupedCells.of_shape (hcells : ∀ v, some v ∈ cells → v.WellFormed) {d : Column}
    (hd : Column.shape inner name type cells = .ok d) :
    RegroupedCells inner type cells d.cells := by
  refine ⟨?_, ?_, fun hrow hframe => ?_⟩
  · rintro rfl
    obtain ⟨g, hg, rfl⟩ := map_eq_ok_iff.mp hd
    rw [Frame.map_ofCell_cells_group]
    refine .rows hg (List.forall_mem_map.mpr fun cell hcell => rows_ofCell ?_)
    rintro v rfl
    exact hcells v hcell
  · rintro rfl
    obtain rfl := Except.ok.inj hd
    rw [Column.cells, List.map_map, List.map_map]
    rfl
  · rw [Column.shape_eq_ofValues hrow hframe] at hd
    obtain rfl := Except.ok.inj hd
    rfl

end Piece

/-- **A stack that cannot tell regrouped pieces from others.** -/
def StackRows.Regroups (inner : StackRows) : Prop :=
  ∀ first others second others', Piece.Typed (first ++ second) →
    Piece.Regrouped inner first others → Piece.Regrouped inner second others' →
      inner (others ++ others') = inner (first ++ second)

/-- Cells that are regrouped make the same column. -/
theorem Column.shape_regrouped (hinner : inner.Regroups) {name : String} {type : ColumnType}
    {cells cells' others others' : List (Option Value)}
    (htyped : type = .row → Piece.Typed ((cells ++ cells').map Piece.ofCell))
    (h : Piece.RegroupedCells inner type cells others)
    (h' : Piece.RegroupedCells inner type cells' others') :
    shape inner name type (others ++ others') = shape inner name type (cells ++ cells') := by
  by_cases hrow : type = .row
  · subst hrow
    have hrows := htyped rfl
    rw [List.map_append] at hrows
    show (inner _).map (group name) = (inner _).map (group name)
    rw [List.map_append, List.map_append, hinner _ _ _ _ hrows (h.rows rfl) (h'.rows rfl)]
  · by_cases hframe : type = .frame
    · subst hframe
      show Except.ok (frames name _) = Except.ok (frames name _)
      rw [List.map_append, List.map_append, h.frames rfl, h'.frames rfl]
    · rw [h.values hrow hframe, h'.values hrow hframe]

/-! ### One level -/

namespace Piece

variable {pieces others first second : List Piece} {name : String}

/-- **What a level sees of pieces that stand for others**: the same names, rows and types, and at every
name cells that are regrouped one level below. -/
structure SeenAs (inner : StackRows) (pieces others : List Piece) : Prop where
  names_eq : names others = names pieces
  totalRows_eq : totalRows others = totalRows pieces
  type_iff : ∀ name type, (∃ p ∈ others, ∃ c, p.column? name = some c ∧ c.type = type) ↔
    ∃ p ∈ pieces, ∃ c, p.column? name = some c ∧ c.type = type
  cells : ∀ name type, (∀ p ∈ pieces, ∀ c, p.column? name = some c → c.type = type) →
    RegroupedCells inner type (pieces.flatMap fun p => p.cells name)
      (others.flatMap fun p => p.cells name)

theorem SeenAs.refl (inner : StackRows) (pieces : List Piece) : SeenAs inner pieces pieces :=
  ⟨rfl, rfl, fun _ _ => Iff.rfl, fun _ _ _ => .refl _ _ _⟩

/-- Where no piece has a column, all cells are nulls. -/
theorem cells_of_not_mem_names (h : name ∉ names pieces) :
    (pieces.flatMap fun p => p.cells name) = List.replicate (totalRows pieces) none := by
  induction pieces with
  | nil => rfl
  | cons p pieces ih =>
    have hnone : p.column? name = none := Option.eq_none_iff_forall_ne_some.mpr fun c hc =>
      h (mem_names_iff.mpr ⟨p, List.mem_cons_self, c, hc⟩)
    have hrest : name ∉ names pieces := fun hmem => by
      obtain ⟨q, hq, c, hc⟩ := mem_names_iff.mp hmem
      exact h (mem_names_iff.mpr ⟨q, List.mem_cons_of_mem p hq, c, hc⟩)
    rw [List.flatMap_cons, ih hrest, cells_of_column?_eq_none hnone, ← List.replicate_add]
    rfl

/-- The names of pieces side by side are the names of each. -/
theorem names_append (first second : List Piece) :
    names (first ++ second) = (names first ++ names second).eraseDups := by
  have h := eraseDups_flatMap_eraseDups
    (fun pieces : List Piece => pieces.flatMap fun p => (p.frame.map Frame.names).getD [])
    [first, second]
  simpa [names] using h.symm

/-- **What has been stacked is seen as what it was made of**, if it is seen as a frame. -/
theorem Typed.seenAs_of_stackLevel (h : Typed pieces) {f : Frame}
    (hf : stackLevel inner pieces = .ok f) (hnames : names others = f.names)
    (hrows : totalRows others = f.rowCount)
    (htypes : ∀ name type, (∃ p ∈ others, ∃ c, p.column? name = some c ∧ c.type = type) ↔
      ∃ c, f.column? name = some c ∧ c.type = type)
    (hcells : ∀ name, (others.flatMap fun p => p.cells name) = (ofFrame f).cells name) :
    SeenAs inner pieces others := by
  obtain ⟨hfnames, hfrows, hcolumn⟩ := column?_of_stackLevel hf
  have hmade {p : Piece} {name : String} {c : Column} (hp : p ∈ pieces)
      (hc : p.column? name = some c) : ∃ d, f.column? name = some d ∧
        Column.shape inner name c.type (pieces.flatMap fun p => p.cells name) = .ok d := by
    have hmem : name ∈ names pieces := mem_names_iff.mpr ⟨p, hp, c, hc⟩
    obtain ⟨d, hd⟩ := Option.ne_none_iff_exists'.mp
      (mt Frame.column?_eq_none_iff.mp (not_not.mpr (hfnames ▸ hmem)))
    exact ⟨d, hd, (h.stackColumn_eq_shape hp hc).symm.trans ((hcolumn name d).mp hd).2⟩
  refine ⟨hnames.trans hfnames, hrows.trans hfrows, fun name type => ?_, fun name type htype => ?_⟩
  · rw [htypes]
    constructor
    · rintro ⟨d, hd, rfl⟩
      obtain ⟨p, hp, c, hc⟩ := mem_names_iff.mp ((hcolumn name d).mp hd).1
      obtain ⟨d', hd', hshape⟩ := hmade hp hc
      obtain rfl := Option.some.inj (hd.symm.trans hd')
      exact ⟨p, hp, c, hc, (Column.type_of_shape hshape).symm⟩
    · rintro ⟨p, hp, c, hc, rfl⟩
      obtain ⟨d, hd, hshape⟩ := hmade hp hc
      exact ⟨d, hd, Column.type_of_shape hshape⟩
  · rw [hcells]
    by_cases hmem : name ∈ names pieces
    · obtain ⟨p, hp, c, hc⟩ := mem_names_iff.mp hmem
      obtain ⟨d, hd, hshape⟩ := hmade hp hc
      rw [cells_of_column? (p := .ofFrame f) hd]
      rw [htype p hp c hc] at hshape
      refine .of_shape (fun v hv => ?_) hshape
      obtain ⟨q, hq, hcell⟩ := List.mem_flatMap.mp hv
      exact (h.wellFormed q hq).of_mem_cells hcell
    · have hnone : (ofFrame f).column? name = none :=
        Frame.column?_eq_none_iff.mpr (hfnames ▸ hmem)
      rw [cells_of_not_mem_names hmem, cells_of_column?_eq_none hnone, ← hfrows]
      exact .refl _ _ _

/-- The checks of a level, seen from its result. -/
theorem checks_of_stackLevel {f : Frame} (hf : stackLevel inner pieces = .ok f) :
    f.names.Nodup ∧ ∀ c ∈ f.columns, c.length = f.rowCount := by
  obtain ⟨columns, -, hcheck⟩ := bind_eq_ok_iff.mp hf
  obtain ⟨rfl, hnodup, hlength⟩ := Frame.withRowCount_eq_ok_iff.mp hcheck
  exact ⟨hnodup, hlength⟩

/-- **Regrouped pieces are seen as what they were.** -/
theorem Regrouped.seenAs (h : Typed pieces) (hothers : Regrouped (stackLevel inner) pieces others) :
    SeenAs inner pieces others := by
  cases hothers with
  | same => exact .refl _ _
  | @whole f hf =>
    obtain ⟨hnodup, -⟩ := checks_of_stackLevel hf
    refine h.seenAs_of_stackLevel hf ?_ ?_ (fun name type => ?_) fun name => ?_
    · rw [names, List.flatMap_singleton]
      exact eraseDups_of_nodup hnodup
    · rfl
    · simp only [List.mem_singleton, exists_eq_left]
      rfl
    · rw [List.flatMap_singleton]
  | @rows f hf hone =>
    obtain ⟨hnodup, hlength⟩ := checks_of_stackLevel hf
    rcases Nat.eq_zero_or_pos f.rowCount with hzero | hpos
    · -- there are no rows, and there were none
      have hnil : pieces = [] := by
        have hrows := (column?_of_stackLevel hf).2.1
        rw [hzero, totalRows_eq_length hone] at hrows
        exact List.length_eq_zero_iff.mp hrows.symm
      have hrows : f.rowPieces = [] := by
        rw [Frame.rowPieces, hzero]
        rfl
      rw [hnil, hrows]
      exact .refl _ _
    · exact h.seenAs_of_stackLevel hf (Frame.names_rowPieces hnodup hpos)
        (Frame.totalRows_rowPieces f) (fun _ _ => Frame.exists_type_rowPieces_iff hpos)
        (Frame.cells_rowPieces hlength)

/-- **One level makes the same of regrouped pieces** if the level below does. -/
theorem regroups_stackLevel (hinner : inner.Regroups) : (stackLevel inner).Regroups := by
  intro first others second others' htyped hfirst hsecond
  have hseen := hfirst.seenAs htyped.of_append_left
  have hseen' := hsecond.seenAs htyped.of_append_right
  have hnames : names (others ++ others') = names (first ++ second) := by
    rw [names_append, names_append, hseen.names_eq, hseen'.names_eq]
  have hrows : totalRows (others ++ others') = totalRows (first ++ second) := by
    rw [totalRows_append, totalRows_append, hseen.totalRows_eq, hseen'.totalRows_eq]
  have hcolumn : ∀ name ∈ names (first ++ second),
      stackColumn inner (others ++ others') name = stackColumn inner (first ++ second) name := by
    intro name hname
    obtain ⟨p, hp, c, hc⟩ := mem_names_iff.mp hname
    have htype : ∀ q ∈ first ++ second, ∀ d, q.column? name = some d → d.type = c.type :=
      fun q hq d hd => htyped.column_type_eq hq hp hd hc
    have hshared : sharedType? (others ++ others') name = some c.type := by
      have hfirst : sharedType? (first ++ second) name = some c.type :=
        sharedType?_eq_some_iff.mpr
          ⟨(htyped.column_typed hp hc).type_ne_any, ⟨p, hp, c, hc⟩, htype⟩
      refine sharedType?_of_type_iff (fun t => ?_) hfirst
      simp only [List.mem_append, or_and_right, exists_or, hseen.type_iff, hseen'.type_iff]
    rw [htyped.stackColumn_eq_shape hp hc, stackColumn, hshared]
    show Column.shape inner name c.type _ = Column.shape inner name c.type _
    rw [List.flatMap_append, List.flatMap_append]
    refine Column.shape_regrouped hinner (fun hrow => ?_)
      (hseen.cells name c.type fun q hq => htype q (List.mem_append_left second hq))
      (hseen'.cells name c.type fun q hq => htype q (List.mem_append_right first hq))
    rw [← List.flatMap_append]
    exact htyped.inside hp hc hrow
  rw [stackLevel, stackLevel, hnames, hrows, mapM_congr hcolumn]

/-- **A stack cannot tell regrouped pieces from others**, by induction on the depth. -/
theorem regroups_stack (depth : Nat) : (stack depth).Regroups := by
  induction depth with
  | zero =>
    have hrows {pieces others : List Piece} (h : Regrouped (stack 0) pieces others) :
        totalRows others = totalRows pieces := by
      cases h with
      | same => rfl
      | whole hf => rw [← Except.ok.inj hf]; rfl
      | rows hf _ => rw [Frame.totalRows_rowPieces, ← Except.ok.inj hf]
    intro first others second others' _ hfirst hsecond
    show Except.ok _ = Except.ok _
    rw [totalRows_append, totalRows_append, hrows hfirst, hrows hsecond]
  | succ depth ih => exact regroups_stackLevel ih

end Piece

/-! ### Frames -/

namespace Frame

/-- **Typed frames**: they are well-formed, their columns of values are typed, and columns at the same
path are of one kind and one type. -/
structure Typed (fs : List Frame) : Prop where
  wellFormed : ∀ f ∈ fs, f.WellFormed
  typed : ∀ f ∈ fs, ∀ path c, f.get path = .ok c → c.Typed
  agree : ∀ f ∈ fs, ∀ g ∈ fs, ∀ path c d, f.get path = .ok c → g.get path = .ok d →
    c.kind = d.kind ∧ c.type = d.type

variable {fs : List Frame}

/-- Frames are typed if the path of a column tells its type. -/
theorem Typed.of_types (types : Path → ColumnType) (hwf : ∀ f ∈ fs, f.WellFormed)
    (h : ∀ f ∈ fs, ∀ path ∈ f.paths, ∀ c, f.get path = .ok c → c.Typed ∧ c.type = types path) :
    Typed fs := by
  have hget {f : Frame} (hf : f ∈ fs) {path : Path} {c : Column} (hc : f.get path = .ok c) :
      c.Typed ∧ c.type = types path :=
    h f hf path ((mem_paths (hwf f hf) path).mpr ⟨c, hc⟩) c hc
  refine ⟨hwf, fun f hf path c hc => (hget hf hc).1, fun f hf g hg path c d hc hd => ?_⟩
  have htype : c.type = d.type := (hget hf hc).2.trans (hget hg hd).2.symm
  exact ⟨(hget hf hc).1.kind_eq_of_type_eq (hget hg hd).1 htype, htype⟩

/-- Typed frames are typed pieces. -/
theorem Typed.pieces (h : Typed fs) : Piece.Typed (fs.map Piece.ofFrame) := by
  have hget {f : Frame} {name : String} {rest : List String} {c : Column}
      (hc : (Piece.ofFrame f).find? (name :: rest) = some c) :
      f.get ⟨name :: rest, List.cons_ne_nil _ _⟩ = .ok c :=
    get_eq_ok_iff.mpr hc
  have hgroup {f : Frame} {c : Column} (hc : (Piece.ofFrame f).find? [] = some c) :
      c = .group "" f :=
    (Option.some.inj hc).symm
  refine ⟨List.forall_mem_map.mpr fun f hf => Piece.wellFormed_ofFrame (h.wellFormed f hf),
    List.forall_mem_map.mpr fun f hf names c hc => ?_,
    List.forall_mem_map.mpr fun f hf => List.forall_mem_map.mpr fun g hg names c d hc hd => ?_⟩
  · cases names with
    | nil => rw [hgroup hc]; trivial
    | cons name rest => exact h.typed f hf _ c (hget hc)
  · cases names with
    | nil => rw [hgroup hc, hgroup hd]; rfl
    | cons name rest => exact (h.agree f hf g hg _ c d (hget hc) (hget hd)).2

/-- **Stacking is associative**: stacking two lists of typed frames, and what comes out of each on top
of the other, is stacking all of them. -/
theorem concat_append {xs ys : List Frame} (h : Typed (xs ++ ys)) :
    ∃ f g r, concat xs = .ok f ∧ concat ys = .ok g ∧ concat (xs ++ ys) = .ok r ∧
      concat [f, g] = .ok r := by
  have hxs : ∀ f ∈ xs, f.WellFormed := fun f hf => h.wellFormed f (List.mem_append_left ys hf)
  have hys : ∀ f ∈ ys, f.WellFormed := fun f hf => h.wellFormed f (List.mem_append_right xs hf)
  obtain ⟨f, hf, hfwf⟩ := exists_concat hxs
  obtain ⟨g, hg, hgwf⟩ := exists_concat hys
  obtain ⟨r, hr, -⟩ := exists_concat h.wellFormed
  have hfg : ∀ k ∈ [f, g], k.WellFormed := by simp [hfwf, hgwf]
  -- one bound for the depth of the frames that go in and of those that are stacked again
  obtain ⟨depth, hle, hle'⟩ : ∃ depth, framesDepth (xs ++ ys) ≤ depth ∧ framesDepth [f, g] ≤ depth :=
    ⟨max (framesDepth (xs ++ ys)) (framesDepth [f, g]), Nat.le_max_left _ _, Nat.le_max_right _ _⟩
  obtain ⟨hlexs, hleys⟩ := List.forall_mem_append.mp (framesDepth_le_iff.mp hle)
  have hfirst : Piece.stack depth (xs.map Piece.ofFrame) = .ok f := by
    rw [← concat_eq_stack hxs (framesDepth_le_iff.mpr hlexs), hf]
  have hsecond : Piece.stack depth (ys.map Piece.ofFrame) = .ok g := by
    rw [← concat_eq_stack hys (framesDepth_le_iff.mpr hleys), hg]
  have hpieces : Piece.Typed (xs.map Piece.ofFrame ++ ys.map Piece.ofFrame) := by
    rw [← List.map_append]
    exact h.pieces
  have hregroup : Piece.stack depth ([f, g].map Piece.ofFrame) =
      Piece.stack depth (xs.map Piece.ofFrame ++ ys.map Piece.ofFrame) :=
    Piece.regroups_stack depth _ _ _ _ hpieces (.whole hfirst) (.whole hsecond)
  refine ⟨f, g, r, hf, hg, hr, ?_⟩
  rw [concat_eq_stack hfg hle', hregroup, ← List.map_append, ← concat_eq_stack h.wellFormed hle, hr]

/-- Frames with a nested group, without rows and without a column in common. -/
theorem concat_append_nested :
    let xs : List Frame :=
      [⟨[.group "g" ⟨[.ofValues "x" .int [some (.scalar (.int 1)), none]], 2⟩,
          .frames "t" [.empty, .empty]], 2⟩,
        ⟨[.ofTexts "z" []], 0⟩]
    let ys : List Frame :=
      [⟨[.ofTexts "n" [some "a"]], 1⟩,
        ⟨[.group "g" ⟨[.group "h" ⟨[.ofTexts "y" [none]], 1⟩,
          .ofValues "x" .int [some (.scalar (.int 5))]], 1⟩], 1⟩]
    Typed (xs ++ ys) ∧
      ∃ f g r, concat xs = .ok f ∧ concat ys = .ok g ∧ concat (xs ++ ys) = .ok r ∧
        concat [f, g] = .ok r := by
  intro xs ys
  have htyped : Typed (xs ++ ys) := by
    refine Typed.of_types (fun path =>
      if path.segments ∈ [["g"], ["g", "h"]] then .row else
      if path.segments = ["t"] then .frame else
      if path.segments = ["g", "x"] then .int else .string) ?_ ?_
    · simp [xs, ys, WellFormed, columnsWellFormed, Column.WellFormed, Column.ofTexts,
        framesWellFormed, Column.ofValues, cellsWellFormed, Value.ofText, Value.WellFormed,
        Column.name, Column.length, empty]
    · intro f hf
      simp only [xs, ys, List.cons_append, List.nil_append, List.mem_cons, List.not_mem_nil,
        or_false] at hf
      rcases hf with rfl | rfl | rfl | rfl <;>
        simp [paths, Column.pathsAll, Column.paths, Path.under, Path.single, get, getFrom, column?,
          Column.name, Column.ofValues, Column.ofTexts, Column.Typed, Column.type]
  exact ⟨htyped, concat_append htyped⟩

end Frame

end Colonnade
