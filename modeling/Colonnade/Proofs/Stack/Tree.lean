import Colonnade.Proofs.Stack.Cells

/-!
# The columns of stacked frames

The names of one level of a stack are those of its pieces, and below the first level the pieces are
the rows that the cells hold. So a name inside a group is found by the rows of the group only: a group
without rows leaves its own name and nothing of what is in it.

`Frame.Shows` says which names a frame shows in this way. It is an inductive relation of its own, with
no stack in it:

* a stack keeps the columns of the frames, if they have rows or are in no group
  (`Piece.SameKind.exists_find?_of_stack`), as long as columns at the same path are of one kind;
* a stack has no names but those that one of the frames shows (`Piece.exists_shows_of_stack`),
  whatever the kinds are.

Names that are shown are columns unless rows hide in columns of values (`Frame.Shows.exists_find?`),
and `Frame.concat_tree` says which columns the stack of frames has.
-/

namespace Colonnade

/-! ### What a frame shows -/

namespace Frame

/-- **The names that a frame shows**: that of a column, or, below it, those that a row in one of its
cells shows. -/
inductive Shows : Frame → List String → Prop where
  | column {f : Frame} {name : String} {c : Column} (hc : f.column? name = some c) :
      Shows f [name]
  | row {f r : Frame} {name : String} {rest : List String} {c : Column}
      (hc : f.column? name = some c) (hr : some (.row r) ∈ c.cells) (hrest : Shows r rest) :
      Shows f (name :: rest)

/-- **No rows hide in columns of values**, so that the only rows in cells are those of groups. -/
def NoHiddenRows (f : Frame) : Prop :=
  ∀ names c, f.find? names = some c → c.kind = .values → ∀ r, some (.row r) ∉ c.cells

variable {f : Frame} {name : String} {names : List String} {c : Column}

/-- None hide in a row of a frame in which none do, -/
theorem NoHiddenRows.slice (h : f.NoHiddenRows) (i : Nat) : (f.slice i).NoHiddenRows := by
  intro names c hc hkind r hr
  rw [find?_slice] at hc
  obtain ⟨d, hd, rfl⟩ := Option.map_eq_some_iff.mp hc
  rw [Column.kind_slice] at hkind
  exact h names d hd hkind r (Column.mem_cells_of_slice hkind hr)

/-- nor in a group of it. -/
theorem NoHiddenRows.group {label : String} {g : Frame} (h : f.NoHiddenRows)
    (hg : f.column? name = some (.group label g)) : g.NoHiddenRows := by
  intro names c hc hkind
  cases names with
  | nil =>
    obtain rfl := Option.some.inj hc
    exact absurd hkind (by simp [Column.kind])
  | cons next rest => exact h (name :: next :: rest) c (by rw [find?_cons, hg]; exact hc) hkind

/-- There is always a name that is shown. -/
theorem Shows.exists_eq_cons (h : f.Shows names) : ∃ name rest, names = name :: rest := by
  cases h with
  | column _ => exact ⟨_, _, rfl⟩
  | row _ _ _ => exact ⟨_, _, rfl⟩

/-- **What is shown is there**, unless rows hide in columns of values; and only rows show what is in a
group. -/
theorem Shows.exists_find? (h : f.Shows names) (hf : f.WellFormed) (hrows : f.NoHiddenRows) :
    (names.length = 1 ∨ 0 < f.rowCount) ∧ ∃ c, f.find? names = some c := by
  induction h with
  | @column f name c hc => exact ⟨Or.inl rfl, c, by rw [find?_cons, hc]; rfl⟩
  | @row f r name rest c hc hr hrest ih =>
    obtain ⟨next, rest, rfl⟩ := hrest.exists_eq_cons
    have hvalues : c.kind ≠ .values := fun hkind =>
      hrows [name] c (by rw [find?_cons, hc]; rfl) hkind r hr
    obtain ⟨label, g, i, rfl, hi, rfl⟩ := Column.exists_eq_slice_of_mem_cells hr hvalues
    have hg : g.WellFormed := (Column.wellFormed_group _ _).mp (hf.column hc)
    have hlength : g.rowCount = f.rowCount := hf.length_column hc
    obtain ⟨-, d, hd⟩ := ih (hg.slice hi) ((hrows.group hc).slice i)
    rw [find?_slice] at hd
    obtain ⟨e, he, -⟩ := Option.map_eq_some_iff.mp hd
    refine ⟨Or.inr (by omega), e, ?_⟩
    rw [find?_cons, hc]
    exact he

end Frame

/-! ### One level -/

/-- A group of cells is the stack of the rows in them. -/
theorem Column.stack_of_shape_eq_group {inner : StackRows} {name label : String} {type : ColumnType}
    {cells : List (Option Value)} {g : Frame}
    (h : shape inner name type cells = .ok (.group label g)) :
    inner (cells.map Piece.ofCell) = .ok g := by
  unfold shape at h
  split at h
  · obtain ⟨f, hf, heq⟩ := map_eq_ok_iff.mp h
    obtain ⟨-, rfl⟩ := Column.group.inj heq
    exact hf
  · exact absurd (Except.ok.inj h) (by simp)
  · exact absurd (Except.ok.inj h) (by simp [ofValues])

namespace Piece

variable {pieces : List Piece} {p : Piece} {name : String} {c d : Column} {inner : StackRows}
  {r : Frame}

/-- **A group of a level is stacked from the rows in its cells**, whether there were groups before or
the rows have become one. -/
theorem stack_inside_of_stackColumn {label : String} {g : Frame}
    (h : stackColumn inner pieces name = .ok (.group label g)) :
    inner (inside pieces name) = .ok g := by
  unfold stackColumn at h
  split at h
  · exact Column.stack_of_shape_eq_group h
  · have hstack := Column.stack_of_shape_eq_group h
    rw [List.map_map] at hstack
    simp only [Function.comp_def, ofCell_widen] at hstack
    exact hstack

/-! ### All levels -/

/-- **A stack makes no names up**, by induction on them: the rows inside a column are in its cells. -/
theorem exists_shows_of_stack {depth : Nat} {names : List String} (hr : stack depth pieces = .ok r)
    (hd : r.find? (name :: names) = some d) :
    ∃ p ∈ pieces, ∃ f ∈ p.frame, f.Shows (name :: names) := by
  induction names generalizing depth pieces r name with
  | nil =>
    obtain ⟨depth, e, rfl, hmem, -, -⟩ := exists_stackColumn_of_find?_stack hr hd
    obtain ⟨p, hp, c, hc⟩ := mem_names_iff.mp hmem
    obtain ⟨f, hf, hcolumn⟩ := Option.bind_eq_some_iff.mp hc
    exact ⟨p, hp, f, hf, .column hcolumn⟩
  | cons next rest ih =>
    obtain ⟨depth, e, rfl, -, hstack, hdescend⟩ := exists_stackColumn_of_find?_stack hr hd
    obtain ⟨label, g, rfl⟩ := Column.exists_eq_group_of_descend? hdescend
    obtain ⟨q, hq, row, hrow, hshows⟩ := ih (stack_inside_of_stackColumn hstack) hdescend
    obtain ⟨p, hp, c, hc, hcell, -⟩ := exists_row_of_mem_inside hq hrow
    obtain ⟨f, hf, hcolumn⟩ := Option.bind_eq_some_iff.mp hc
    exact ⟨p, hp, f, hf, .row hcolumn hcell hshows⟩

/-- **A stack keeps the columns of its pieces**, by induction on the names: below the first the pieces
are the rows of groups, and the first row of a piece that has one leads on. -/
theorem SameKind.exists_find?_of_stack {depth : Nat} {names : List String} (h : SameKind pieces)
    (hdepth : ∀ p ∈ pieces, p.Within depth) (hr : stack depth pieces = .ok r) (hp : p ∈ pieces)
    (hc : p.find? names = some c) (hrows : names.length ≤ 1 ∨ 0 < p.rows) :
    ∃ d, r.find? names = some d := by
  induction names generalizing depth pieces r p c with
  | nil => exact ⟨.group "" r, rfl⟩
  | cons name rest ih =>
    rw [find?_cons] at hc
    obtain ⟨e, he, hdescend⟩ := Option.bind_eq_some_iff.mp hc
    cases depth with
    | zero =>
      rw [column?, (hdepth p hp).frame_eq_none] at he
      exact absurd he (by simp)
    | succ depth =>
      cases rest with
      | nil =>
        obtain ⟨d, hd, -⟩ := exists_column?_of_stackLevel hr (mem_names_iff.mpr ⟨p, hp, e, he⟩)
        exact ⟨d, by rw [Frame.find?_cons, hd]; rfl⟩
      | cons next rest =>
        obtain ⟨label, g, rfl⟩ := Column.exists_eq_group_of_descend? hdescend
        obtain ⟨inside, hinside, hcolumn⟩ := h.column?_group_of_stackLevel hr hp he rfl
        have hpos : 0 < p.rows := by simpa using hrows
        have hlength : g.rowCount = p.rows := ((h.wellFormed p hp).column? he).2
        have hrow : ofFrame (g.slice 0) ∈ Piece.inside pieces name :=
          ofFrame_slice_mem_inside hp he (by omega)
        have hg : g.find? (next :: rest) = some c := hdescend
        have hfind : (ofFrame (g.slice 0)).find? (next :: rest) = some (c.slice 0) := by
          rw [find?_slice, hg, Option.map_some]
        have hone : 0 < (ofFrame (g.slice 0)).rows := by
          rw [ofFrame, Frame.rowCount_slice]
          exact Nat.zero_lt_one
        obtain ⟨d, hd⟩ := ih (h.inside (h.rowsFromGroups hp he rfl)) (within_inside hdepth name)
          hinside hrow hfind (Or.inr hone)
        exact ⟨d, by rw [Frame.find?_cons, hcolumn]; exact hd⟩

end Piece

/-! ### Frames -/

namespace Frame

variable {fs : List Frame}

/-- No rows hide in frames that are alike. -/
theorem Alike.noHiddenRows (h : Alike fs) {f : Frame} (hf : f ∈ fs) : f.NoHiddenRows := by
  intro names c hc hkind r hr
  cases names with
  | nil =>
    obtain rfl := Option.some.inj hc
    exact absurd hkind (by simp [Column.kind])
  | cons name rest =>
    have hflat : c.Flat :=
      h.flat f hf ⟨name :: rest, List.cons_ne_nil _ _⟩ c (get_eq_ok_iff.mpr hc)
    exact absurd rfl (hflat.cells_ne hkind hr).1

/-- Frames with columns of one kind at the same path are pieces of the same kinds. -/
theorem sameKind_pieces (hfs : ∀ f ∈ fs, f.WellFormed)
    (hkind : ∀ f ∈ fs, ∀ g ∈ fs, ∀ path c d, f.get path = .ok c → g.get path = .ok d →
      c.kind = d.kind) : Piece.SameKind (fs.map Piece.ofFrame) := by
  refine ⟨List.forall_mem_map.mpr fun f hf => Piece.wellFormed_ofFrame (hfs f hf),
    List.forall_mem_map.mpr fun f hf => List.forall_mem_map.mpr fun g hg names c d hc hd => ?_⟩
  cases names with
  | nil =>
    obtain ⟨f', rfl⟩ := Piece.eq_group_of_find?_nil hc
    obtain ⟨g', rfl⟩ := Piece.eq_group_of_find?_nil hd
    rfl
  | cons name rest =>
    exact hkind f hf g hg ⟨name :: rest, List.cons_ne_nil _ _⟩ c d (get_eq_ok_iff.mpr hc)
      (get_eq_ok_iff.mpr hd)

/-- **The columns of a stack of frames.** It keeps a column of a frame if it is in no group or if the
frame has rows; it has no names but those that a frame shows; and where no rows hide in columns of
values it has the columns of the frames, those in groups as far as the frames have rows. -/
theorem concat_tree (hfs : ∀ f ∈ fs, f.WellFormed)
    (hkind : ∀ f ∈ fs, ∀ g ∈ fs, ∀ path c d, f.get path = .ok c → g.get path = .ok d →
      c.kind = d.kind) :
    ∃ r, concat fs = .ok r ∧
      (∀ f ∈ fs, ∀ path c, f.get path = .ok c → path.length = 1 ∨ 0 < f.rowCount →
        ∃ d, r.get path = .ok d) ∧
      (∀ path d, r.get path = .ok d → ∃ f ∈ fs, f.Shows path.segments) ∧
      ((∀ f ∈ fs, f.NoHiddenRows) → ∀ path, (∃ d, r.get path = .ok d) ↔
        ∃ f ∈ fs, (path.length = 1 ∨ 0 < f.rowCount) ∧ ∃ c, f.get path = .ok c) := by
  obtain ⟨r, hr, -⟩ := exists_concat hfs
  have hwithin : ∀ p ∈ fs.map Piece.ofFrame, p.Within (framesDepth fs) :=
    List.forall_mem_map.mpr fun f hf =>
      Piece.within_ofFrame (hfs f hf) (framesDepth_le_iff.mp (Nat.le_refl _) f hf)
  have hkept : ∀ f ∈ fs, ∀ path c, f.get path = .ok c → path.length = 1 ∨ 0 < f.rowCount →
      ∃ d, r.get path = .ok d := by
    intro f hf path c hc hrows
    obtain ⟨d, hd⟩ := (sameKind_pieces hfs hkind).exists_find?_of_stack hwithin hr
      (List.mem_map_of_mem hf) (get_eq_ok_iff.mp hc) (hrows.imp_left Nat.le_of_eq)
    exact ⟨d, get_eq_ok_iff.mpr hd⟩
  have hshown : ∀ path d, r.get path = .ok d → ∃ f ∈ fs, f.Shows path.segments := by
    rintro ⟨segments, hne⟩ d hd
    obtain ⟨name, rest, rfl⟩ := List.exists_cons_of_ne_nil hne
    obtain ⟨p, hp, f, hf, hshows⟩ := Piece.exists_shows_of_stack hr (get_eq_ok_iff.mp hd)
    obtain ⟨g, hg, rfl⟩ := List.mem_map.mp hp
    obtain rfl : g = f := Option.some.inj hf
    exact ⟨g, hg, hshows⟩
  refine ⟨r, hr, hkept, hshown, fun hhidden path => ⟨?_, ?_⟩⟩
  · rintro ⟨d, hd⟩
    obtain ⟨f, hf, hshows⟩ := hshown path d hd
    obtain ⟨hrows, c, hc⟩ := hshows.exists_find? (hfs f hf) (hhidden f hf)
    exact ⟨f, hf, hrows, c, get_eq_ok_iff.mpr hc⟩
  · rintro ⟨f, hf, hrows, c, hc⟩
    exact hkept f hf path c hc hrows

/-- Frames of one row and of none: of the second, `n` stays, and `y` in the group `g` is lost. -/
theorem concat_tree_without_rows :
    let fs : List Frame :=
      [⟨[.group "g" ⟨[.ofTexts "x" [some "a"]], 1⟩], 1⟩,
        ⟨[.group "g" ⟨[.ofTexts "y" []], 0⟩, .ofTexts "n" []], 0⟩]
    Alike fs ∧ ∃ r, concat fs = .ok r ∧ (∃ d, r.get ⟨["g", "x"], by simp⟩ = .ok d) ∧
      (∃ d, r.get ⟨["n"], by simp⟩ = .ok d) ∧ ¬ ∃ d, r.get ⟨["g", "y"], by simp⟩ = .ok d := by
  intro fs
  have hfs : Alike fs := by
    refine Alike.of_kinds (fun names => if names = ["g"] then .group else .values) ?_ ?_
    · simp [fs, WellFormed, columnsWellFormed, Column.WellFormed, Column.ofTexts,
        Column.ofValues, cellsWellFormed, Value.ofText, Value.WellFormed, Column.name,
        Column.length]
    · -- the groups hold a column of texts each
      have hinside {label : String} {texts : List (Option String)} {n : Nat} {next : String}
          {rest : List String} {c : Column}
          (hc : find? ⟨[.ofTexts label texts], n⟩ (next :: rest) = some c) :
          c.Flat ∧ c.kind = .values := by
        obtain ⟨e, hmem, rfl, ⟨-, rfl⟩ | ⟨_, _, label, g, -, rfl, -⟩⟩ := exists_mem_of_find? hc
        · obtain rfl := List.mem_singleton.mp hmem
          exact ⟨Column.flat_ofTexts _ _, rfl⟩
        · exact absurd (List.mem_singleton.mp hmem) (by simp [Column.ofTexts, Column.ofValues])
      intro f hf name rest c hc
      simp only [fs, List.mem_cons, List.not_mem_nil, or_false] at hf
      obtain ⟨e, hmem, rfl, ⟨rfl, rfl⟩ | ⟨next, rest, label, g, rfl, rfl, hbelow⟩⟩ :=
        exists_mem_of_find? hc
      · rcases hf with rfl | rfl <;>
          simp only [List.mem_cons, List.not_mem_nil, or_false] at hmem
        · obtain rfl := hmem
          exact ⟨trivial, rfl⟩
        · rcases hmem with rfl | rfl
          · exact ⟨trivial, rfl⟩
          · exact ⟨Column.flat_ofTexts _ _, rfl⟩
      · rcases hf with rfl | rfl <;>
          simp only [List.mem_cons, List.not_mem_nil, or_false, Column.ofTexts, Column.ofValues,
            reduceCtorEq, Column.group.injEq] at hmem
        · obtain ⟨-, rfl⟩ := hmem
          simpa using hinside hbelow
        · obtain ⟨-, rfl⟩ := hmem
          simpa using hinside hbelow
  obtain ⟨r, hr, hkept, -, htree⟩ := concat_tree hfs.wellFormed hfs.kind_eq
  specialize htree fun f hf => hfs.noHiddenRows hf
  refine ⟨hfs, r, hr, ?_, ?_, ?_⟩
  · exact hkept fs[0] (by simp [fs]) _ (.ofTexts "x" [some "a"]) rfl (Or.inr Nat.zero_lt_one)
  · exact hkept fs[1] (by simp [fs]) _ (.ofTexts "n" []) rfl (Or.inl rfl)
  · rw [htree]
    rintro ⟨f, hf, hrows, c, hc⟩
    simp only [fs, List.mem_cons, List.not_mem_nil, or_false] at hf
    rcases hf with rfl | rfl
    · have hnone : find? ⟨[.group "g" ⟨[.ofTexts "x" [some "a"]], 1⟩], 1⟩ ["g", "y"] = none := rfl
      exact absurd (hnone.symm.trans (get_eq_ok_iff.mp hc)) (by simp)
    · exact absurd hrows (by simp [Path.length])

end Frame

end Colonnade
