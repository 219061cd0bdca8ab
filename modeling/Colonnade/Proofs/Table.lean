import Colonnade.Proofs.Trimming
import Colonnade.Table
import Mathlib.Algebra.Ring.Nat
import Mathlib.Data.List.Forall2

/-!
# The layout of a table

What a reader sees of a table: lines of cells that stand in columns. The width of a column is measured on
the texts as they are given, and the blanks after a cell are counted on the text as it is shown; that the
two agree, and that no blanks are missing, is the first thing to know (`Table.width_map_shown`,
`Table.widthOf_le`).

* `Table.columnWidth` – the width of a column: the greatest of its header and its cells, and at least one;
* `Table.InColumns` – a line that shows cells in columns of given widths, up to white space at its end;
* `Table.render_inColumns` – a table is a line of headers, a rule and a line for each row.

A column starts at one offset in all lines, in two ways of measuring. Each cell takes its own width and the
blanks after it. Measured along the line as a whole, the same comes out if every colour sequence ends in its
cell; one that does not end hides what follows it from the measure, though not from the line.
-/

namespace Colonnade

namespace Table

/-! ### Widths -/

/-- A colour sequence is open after a text; `inSequence` if one was open before. -/
def openAfter (inSequence : Bool) : List Char → Bool
  | [] => inSequence
  | c :: cs => if inSequence then openAfter (c != 'm') cs else openAfter (c == escapeChar) cs

/-- **Every colour sequence of a text ends in it.** -/
def Closed (s : String) : Prop :=
  openAfter false s.toList = false

theorem width_append (inSequence : Bool) (cs ds : List Char) :
    width inSequence (cs ++ ds) = width inSequence cs + width (openAfter inSequence cs) ds := by
  induction cs generalizing inSequence with
  | nil => simp [width, openAfter]
  | cons c cs ih =>
    cases inSequence with
    | true => simp [width, openAfter, ih]
    | false =>
      by_cases hc : c = escapeChar
      · simp [width, openAfter, hc, ih]
      · simp [width, openAfter, hc, beq_eq_false_iff_ne.mpr hc, ih, Nat.add_right_comm]

theorem openAfter_append (inSequence : Bool) (cs ds : List Char) :
    openAfter inSequence (cs ++ ds) = openAfter (openAfter inSequence cs) ds := by
  induction cs generalizing inSequence with
  | nil => rfl
  | cons c cs ih =>
    cases inSequence with
    | true => exact ih _
    | false => exact ih _

/-- Blanks outside of a colour sequence are as wide as they are many, -/
theorem width_replicate (n : Nat) : width false (List.replicate n ' ') = n := by
  induction n with
  | zero => rfl
  | succ n ih => simp [List.replicate_succ, width, escapeChar, ih]

/-- and begin none. -/
theorem openAfter_replicate (n : Nat) : openAfter false (List.replicate n ' ') = false := by
  induction n with
  | zero => rfl
  | succ n ih => simpa [List.replicate_succ, openAfter, escapeChar] using ih

/-- What a line has in place of a character. -/
def shown (c : Char) : Char :=
  if c = '\n' ∨ c = '\r' ∨ c = '\t' then ' ' else c

theorem toList_oneLine (s : String) : (oneLine s).toList = s.toList.map shown :=
  String.toList_ofList

/-- A character that is shown as a blank neither begins a colour sequence nor ends one. -/
theorem shown_eq_iff {c d : Char} (hd : d = escapeChar ∨ d = 'm') : shown c = d ↔ c = d := by
  by_cases hc : c = '\n' ∨ c = '\r' ∨ c = '\t'
  · rcases hc with rfl | rfl | rfl <;> rcases hd with rfl | rfl <;> decide
  · rw [shown, if_neg hc]

theorem shown_beq {c d : Char} (hd : d = escapeChar ∨ d = 'm') : (shown c == d) = (c == d) :=
  Bool.eq_iff_iff.mpr (by rw [beq_iff_eq, beq_iff_eq, shown_eq_iff hd])

/-- **A text is shown as wide as it is.** -/
theorem width_map_shown (inSequence : Bool) (cs : List Char) :
    width inSequence (cs.map shown) = width inSequence cs := by
  induction cs generalizing inSequence with
  | nil => rfl
  | cons c cs ih => simp [width, bne, ih, shown_eq_iff, shown_beq]

theorem openAfter_map_shown (inSequence : Bool) (cs : List Char) :
    openAfter inSequence (cs.map shown) = openAfter inSequence cs := by
  induction cs generalizing inSequence with
  | nil => rfl
  | cons c cs ih => simp [openAfter, bne, ih, shown_beq]

/-! ### The width of a column -/

/-- **The width of the column at `k`** of some lines: the greatest width of its texts, and at least one. -/
def columnWidth (lines : List (List String)) (k : Nat) : Nat :=
  ((lines.filterMap fun cells => cells[k]?).map widthOf).foldl max 1

theorem getElem?_widen (ws : List Nat) (row : List String) (k : Nat) :
    (widen ws row)[k]? = ws[k]?.map fun w => (row[k]?.toList.map widthOf).foldl max w := by
  induction ws generalizing row k with
  | nil => cases row <;> simp [widen]
  | cons w ws ih =>
    cases row with
    | nil => simp [widen]
    | cons cell row =>
      cases k with
      | zero => simp [widen]
      | succ k => simpa [widen] using ih row k

theorem getElem?_foldl_widen (ws : List Nat) (rows : List (List String)) (k : Nat) :
    (rows.foldl widen ws)[k]? =
      ws[k]?.map fun w => ((rows.filterMap fun row => row[k]?).map widthOf).foldl max w := by
  induction rows generalizing ws with
  | nil => simp
  | cons row rows ih =>
    rw [List.foldl_cons, ih, getElem?_widen, Option.map_map]
    refine Option.map_congr fun w _ => ?_
    cases hcell : row[k]? <;> simp [hcell]

/-- **The width of a column** is that of its header and its cells. -/
theorem getElem?_widths (headers : List String) (rows : List (List String)) (k : Nat) :
    (widths headers rows)[k]? = headers[k]?.map fun _ => columnWidth (headers :: rows) k := by
  rw [widths, getElem?_foldl_widen, List.getElem?_map, Option.map_map]
  refine Option.map_congr fun h hh => ?_
  simp [columnWidth, hh, max_comm]

/-- No text of a column is wider than the column. -/
theorem widthOf_le_columnWidth {lines : List (List String)} {cells : List String} {k : Nat} {s : String}
    (hcells : cells ∈ lines) (hs : cells[k]? = some s) : widthOf s ≤ columnWidth lines k := by
  have hmem : widthOf s ∈ (lines.filterMap fun cells => cells[k]?).map widthOf :=
    List.mem_map_of_mem (List.mem_filterMap.mpr ⟨cells, hcells, hs⟩)
  rw [columnWidth, List.foldl_max]
  obtain ⟨w, hw⟩ := Option.isSome_iff_exists.mp (List.isSome_max?_of_mem hmem)
  rw [hw]
  exact Nat.le_trans ((List.max?_eq_some_iff.mp hw).2 _ hmem) (Nat.le_max_right _ _)

/-! ### Lines -/

/-- What stands between two columns. -/
def gap : List Char := [' ', ' ']

/-- A cell as it is shown, with blanks after it. -/
def piece (cell : String) (pad : Nat) : List Char :=
  cell.toList.map shown ++ List.replicate pad ' '

/-- Cells as they are shown, with blanks after each. -/
def pieces (cells : List String) (pads : List Nat) : List (List Char) :=
  List.zipWith piece cells pads

@[simp] theorem pieces_nil (cells : List String) : pieces cells [] = [] := by
  cases cells <;> rfl

theorem pieces_cons (cell : String) (cells : List String) (pad : Nat) (pads : List Nat) :
    pieces (cell :: cells) (pad :: pads) = piece cell pad :: pieces cells pads := rfl

theorem take_pieces (k : Nat) (cells : List String) (pads : List Nat) :
    (pieces cells pads).take k = pieces (cells.take k) (pads.take k) :=
  List.take_zipWith

/-- What a cell takes of a line with the blanks and the gap after it. -/
def extent (cell : String) (pad : Nat) : Nat :=
  widthOf cell + pad + gap.length

/-- The offset at which the column at `k` starts: the columns before it and the gaps after them. -/
def offset (ws : List Nat) (k : Nat) : Nat :=
  ((ws.take k).map (· + gap.length)).sum

/-- **A line shows cells in columns** of widths `ws`, with `pads` blanks after the cells. -/
structure InColumns (ws : List Nat) (cells : List String) (pads : List Nat) (line : List Char) : Prop where
  /-- Each cell fills its column with the blanks after it; cells without a column are left out. -/
  fills : List.Forall₂ (fun (column : String × Nat) pad => widthOf column.1 + pad = column.2)
    (cells.zip ws) pads
  /-- The line is the cells and their blanks, up to white space at its end. -/
  line_eq : ∃ blanks, (∀ c ∈ blanks, Text.isBlank c = true) ∧
    line ++ blanks = gap.intercalate (pieces cells pads)
  /-- A column starts where the cells before it end, with their blanks and gaps. -/
  starts : ∀ k < pads.length, (List.zipWith extent (cells.take k) (pads.take k)).sum = offset ws k
  /-- A column starts there also by the width of all that stands before it in the line, if every colour
  sequence in the cells before it ends in its cell. -/
  starts_in_line : ∀ k < pads.length, (∀ cell ∈ cells.take k, Closed cell) → ∃ before text after,
    gap.intercalate (pieces cells pads) = before ++ text ++ after ∧
      (pieces cells pads)[k]? = some text ∧ width false before = offset ws k

variable {ws : List Nat} {cells : List String} {pads : List Nat}

/-- A cell and its blanks are as wide as their column, if all colour sequences of the cell end, -/
theorem width_piece {cell : String} (hcell : Closed cell) (pad : Nat) :
    width false (piece cell pad ++ gap) = extent cell pad := by
  rw [piece, width_append, width_append, openAfter_append, openAfter_map_shown, width_map_shown, hcell,
    openAfter_replicate, width_replicate]
  rfl

/-- and leave none open. -/
theorem openAfter_piece {cell : String} (hcell : Closed cell) (pad : Nat) :
    openAfter false (piece cell pad ++ gap) = false := by
  rw [piece, openAfter_append, openAfter_append, openAfter_map_shown, hcell, openAfter_replicate]
  rfl

/-- Cells that close their colour sequences are as wide in a row as one by one. -/
theorem width_pieces (hcells : ∀ cell ∈ cells, Closed cell) (pads : List Nat) :
    width false ((pieces cells pads).flatMap (· ++ gap)) =
      (List.zipWith extent cells pads).sum := by
  induction cells generalizing pads with
  | nil => rfl
  | cons cell cells ih =>
    cases pads with
    | nil => rfl
    | cons pad pads =>
      obtain ⟨hcell, hrest⟩ := List.forall_mem_cons.mp hcells
      rw [pieces_cons, List.flatMap_cons, width_append, openAfter_piece hcell,
        width_piece hcell, ih hrest, List.zipWith_cons_cons, List.sum_cons]

/-- A line breaks before each of its pieces. -/
theorem intercalate_eq_append {sep : List Char} {pieces : List (List Char)} {k : Nat}
    (hk : k < pieces.length) :
    sep.intercalate pieces =
      (pieces.take k).flatMap (· ++ sep) ++ sep.intercalate (pieces.drop k) := by
  induction k generalizing pieces with
  | zero => simp
  | succ k ih =>
    match pieces, hk with
    | p :: q :: pieces, hk =>
      rw [List.intercalate_cons_cons, ih (by simpa using hk)]
      simp
    | [p], hk => simp at hk

/-- A line begins with its first piece. -/
theorem exists_intercalate_cons (sep piece : List Char) (pieces : List (List Char)) :
    ∃ after, sep.intercalate (piece :: pieces) = piece ++ after := by
  cases pieces with
  | nil => exact ⟨[], by simp⟩
  | cons next pieces => exact ⟨sep ++ sep.intercalate (next :: pieces), by simp⟩

/-- The cells up to a column fill the columns before it. -/
theorem sum_extents (h : List.Forall₂ (fun (column : String × Nat) pad => widthOf column.1 + pad = column.2)
    (cells.zip ws) pads) {k : Nat} (hk : k ≤ pads.length) :
    (List.zipWith extent (cells.take k) (pads.take k)).sum = offset ws k := by
  induction k generalizing cells ws pads with
  | zero => simp [offset]
  | succ k ih =>
    match cells, ws, pads, h with
    | cell :: cells, w :: ws, pad :: pads, .cons hcell hrest =>
      have htail := ih hrest (by simpa using hk)
      simp only [offset, List.take_succ_cons, List.zipWith_cons_cons, List.sum_cons, List.map_cons] at htail ⊢
      rw [htail, extent, hcell]
    | [], _, [], _ => simp at hk
    | _ :: _, [], [], _ => simp at hk

/-- **A column starts at its offset** by the width of what stands before it in the line. -/
theorem starts_in_line (h : List.Forall₂ (fun (column : String × Nat) pad => widthOf column.1 + pad = column.2)
    (cells.zip ws) pads) {k : Nat} (hk : k < pads.length) (hclosed : ∀ cell ∈ cells.take k, Closed cell) :
    ∃ before text after, gap.intercalate (pieces cells pads) = before ++ text ++ after ∧
      (pieces cells pads)[k]? = some text ∧ width false before = offset ws k := by
  have hlength : k < (pieces cells pads).length := by
    have hpads := h.length_eq
    rw [List.length_zip] at hpads
    rw [pieces, List.length_zipWith]
    omega
  obtain ⟨after, hafter⟩ := exists_intercalate_cons gap (pieces cells pads)[k] ((pieces cells pads).drop (k + 1))
  refine ⟨((pieces cells pads).take k).flatMap (· ++ gap), (pieces cells pads)[k], after, ?_,
    List.getElem?_eq_getElem hlength, ?_⟩
  · rw [intercalate_eq_append hlength, List.drop_eq_getElem_cons hlength, hafter, List.append_assoc]
  · rw [take_pieces, width_pieces hclosed, sum_extents h hk.le]

/-- The blanks that a line has after its cells. -/
def padsOf (ws : List Nat) (cells : List String) : List Nat :=
  (cells.zip ws).map fun column => column.2 - widthOf column.1

theorem toList_padded (cell : String) (w : Nat) :
    (padded cell w).toList = piece cell (w - widthOf cell) := by
  rw [padded, String.toList_append, toList_oneLine, String.toList_ofList, piece]
  have hwidth : widthOf (oneLine cell) = widthOf cell := by
    rw [widthOf, toList_oneLine, width_map_shown]
    rfl
  rw [hwidth]

theorem map_toList_padded (ws : List Nat) (cells : List String) :
    (cells.zipWith padded ws).map String.toList = pieces cells (padsOf ws cells) := by
  induction cells generalizing ws with
  | nil => rfl
  | cons cell cells ih =>
    cases ws with
    | nil => rfl
    | cons w ws =>
      rw [List.zipWith_cons_cons, List.map_cons, toList_padded, ih]
      rfl

/-- The blanks fill the columns, if these are wide enough. -/
theorem fills_padsOf (hfits : ∀ column ∈ cells.zip ws, widthOf column.1 ≤ column.2) :
    List.Forall₂ (fun (column : String × Nat) pad => widthOf column.1 + pad = column.2)
      (cells.zip ws) (padsOf ws cells) := by
  rw [padsOf, List.forall₂_map_right_iff, List.forall₂_same]
  exact fun column hcolumn => Nat.add_sub_of_le (hfits column hcolumn)

/-- A line breaks nowhere. -/
theorem not_mem_pieces (cells : List String) (pads : List Nat) :
    '\n' ∉ gap.intercalate (pieces cells pads) := by
  have hshown (c : Char) : shown c ≠ '\n' := by
    by_cases hc : c = '\n' ∨ c = '\r' ∨ c = '\t'
    · rw [shown, if_pos hc]
      decide
    · rw [shown, if_neg hc]
      exact fun h => hc (.inl h)
  induction cells generalizing pads with
  | nil => exact List.not_mem_nil
  | cons cell cells ih =>
    cases pads with
    | nil => exact List.not_mem_nil
    | cons pad pads =>
      have hpiece : '\n' ∉ piece cell pad := by simp [piece, hshown]
      have hgap : '\n' ∉ gap := by decide
      have hrest := ih pads
      rw [pieces_cons]
      rcases hpieces : pieces cells pads with _ | ⟨next, pieces⟩
      · rwa [List.intercalate_singleton]
      · rw [hpieces] at hrest
        rw [List.intercalate_cons_cons]
        simp [hpiece, hgap, hrest]

/-- **A line shows its cells in columns** that are wide enough for them. -/
theorem inColumns_line (hfits : ∀ column ∈ cells.zip ws, widthOf column.1 ≤ column.2) :
    ∃ pads text, (line ws cells).toList = text ++ ['\n'] ∧ '\n' ∉ text ∧ InColumns ws cells pads text := by
  have hfills := fills_padsOf hfits
  have hjoined : ("  ".intercalate (cells.zipWith padded ws)).toList =
      gap.intercalate (pieces cells (padsOf ws cells)) := by
    rw [String.toList_intercalate, map_toList_padded]
    rfl
  obtain ⟨blanks, hblanks, htext⟩ :=
    Text.exists_blanks (gap.intercalate (pieces cells (padsOf ws cells)))
  refine ⟨padsOf ws cells, Text.trimEnd (gap.intercalate (pieces cells (padsOf ws cells))),
    ?_, ?_, hfills, ⟨blanks, hblanks, htext⟩, fun k hk => sum_extents hfills hk.le,
    fun k hk hclosed => ?_⟩
  · rw [line, hjoined, String.toList_append, String.toList_ofList]
    rfl
  · intro hmem
    refine not_mem_pieces cells (padsOf ws cells) ?_
    rw [← htext]
    exact List.mem_append_left blanks hmem
  · exact starts_in_line hfills hk hclosed

/-! ### Tables -/

/-- The columns of a table are wide enough for its headers and its rows. -/
theorem widthOf_le_of_mem_zip {headers : List String} {rows : List (List String)}
    (hcells : cells ∈ headers :: rows) :
    ∀ column ∈ cells.zip (widths headers rows), widthOf column.1 ≤ column.2 := by
  rintro ⟨cell, w⟩ hcolumn
  obtain ⟨k, hk⟩ := List.mem_iff_getElem?.mp hcolumn
  obtain ⟨hcell, hw⟩ := List.getElem?_zip_eq_some.mp hk
  obtain ⟨_, -, rfl⟩ := Option.map_eq_some_iff.mp (getElem?_widths headers rows k ▸ hw)
  exact widthOf_le_columnWidth hcells hcell

/-- A row of dashes is as wide as it is long. -/
theorem widthOf_dashes (n : Nat) : widthOf (String.ofList (List.replicate n '-')) = n := by
  rw [widthOf, String.toList_ofList]
  induction n with
  | zero => rfl
  | succ n ih => simp [List.replicate_succ, width, escapeChar, ih]

/-- **The rule is a line of dashes**, in columns at least three wide. -/
theorem inColumns_rule (ws : List Nat) :
    ∃ pads text, (rule ws).toList = text ++ ['\n'] ∧ '\n' ∉ text ∧
      InColumns (ws.map ruleWidth)
        (ws.map fun w => String.ofList (List.replicate (ruleWidth w) '-')) pads text := by
  have hfits : ∀ column ∈ (ws.map fun w => String.ofList (List.replicate (ruleWidth w) '-')).zip
      (ws.map ruleWidth), widthOf column.1 ≤ column.2 := by
    rw [List.zip_map', List.forall_mem_map]
    exact fun w _ => (widthOf_dashes (ruleWidth w)).le
  have hline := inColumns_line hfits
  rwa [show (ws.map fun w => String.ofList (List.replicate (ruleWidth w) '-')) =
    (ws.map ruleWidth).map fun w => String.ofList (List.replicate w '-') by simp] at hline ⊢

/-- **A table is laid out in columns.** It is a line of headers, a rule and a line for each row, each of
them ended by a line end and with no other. A column is as wide as the widest of its header and its cells,
and at least one wide; each line shows as many of its cells as there are columns, each cell in its column. -/
theorem render_inColumns (headers : List String) (rows : List (List String)) :
    ∃ header rule body,
      (render headers rows).toList = (header :: rule :: body).flatMap (· ++ ['\n']) ∧
      (header :: rule :: body).length = rows.length + 2 ∧
      (∀ text ∈ header :: rule :: body, '\n' ∉ text) ∧
      (∀ k, (widths headers rows)[k]? = headers[k]?.map fun _ => columnWidth (headers :: rows) k) ∧
      (∃ pads, InColumns (widths headers rows) headers pads header) ∧
      (∃ pads, InColumns ((widths headers rows).map ruleWidth)
        ((widths headers rows).map fun w => String.ofList (List.replicate (ruleWidth w) '-')) pads rule) ∧
      List.Forall₂ (fun row text => ∃ pads, InColumns (widths headers rows) row pads text) rows body := by
  have hheaders : headers ∈ headers :: rows := List.mem_cons_self
  obtain ⟨headerPads, header, hheader, hheaderEnd, hheaderIn⟩ :=
    inColumns_line (widthOf_le_of_mem_zip hheaders)
  obtain ⟨rulePads, ruleText, hrule, hruleEnd, hruleIn⟩ := inColumns_rule (widths headers rows)
  have hbody : ∀ row ∈ rows, ∃ pads text, (line (widths headers rows) row).toList = text ++ ['\n'] ∧
      '\n' ∉ text ∧ InColumns (widths headers rows) row pads text :=
    fun row hrow => inColumns_line (widthOf_le_of_mem_zip (List.mem_cons_of_mem headers hrow))
  choose! pads text hline hend hin using hbody
  refine ⟨header, ruleText, rows.map text, ?_, by simp, ?_, getElem?_widths headers rows,
    ⟨headerPads, hheaderIn⟩, ⟨rulePads, hruleIn⟩, ?_⟩
  · rw [render, String.toList_append, String.toList_append, hheader, hrule, String.toList_join,
      List.flatMap_map, List.flatMap_cons, List.flatMap_cons, List.flatMap_map, List.append_assoc]
    rw [List.flatMap_congr hline]
  · simp only [List.forall_mem_cons, List.forall_mem_map]
    exact ⟨hheaderEnd, hruleEnd, hend⟩
  · rw [List.forall₂_map_right_iff, List.forall₂_same]
    exact fun row hrow => ⟨pads row, hin row hrow⟩

/-- A row with a colour sequence and a line break, one that is too short, and one that is too long. -/
example : render ["a", "bb"] [["\x1b[1mlong\x1b[0m\nvalue", "x"], [], ["1", "2", "3"]] =
    "a           bb\n----------  ---\n\x1b[1mlong\x1b[0m value  x\n\n1           2\n" := by
  decide

end Table

end Colonnade
