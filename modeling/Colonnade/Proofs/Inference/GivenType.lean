import Colonnade.Proofs.Inference.Place
import Colonnade.Proofs.Inference.Session

/-!
# Columns read as a given type

A column of texts can be read as a given type instead of being searched for one. Then the first parser of
the type has to convert every text that the cells show; otherwise the reading fails and reports the first
cell whose text is *rejected* (`Registry.Rejects`), with the white space around it.

| the parser of the type | the search | reading as the type |
| --- | --- | --- |
| converts all, and the search stops at it | a column | the same column |
| converts all, and may be tried | stops at it or in front of it | a column |
| rejects a cell | goes on behind it | fails at the first such cell |

`Registry.parse_agrees_with_search` says this for every registry. Where no cell shows a text the two may
differ: a reading gives a column of nulls of its type, while a search gives one of texts.
-/

namespace Colonnade

namespace Registry

variable (r : Registry) (o : Options)

/-- **The parser rejects a cell**: it does not convert the text that the cell shows. -/
def Rejects (p : Parser) (cell : Option Value) : Prop :=
  ∃ s, r.shown o cell = some s ∧ p.convert (r.contextOf o) s = none

variable {r o} {p : Parser} {cells : List (Option Value)} {type : ColumnType} {name : String}
  {nullable : Bool} {d : Column}

theorem converts_iff_forall_not_rejects :
    r.Converts o p cells ↔ ∀ cell ∈ cells, ¬r.Rejects o p cell := by
  constructor
  · rintro h cell hcell ⟨s, hs, hnone⟩
    obtain ⟨v, hv⟩ := h cell hcell s hs
    rw [hnone] at hv
    cases hv
  · intro h cell hcell s hs
    refine Option.ne_none_iff_exists'.mp fun hnone => ?_
    exact h cell hcell ⟨s, hs, hnone⟩

/-- A rejected cell holds a value that does not mean null. -/
theorem rejects_some_iff {v : Value} :
    r.Rejects o p (some v) ↔
      ¬r.MeansNull o v ∧ p.convert (r.contextOf o) (Text.trim (Cell.textOf v)) = none := by
  by_cases h : r.MeansNull o v <;> simp [Rejects, shown, h]

theorem not_rejects_none : ¬r.Rejects o p none := by
  rintro ⟨s, hs, -⟩
  cases hs

/-- Of the cells that are rejected one comes first. -/
theorem exists_first_rejected (h : ∃ cell ∈ cells, r.Rejects o p cell) :
    ∃ before v after, cells = before ++ some v :: after ∧
      (∀ cell ∈ before, ¬r.Rejects o p cell) ∧ r.Rejects o p (some v) := by
  induction cells with
  | nil =>
    obtain ⟨cell, hcell, -⟩ := h
    exact absurd hcell List.not_mem_nil
  | cons first cells ih =>
    by_cases hfirst : r.Rejects o p first
    · cases first with
      | none => exact absurd hfirst not_rejects_none
      | some v => exact ⟨[], v, cells, rfl, by simp, hfirst⟩
    · obtain ⟨cell, hcell, hrejects⟩ := h
      rcases List.mem_cons.mp hcell with rfl | hcell
      · exact absurd hrejects hfirst
      · obtain ⟨before, v, after, rfl, hbefore, hv⟩ := ih ⟨cell, hcell, hrejects⟩
        exact ⟨first :: before, v, after, rfl, List.forall_mem_cons.mpr ⟨hfirst, hbefore⟩, hv⟩

/-! ### The cells of a reading -/

/-- **A cell that is not rejected is read as in a search**, -/
theorem convertCell_of_not_rejects {cell : Option Value} (h : ¬r.Rejects o p cell) :
    convertCell p (r.contextOf o) type (Cell.ofValue (r.nullStringsFor o) cell) =
      .ok (r.reading o p cell) := by
  cases cell with
  | none => rfl
  | some v =>
    by_cases hnull : r.MeansNull o v
    · simp [ofValue_some, hnull, convertCell, reading, shown]
    · rw [rejects_some_iff, not_and] at h
      obtain ⟨w, hw⟩ := Option.ne_none_iff_exists'.mp (h hnull)
      simp [ofValue_some, hnull, convertCell, reading, shown, hw]

/-- and one that is rejected is reported with its whole text. -/
theorem convertCell_of_rejects {v : Value} (h : r.Rejects o p (some v)) :
    convertCell p (r.contextOf o) type (Cell.ofValue (r.nullStringsFor o) (some v)) =
      .error (.typeConversion (Cell.textOf v) .string type) := by
  obtain ⟨hnull, hnone⟩ := rejects_some_iff.mp h
  simp [ofValue_some, hnull, convertCell, hnone]

/-- A cell is read if and only if it is not rejected. -/
theorem exists_convertCell_iff {cell : Option Value} :
    (∃ value, convertCell p (r.contextOf o) type (Cell.ofValue (r.nullStringsFor o) cell) =
      .ok value) ↔ ¬r.Rejects o p cell := by
  constructor
  · rintro ⟨value, hvalue⟩ hrejects
    cases cell with
    | none => exact not_rejects_none hrejects
    | some v =>
      rw [convertCell_of_rejects hrejects] at hvalue
      cases hvalue
  · intro h
    exact ⟨_, convertCell_of_not_rejects h⟩

/-! ### The column of a reading -/

/-- What is read of a column of texts: its cells, by the first parser of the type. -/
theorem parse_eq (hp : r.parserFor? type = some p) (htype : type ≠ .string)
    (ho : ∀ pattern ∈ o.pattern, Pattern.isValid pattern) :
    r.parse o (.value name .string nullable cells) type =
      (cells.map (Cell.ofValue (r.nullStringsFor o))).mapM (convertCell p (r.contextOf o) type) >>=
        Column.ofCells name type := by
  have hother : ColumnType.string ≠ type := htype.symm
  simp only [parse, hp, Column.type, if_neg hother, context_eq_ok ho]
  rfl

/-- **A parser that converts the column gives the column of its readings.** -/
theorem parse_of_converts (hp : r.parserFor? type = some p) (htype : type ≠ .string)
    (ho : ∀ pattern ∈ o.pattern, Pattern.isValid pattern) (h : r.Converts o p cells) :
    r.parse o (.value name .string nullable cells) type =
      Column.ofCells name type (cells.map (r.reading o p)) := by
  have hread : (cells.map (Cell.ofValue (r.nullStringsFor o))).mapM
      (convertCell p (r.contextOf o) type) = .ok (cells.map (r.reading o p)) := by
    rw [mapM_eq_ok_iff, List.forall₂_map_left_iff, List.forall₂_map_right_iff, List.forall₂_same]
    intro cell hcell
    exact convertCell_of_not_rejects (converts_iff_forall_not_rejects.mp h cell hcell)
  rw [parse_eq hp htype ho, hread]
  rfl

/-- What has been read has been converted. -/
theorem converts_of_parse (hp : r.parserFor? type = some p) (htype : type ≠ .string)
    (h : r.parse o (.value name .string nullable cells) type = .ok d) :
    (∀ pattern ∈ o.pattern, Pattern.isValid pattern) ∧ r.Converts o p cells := by
  rcases context_cases r o with ⟨ho, -⟩ | ⟨pattern, -, -, hcontext⟩
  · refine ⟨ho, converts_iff_forall_not_rejects.mpr fun cell hcell => ?_⟩
    rw [parse_eq hp htype ho] at h
    obtain ⟨values, hvalues, -⟩ := bind_eq_ok_iff.mp h
    obtain ⟨value, -, hvalue⟩ := exists_of_mapM_eq_ok hvalues (List.mem_map_of_mem hcell)
    exact exists_convertCell_iff.mp ⟨value, hvalue⟩
  · have hother : ColumnType.string ≠ type := htype.symm
    simp only [parse, hp, Column.type, if_neg hother, hcontext] at h
    cases h

/-- **A reading reports the first cell that is rejected**, and nothing else fails to convert. -/
theorem parse_eq_typeConversion_iff (hp : r.parserFor? type = some p) (htype : type ≠ .string)
    (ho : ∀ pattern ∈ o.pattern, Pattern.isValid pattern) {value : String}
    {source target : ColumnType} :
    r.parse o (.value name .string nullable cells) type =
        .error (.typeConversion value source target) ↔
      source = .string ∧ target = type ∧ ∃ before v after, cells = before ++ some v :: after ∧
        (∀ cell ∈ before, ¬r.Rejects o p cell) ∧ r.Rejects o p (some v) ∧
          value = Cell.textOf v := by
  rw [parse_eq hp htype ho, bind_eq_error_iff]
  constructor
  · rintro (h | ⟨values, -, h⟩)
    · obtain ⟨before', cell', after', hsplit, hbefore, hcell⟩ := mapM_eq_error_iff.mp h
      obtain ⟨before, rest, rfl, rfl, hrest⟩ := List.map_eq_append_iff.mp hsplit
      obtain ⟨cell, after, rfl, rfl, -⟩ := List.map_eq_cons_iff.mp hrest
      have hkept : ∀ cell ∈ before, ¬r.Rejects o p cell := fun cell hcell =>
        exists_convertCell_iff.mp (hbefore _ (List.mem_map_of_mem hcell))
      have hrejects : r.Rejects o p cell := by
        by_contra hnot
        rw [convertCell_of_not_rejects hnot] at hcell
        cases hcell
      cases cell with
      | none => exact absurd hrejects not_rejects_none
      | some v =>
        rw [convertCell_of_rejects hrejects] at hcell
        cases hcell
        exact ⟨rfl, rfl, before, v, after, rfl, hkept, hrejects, rfl⟩
    · -- rows that have been read may fail to make a frame, but no text is to blame then
      exact (Column.ofColumns_of_shape (fun _ _ => Piece.ofColumns_of_stack) h).elim
  · rintro ⟨rfl, rfl, before, v, after, rfl, hbefore, hrejects, rfl⟩
    refine .inl (mapM_eq_error_iff.mpr ⟨before.map (Cell.ofValue (r.nullStringsFor o)),
      Cell.ofValue (r.nullStringsFor o) (some v), after.map (Cell.ofValue (r.nullStringsFor o)),
      by rw [List.map_append, List.map_cons], fun cell' hcell' => ?_, convertCell_of_rejects hrejects⟩)
    obtain ⟨cell, hcell, rfl⟩ := List.mem_map.mp hcell'
    exact exists_convertCell_iff.mpr (hbefore cell hcell)

/-! ### The column of a search -/

/-- **A parser of another type than texts settles a column with texts** by the column of its readings. -/
theorem Settled.eq_ofCells {x : Except FrameError Column} (h : r.Settled o p name nullable cells x)
    (htype : p.type ≠ .string) (htext : ∃ cell ∈ cells, r.shown o cell ≠ none) :
    x = Column.ofCells name p.type (cells.map (r.reading o p)) := by
  by_cases hrow : p.type = .row
  · rw [h.rows hrow htext, hrow]
  by_cases hframe : p.type = .frame
  · rw [h.frames hframe htext, hframe]
    rfl
  rw [(h.values hrow hframe (fun hstring => absurd hstring htype) htext).1]
  exact (Column.shape_eq_ofValues hrow hframe).symm

/-- The parser of a type is the first one of it. -/
theorem exists_firstAt_of_parserFor? (hp : r.parserFor? type = some p) :
    ∃ j, r.FirstAt (fun q => q.type = type) j p := by
  obtain ⟨htype, j, hj, hget, hbefore⟩ := List.find?_eq_some_iff_getElem.mp hp
  refine ⟨j, List.getElem?_eq_some_iff.mpr ⟨hj, hget⟩, by simpa using htype, ?_⟩
  intro k hk q hq hqtype
  obtain ⟨hlt, rfl⟩ := List.getElem?_eq_some_iff.mp hq
  have hnot := hbefore k hk
  simp [hqtype] at hnot

/-- **A search stops no later than at a parser that would read the column**, if that parser may be tried. -/
theorem exists_place?_le {j : Nat} (ho : ∀ pattern ∈ o.pattern, Pattern.isValid pattern)
    (hp : r.parsers[j]? = some p) (h : r.Accepts o p cells) :
    ∃ i q, r.place? o cells = some i ∧ r.parsers[i]? = some q ∧ i ≤ j := by
  obtain ⟨i, q, hij, hq⟩ := exists_firstAt (P := fun q => r.Accepts o q cells) hp h
  exact ⟨i, q, place?_eq_some_iff.mpr ⟨ho, q, hq⟩, hq.parser, hij⟩

/-- **Reading as a type agrees with the search for one.** -/
theorem parse_agrees_with_search (r : Registry) (o : Options) (name : String) (nullable : Bool)
    (cells : List (Option Value)) :
    let column := Column.value name .string nullable cells
    (∀ i p d, r.place? o cells = some i → r.parsers[i]? = some p → r.parserFor? p.type = some p →
        p.type ≠ .string → (∃ s, r.Shows o cells s) → r.tryParse o column = .ok d →
          r.parse o column p.type = .ok d) ∧
      (∀ type p d, r.parserFor? type = some p → type ≠ .string → type ∉ o.skipTypes →
        (∀ cover ∈ p.coveredBy, ¬r.Considers o cover) → (∃ s, r.Shows o cells s) →
          r.parse o column type = .ok d →
            ∃ i q j, r.place? o cells = some i ∧ r.parsers[i]? = some q ∧
              r.Settled o q name nullable cells (r.tryParse o column) ∧
              r.FirstAt (fun q => q.type = type) j p ∧ i ≤ j ∧
              (i = j → r.tryParse o column = .ok d)) ∧
      ∀ type p, r.parserFor? type = some p → type ≠ .string →
        (∀ pattern ∈ o.pattern, Pattern.isValid pattern) →
          ((∃ value source target, r.parse o column type =
              .error (.typeConversion value source target)) ↔ ∃ cell ∈ cells, r.Rejects o p cell) ∧
            ∀ value source target, r.parse o column type =
                .error (.typeConversion value source target) ↔
              source = .string ∧ target = type ∧ ∃ before v after,
                cells = before ++ some v :: after ∧ (∀ cell ∈ before, ¬r.Rejects o p cell) ∧
                  r.Rejects o p (some v) ∧ value = Cell.textOf v := by
  intro column
  refine ⟨fun i p d hi hget hp htype htext hd => ?_,
    fun type p d hp htype hskip hcover htext hd => ?_, fun type p hp htype ho => ⟨?_, ?_⟩⟩
  · have hfirst := firstAt_of_place? hi hget
    have hsettled := (settled_of_place? hi hget name nullable).eq_ofCells htype
      (exists_shows_iff.mp htext)
    rw [parse_of_converts hp htype (place?_eq_some_iff.mp hi).1 hfirst.holds.2, ← hsettled]
    exact hd
  · obtain ⟨ho, hconverts⟩ := converts_of_parse hp htype hd
    obtain ⟨j, hj⟩ := exists_firstAt_of_parserFor? hp
    have heligible : r.Eligible o p := ⟨.inr (hj.holds ▸ hskip), hcover⟩
    obtain ⟨i, q, hi, hq, hij⟩ := exists_place?_le ho hj.parser ⟨heligible, hconverts⟩
    refine ⟨i, q, j, hi, hq, settled_of_place? hi hq name nullable, hj, hij, ?_⟩
    rintro rfl
    rw [(settled_of_place? hi hj.parser name nullable).eq_ofCells (hj.holds ▸ htype)
      (exists_shows_iff.mp htext), hj.holds, ← parse_of_converts hp htype ho hconverts]
    exact hd
  · constructor
    · rintro ⟨value, source, target, h⟩
      obtain ⟨-, -, before, v, after, hsplit, -, hrejects, -⟩ :=
        (parse_eq_typeConversion_iff hp htype ho).mp h
      exact ⟨some v, hsplit ▸ List.mem_append_right before List.mem_cons_self, hrejects⟩
    · intro h
      obtain ⟨before, v, after, hsplit, hbefore, hrejects⟩ := exists_first_rejected h
      exact ⟨Cell.textOf v, .string, type, (parse_eq_typeConversion_iff hp htype ho).mpr
        ⟨rfl, rfl, before, v, after, hsplit, hbefore, hrejects, rfl⟩⟩
  · intro value source target
    exact parse_eq_typeConversion_iff hp htype ho

/-- Integers with white space around them, a null and a text that means null: they are found to be integers
and can be read as such, or as long integers. Another cell is none, and is reported with its white space. -/
theorem parse_agrees_with_search_integers :
    let r := Registry.default
    let cells := [some (.ofText " 7"), none, some (.ofText "NA"), some (.ofText "12 ")]
    let column := Column.value "n" .string true cells
    let longer := cells ++ [some (.ofText " x "), some (.ofText "y")]
    let ints := Column.ofValues "n" .int [some (.scalar (.int 7)), none, none, some (.scalar (.int 12))]
    let longs :=
      Column.ofValues "n" .long [some (.scalar (.long 7)), none, none, some (.scalar (.long 12))]
    r.place? {} cells = some 0 ∧ r.parsers[0]? = some .int ∧ r.parserFor? .int = some .int ∧
      (∃ s, r.Shows {} cells s) ∧ r.tryParse {} column = .ok ints ∧
      r.parse {} column .int = .ok ints ∧
      r.parserFor? .long = some .long ∧ r.parse {} column .long = .ok longs ∧
      (∃ i q j, r.place? {} cells = some i ∧ r.parsers[i]? = some q ∧
        r.Settled {} q "n" true cells (r.tryParse {} column) ∧
        r.FirstAt (fun q => q.type = .long) j .long ∧ i ≤ j) ∧
      ((∃ value source target, r.parse {} (.value "n" .string true longer) .int =
        .error (.typeConversion value source target)) ↔ ∃ cell ∈ longer, r.Rejects {} .int cell) ∧
      r.parse {} (.value "n" .string true longer) .int =
        .error (.typeConversion " x " .string .int) := by
  intro r cells column longer ints longs
  obtain ⟨hsearch, hread, -⟩ := parse_agrees_with_search r {} "n" true cells
  obtain ⟨hfails, hfirst⟩ := (parse_agrees_with_search r {} "n" true longer).2.2 .int .int rfl
    (by decide) (by simp)
  have hplace : r.place? {} cells = some 0 := by rfl
  have htext : ∃ s, r.Shows {} cells s := ⟨"7", _, List.mem_cons_self, by rfl⟩
  have hints : r.tryParse {} column = .ok ints := by rfl
  have hlongs : r.parse {} column .long = .ok longs := by rfl
  obtain ⟨i, q, j, hi, hq, hsettled, hj, hij, -⟩ :=
    hread .long .long longs rfl (by decide) (by simp) (by simp [Parser.long, Parser.ofScalar]) htext
      hlongs
  have hbefore : ∀ cell ∈ cells, ¬r.Rejects {} .int cell :=
    converts_iff_forall_not_rejects.mp (firstAt_of_place? hplace (p := .int) rfl).holds.2
  have hrejects : r.Rejects {} .int (some (.ofText " x ")) := ⟨"x", by rfl, by rfl⟩
  exact ⟨hplace, rfl, rfl, htext, hints, hsearch 0 .int ints hplace rfl rfl (by decide) htext hints,
    rfl, hlongs, ⟨i, q, j, hi, hq, hsettled, hj, hij⟩, hfails,
    (hfirst _ _ _).mpr
      ⟨rfl, rfl, cells, .ofText " x ", [some (.ofText "y")], rfl, hbefore, hrejects, rfl⟩⟩

end Registry

end Colonnade
