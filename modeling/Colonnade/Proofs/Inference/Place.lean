import Colonnade.Proofs.Inference.Cascade
import Colonnade.Proofs.Stack.Rows
import Mathlib.Data.Nat.Find

/-!
# The place at which the search for a type stops

The search for the type of a column of texts stops at a *place* of the registry (`Registry.place?`): that
of the first parser that may be tried and converts every text that the cells show. All that a column has to
say in the search is therefore the **set** of these texts (`Registry.Shows`); in which rows they stand, how
often, and what stands between them is of no account.

| the rows | the place |
| --- | --- |
| in another order | the same |
| with nulls, with texts that mean null, with copies of cells added | the same |
| followed by others | the first that suits both, so the same or a later one |

In another order the rows also give the same column in that order, unless they are read as rows of a group:
the columns of a group come in the order in which its rows show them first. `Registry.search_goes_by_texts`
says all this.
-/

namespace Colonnade

namespace Registry

variable (r : Registry) (o : Options)

/-- **A text that the cells show** to parsers. -/
def Shows (cells : List (Option Value)) (s : String) : Prop :=
  ∃ cell ∈ cells, r.shown o cell = some s

/-- **The parser accepts a column**: it may be tried and converts every text. -/
def Accepts (p : Parser) (cells : List (Option Value)) : Prop :=
  r.Eligible o p ∧ r.Converts o p cells

/-- **The first parser with a property**, and its place. -/
structure FirstAt (P : Parser → Prop) (i : Nat) (p : Parser) : Prop where
  parser : r.parsers[i]? = some p
  holds : P p
  /-- No parser in front of it has the property. -/
  before : ∀ j < i, ∀ q, r.parsers[j]? = some q → ¬P q

/-- **The place at which the search for a type stops.** There is none if the call asks for a pattern that is
not valid, and none if no parser accepts the cells. -/
def place? (cells : List (Option Value)) : Option Nat :=
  match r.context o with
  | .ok context =>
    r.parsers.findIdx? fun p => isEligible (r.considered o) p &&
      (attempt? context (cells.map (Cell.ofValue (r.nullStringsFor o))) p).isSome
  | .error _ => none

variable {r o} {p q : Parser} {a b cells : List (Option Value)} {i j : Nat}

/-! ### The first parser with a property -/

section First

variable {P Q : Parser → Prop}

theorem FirstAt.congr (hPQ : ∀ q, P q ↔ Q q) (h : r.FirstAt P i p) : r.FirstAt Q i p :=
  ⟨h.parser, (hPQ p).mp h.holds, fun j hj q hq hQ => h.before j hj q hq ((hPQ q).mpr hQ)⟩

/-- **Where some parser has the property there is a first one.** -/
theorem exists_firstAt (hq : r.parsers[j]? = some q) (hholds : P q) :
    ∃ i p, i ≤ j ∧ r.FirstAt P i p := by
  classical
  have hex : ∃ i p, r.parsers[i]? = some p ∧ P p := ⟨j, q, hq, hholds⟩
  obtain ⟨p, hp, hP⟩ := Nat.find_spec hex
  refine ⟨Nat.find hex, p, Nat.find_min' hex ⟨q, hq, hholds⟩, hp, hP, ?_⟩
  intro k hk s hs hPs
  exact Nat.find_min hex hk ⟨s, hs, hPs⟩

end First

/-! ### What a search looks at -/

theorem shown_eq_none_iff {cell : Option Value} :
    r.shown o cell = none ↔ cell = none ∨ ∃ v, cell = some v ∧ r.MeansNull o v := by
  cases cell with
  | none => simp [shown]
  | some v => by_cases h : r.MeansNull o v <;> simp [shown, h]

/-- Some cell shows a text, or none does. -/
theorem shown_cases (r : Registry) (o : Options) (cells : List (Option Value)) :
    (∀ cell ∈ cells, r.shown o cell = none) ∨ ∃ cell ∈ cells, r.shown o cell ≠ none := by
  by_cases hnone : ∀ cell ∈ cells, r.shown o cell = none
  · exact .inl hnone
  · push Not at hnone
    exact .inr hnone

/-- A parser of texts leaves a column as it is, unless some text means null. -/
theorem copied_cases (r : Registry) (o : Options) (p : Parser) (cells : List (Option Value)) :
    (p.type = .string ∧ ∀ v, some v ∈ cells → ¬r.MeansNull o v) ∨
      (p.type = .string → ∃ v, some v ∈ cells ∧ r.MeansNull o v) := by
  by_cases hcopy : p.type = .string ∧ ∀ v, some v ∈ cells → ¬r.MeansNull o v
  · exact .inl hcopy
  · push Not at hcopy
    exact .inr hcopy

theorem exists_shows_iff : (∃ s, r.Shows o cells s) ↔ ∃ cell ∈ cells, r.shown o cell ≠ none := by
  constructor
  · rintro ⟨s, cell, hcell, hs⟩
    exact ⟨cell, hcell, by simp [hs]⟩
  · rintro ⟨cell, hcell, hs⟩
    obtain ⟨s, hs⟩ := Option.ne_none_iff_exists'.mp hs
    exact ⟨s, cell, hcell, hs⟩

/-- Nulls, texts that mean null and cells that are there already add no text. -/
theorem shows_iff_of_added (hmem : ∀ cell ∈ a, cell ∈ cells)
    (hadded : ∀ cell ∈ cells, cell ∈ a ∨ r.shown o cell = none) (s : String) :
    r.Shows o cells s ↔ r.Shows o a s := by
  constructor
  · rintro ⟨cell, hcell, hs⟩
    rcases hadded cell hcell with hcell | hnone
    · exact ⟨cell, hcell, hs⟩
    · rw [hnone] at hs
      cases hs
  · rintro ⟨cell, hcell, hs⟩
    exact ⟨cell, hmem cell hcell, hs⟩

/-- **A parser looks at the texts only.** -/
theorem converts_iff :
    r.Converts o p cells ↔ ∀ s, r.Shows o cells s → ∃ v, p.convert (r.contextOf o) s = some v := by
  constructor
  · rintro h s ⟨cell, hcell, hs⟩
    exact h cell hcell s hs
  · intro h cell hcell s hs
    exact h s ⟨cell, hcell, hs⟩

theorem converts_append_iff :
    r.Converts o p (a ++ b) ↔ r.Converts o p a ∧ r.Converts o p b := by
  simp only [Converts, List.forall_mem_append]

theorem accepts_congr (h : ∀ s, r.Shows o a s ↔ r.Shows o b s) (p : Parser) :
    r.Accepts o p a ↔ r.Accepts o p b := by
  rw [Accepts, Accepts, converts_iff, converts_iff]
  simp only [h]

/-! ### The place -/

/-- The test of a search finds the parsers that accept the cells. -/
theorem isEligible_and_isSome_attempt?_iff (hp : p ∈ r.parsers) :
    (isEligible (r.considered o) p &&
      (attempt? (r.contextOf o) (cells.map (Cell.ofValue (r.nullStringsFor o))) p).isSome) = true ↔
      r.Accepts o p cells := by
  rw [Bool.and_eq_true, isEligible_iff hp, Accepts]
  refine and_congr_right fun _ => ?_
  by_cases h : r.Converts o p cells
  · simp [attempt?_of_converts h, h]
  · simp [attempt?_of_not_converts h, h]

/-- **A search stops at the first parser that accepts the cells.** -/
theorem place?_eq_some_iff :
    r.place? o cells = some i ↔ (∀ pattern ∈ o.pattern, Pattern.isValid pattern) ∧
      ∃ p, r.FirstAt (fun p => r.Accepts o p cells) i p := by
  rcases context_cases r o with ⟨ho, hcontext⟩ | ⟨pattern, hpattern, hvalid, hcontext⟩
  · rw [place?, hcontext, and_iff_right ho]
    dsimp only
    rw [List.findIdx?_eq_some_iff_getElem]
    constructor
    · rintro ⟨hi, htest, hbefore⟩
      refine ⟨r.parsers[i], List.getElem?_eq_getElem hi,
        (isEligible_and_isSome_attempt?_iff (List.getElem_mem hi)).mp htest, ?_⟩
      intro j hj q hq hacc
      obtain ⟨hlt, rfl⟩ := List.getElem?_eq_some_iff.mp hq
      exact hbefore j hj ((isEligible_and_isSome_attempt?_iff (List.getElem_mem hlt)).mpr hacc)
    · rintro ⟨p, h⟩
      obtain ⟨hi, rfl⟩ := List.getElem?_eq_some_iff.mp h.parser
      refine ⟨hi, (isEligible_and_isSome_attempt?_iff (List.getElem_mem hi)).mpr h.holds, ?_⟩
      intro j hj htest
      have hlt : j < r.parsers.length := by omega
      exact h.before j hj _ (List.getElem?_eq_getElem hlt)
        ((isEligible_and_isSome_attempt?_iff (List.getElem_mem hlt)).mp htest)
  · -- a pattern that is not valid ends the call before the search
    rw [place?, hcontext]
    simp only [reduceCtorEq, false_iff, not_and]
    intro ho
    exact absurd (ho pattern hpattern) hvalid

/-- The parser at the place accepts the cells, and no parser in front of it does. -/
theorem firstAt_of_place? (h : r.place? o cells = some i) (hp : r.parsers[i]? = some p) :
    r.FirstAt (fun p => r.Accepts o p cells) i p := by
  obtain ⟨-, q, hq⟩ := place?_eq_some_iff.mp h
  obtain rfl : q = p := Option.some.inj (hq.parser.symm.trans hp)
  exact hq

/-- **The place depends on the texts alone.** -/
theorem place?_congr (h : ∀ s, r.Shows o a s ↔ r.Shows o b s) : r.place? o a = r.place? o b := by
  refine Option.ext fun i => ?_
  rw [place?_eq_some_iff, place?_eq_some_iff]
  refine and_congr_right fun _ => exists_congr fun p => ?_
  exact ⟨FirstAt.congr (accepts_congr h), FirstAt.congr fun q => (accepts_congr h q).symm⟩

/-- **Further rows move the place back**, if at all. -/
theorem exists_place?_of_append (h : r.place? o (a ++ b) = some i) :
    ∃ j k, r.place? o a = some j ∧ r.place? o b = some k ∧ j ≤ i ∧ k ≤ i := by
  obtain ⟨ho, p, hfirst⟩ := place?_eq_some_iff.mp h
  obtain ⟨heligible, hconverts⟩ := hfirst.holds
  obtain ⟨ha, hb⟩ := converts_append_iff.mp hconverts
  obtain ⟨j, q, hji, hq⟩ :=
    exists_firstAt (P := fun q => r.Accepts o q a) hfirst.parser ⟨heligible, ha⟩
  obtain ⟨k, s, hki, hs⟩ :=
    exists_firstAt (P := fun q => r.Accepts o q b) hfirst.parser ⟨heligible, hb⟩
  exact ⟨j, k, place?_eq_some_iff.mpr ⟨ho, q, hq⟩, place?_eq_some_iff.mpr ⟨ho, s, hs⟩, hji, hki⟩

/-- **The parser at the place settles the column**, -/
theorem settled_of_place? (h : r.place? o cells = some i) (hp : r.parsers[i]? = some p)
    (name : String) (nullable : Bool) :
    r.Settled o p name nullable cells (r.tryParse o (.value name .string nullable cells)) := by
  have hfirst := firstAt_of_place? h hp
  obtain ⟨hi, rfl⟩ := List.getElem?_eq_some_iff.mp hp
  have hsplit : r.parsers = r.parsers.take i ++ r.parsers[i] :: r.parsers.drop (i + 1) := by
    rw [← List.drop_eq_getElem_cons hi, List.take_append_drop]
  have hbefore : ∀ q ∈ r.parsers.take i, r.Eligible o q → ¬r.Converts o q cells := by
    intro q hq heligible hconverts
    obtain ⟨j, hj, hget⟩ := List.mem_take_iff_getElem.mp hq
    exact hfirst.before j (by omega) q (List.getElem?_eq_some_iff.mpr ⟨by omega, hget⟩)
      ⟨heligible, hconverts⟩
  rw [tryParse_eq (place?_eq_some_iff.mp h).1,
    first?_eq_some hsplit hfirst.holds.1 hfirst.holds.2 hbefore]
  exact settled_settle hfirst.holds.2 name nullable

/-- and a column that is found has been found at a place. -/
theorem exists_place?_of_tryParse {name : String} {nullable : Bool} {d : Column}
    (h : r.tryParse o (.value name .string nullable cells) = .ok d) :
    ∃ i p, r.place? o cells = some i ∧ r.parsers[i]? = some p := by
  rcases context_cases r o with ⟨ho, -⟩ | ⟨pattern, -, -, hcontext⟩
  · by_cases hsome : ∃ q ∈ r.parsers, r.Accepts o q cells
    · obtain ⟨q, hq, haccepts⟩ := hsome
      obtain ⟨j, hj⟩ := List.getElem?_of_mem hq
      obtain ⟨i, p, -, hfirst⟩ := exists_firstAt (P := fun q => r.Accepts o q cells) hj haccepts
      exact ⟨i, p, place?_eq_some_iff.mpr ⟨ho, p, hfirst⟩, hfirst.parser⟩
    · have hno : ∀ q ∈ r.parsers, r.Eligible o q → ¬r.Converts o q cells := by
        intro q hq heligible hconverts
        exact hsome ⟨q, hq, heligible, hconverts⟩
      rw [tryParse_eq ho, first?_eq_none hno] at h
      cases h
  · rw [tryParse, hcontext] at h
    cases h

end Registry

/-! ### Rows in another order -/

/-- **The same rows in another order**: row by row, the column `e` has the cells of `d` at the places that
are listed. -/
structure Column.Reordered (order : List Nat) (d e : Column) : Prop where
  name : e.name = d.name
  type : e.type = d.type
  nullable : e.isNullable = d.isNullable
  cells : e.cells = order.map d.cell

section Reordered

variable {order : List Nat} {cells : List (Option Value)} {name : String}

theorem Column.map_cell_perm {c : Column} (horder : order.Perm (List.range c.length)) :
    (order.map c.cell).Perm c.cells := by
  rw [← map_cell_range]
  exact horder.map c.cell

/-- What is made of the cells one by one is made of them in any order. -/
theorem map_join_getElem? {α : Type} (f : Option Value → α) (horder : ∀ i ∈ order, i < cells.length) :
    (order.map fun i => cells[i]?.join).map (fun cell => some (f cell)) =
      order.map fun i => (cells.map f)[i]? := by
  rw [List.map_map]
  refine List.map_congr_left fun i hi => ?_
  simp [List.getElem?_eq_getElem (horder i hi)]

namespace Column

theorem reordered_ofValues (type : ColumnType) (f : Option Value → Option Value)
    (horder : order.Perm (List.range cells.length)) :
    Reordered order (.ofValues name type (cells.map f))
      (.ofValues name type ((order.map fun i => cells[i]?.join).map f)) := by
  have hlt : ∀ i ∈ order, i < cells.length := fun i hi => List.mem_range.mp (horder.subset hi)
  have hperm : (order.map fun i => cells[i]?.join).Perm cells :=
    map_cell_perm (c := .value name type true cells) horder
  refine ⟨rfl, rfl, ?_, ?_⟩
  · rw [Bool.eq_iff_iff]
    simp only [isNullable, ofValues, List.any_eq_true, (hperm.map f).mem_iff]
  · show (order.map fun i => cells[i]?.join).map f = order.map fun i => (cells.map f)[i]?.join
    have h := congrArg (List.map Option.join) (map_join_getElem? f hlt)
    simpa [Function.comp_def] using h

theorem reordered_frames (f : Option Value → Frame) (horder : order.Perm (List.range cells.length)) :
    Reordered order (.frames name (cells.map f))
      (.frames name ((order.map fun i => cells[i]?.join).map f)) := by
  have hlt : ∀ i ∈ order, i < cells.length := fun i hi => List.mem_range.mp (horder.subset hi)
  refine ⟨rfl, rfl, rfl, ?_⟩
  show ((order.map fun i => cells[i]?.join).map f).map (fun f => some (Value.frame f)) =
    order.map fun i => (cells.map f)[i]?.map Value.frame
  have h := congrArg (List.map (Option.map Value.frame)) (map_join_getElem? f hlt)
  simpa [Function.comp_def] using h

end Column

namespace Registry

variable {r : Registry} {o : Options} {p : Parser}

/-- **Rows in another order give the same column in that order**, unless they are rows of a group. -/
theorem reordered_of_settled {nullable : Bool} {x y : Except FrameError Column}
    (horder : order.Perm (List.range cells.length)) (hrow : p.type ≠ .row)
    (hx : r.Settled o p name nullable cells x)
    (hy : r.Settled o p name nullable (order.map fun i => cells[i]?.join) y) :
    ∃ d e, x = .ok d ∧ y = .ok e ∧ d.Reordered order e := by
  have hperm : (order.map fun i => cells[i]?.join).Perm cells :=
    Column.map_cell_perm (c := .value name .string nullable cells) horder
  -- which case of the settlement applies depends on membership only
  have hmem (cell : Option Value) : cell ∈ (order.map fun i => cells[i]?.join) ↔ cell ∈ cells :=
    hperm.mem_iff
  rcases copied_cases r o p cells with hcopy | hnull
  · refine ⟨_, _, hx.texts hcopy.1 hcopy.2, hy.texts hcopy.1 fun v hv => ?_, rfl, rfl, rfl, rfl⟩
    exact hcopy.2 v ((hmem _).mp hv)
  have hnull' : p.type = .string →
      ∃ v, some v ∈ (order.map fun i => cells[i]?.join) ∧ r.MeansNull o v := by
    intro htype
    obtain ⟨v, hv, hv'⟩ := hnull htype
    exact ⟨v, (hmem _).mpr hv, hv'⟩
  rcases shown_cases r o cells with hnone | htext
  · refine ⟨_, _, hx.nulls hnull hnone, hy.nulls hnull' fun cell hcell => ?_,
      Column.reordered_ofValues .string (fun _ => none) horder⟩
    exact hnone cell ((hmem cell).mp hcell)
  have htext' : ∃ cell ∈ (order.map fun i => cells[i]?.join), r.shown o cell ≠ none := by
    obtain ⟨cell, hcell, hs⟩ := htext
    exact ⟨cell, (hmem cell).mpr hcell, hs⟩
  by_cases hframe : p.type = .frame
  · refine ⟨_, _, hx.frames hframe htext, hy.frames hframe htext', ?_⟩
    rw [List.map_map, List.map_map]
    exact Column.reordered_frames _ horder
  · exact ⟨_, _, (hx.values hrow hframe hnull htext).1, (hy.values hrow hframe hnull' htext').1,
      Column.reordered_ofValues p.type (r.reading o p) horder⟩

end Registry

end Reordered

namespace Registry

/-- **The search for a type goes by the set of texts**, and stops later the more of them there are. -/
theorem search_goes_by_texts (r : Registry) (o : Options) (a b : List (Option Value)) :
    (∀ name nullable,
        (∀ i, r.place? o a = some i → ∃ p, r.parsers[i]? = some p ∧
          r.Settled o p name nullable a (r.tryParse o (.value name .string nullable a))) ∧
        ∀ d, r.tryParse o (.value name .string nullable a) = .ok d → r.place? o a ≠ none) ∧
      (∀ i, r.place? o (a ++ b) = some i ↔ (∀ pattern ∈ o.pattern, Pattern.isValid pattern) ∧
        ∃ p, r.FirstAt (fun p => r.Eligible o p ∧ r.Converts o p a ∧ r.Converts o p b) i p) ∧
      (∀ i, r.place? o (a ++ b) = some i →
        ∃ j k, r.place? o a = some j ∧ r.place? o b = some k ∧ j ≤ i ∧ k ≤ i) ∧
      (∀ cells, (∀ s, r.Shows o cells s ↔ r.Shows o a s) → r.place? o cells = r.place? o a) ∧
      (∀ cells, (∀ cell ∈ a, cell ∈ cells) →
        (∀ cell ∈ cells, cell ∈ a ∨ cell = none ∨ ∃ v, cell = some v ∧ r.MeansNull o v) →
          r.place? o cells = r.place? o a) ∧
      ∀ name nullable order, order.Perm (List.range a.length) →
        let column := Column.value name .string nullable a
        let reordered := Column.value name .string nullable (order.map column.cell)
        r.place? o (order.map column.cell) = r.place? o a ∧
          ∀ i p, r.place? o a = some i → r.parsers[i]? = some p → p.type ≠ .row →
            ∃ d e, r.tryParse o column = .ok d ∧ r.tryParse o reordered = .ok e ∧
              d.Reordered order e := by
  refine ⟨fun name nullable => ⟨fun i hi => ?_, fun d hd hnone => ?_⟩, fun i => ?_,
    fun i => exists_place?_of_append, fun cells h => place?_congr h, fun cells hmem hadded => ?_,
    fun name nullable order horder => ?_⟩
  · obtain ⟨-, p, hfirst⟩ := place?_eq_some_iff.mp hi
    exact ⟨p, hfirst.parser, settled_of_place? hi hfirst.parser name nullable⟩
  · obtain ⟨i, -, hi, -⟩ := exists_place?_of_tryParse hd
    rw [hnone] at hi
    cases hi
  · rw [place?_eq_some_iff]
    simp only [Accepts, converts_append_iff]
  · refine place?_congr (shows_iff_of_added hmem fun cell hcell => ?_)
    rw [shown_eq_none_iff]
    exact hadded cell hcell
  · intro column reordered
    have hperm : (order.map column.cell).Perm a := Column.map_cell_perm (c := column) horder
    have hplace : r.place? o (order.map column.cell) = r.place? o a :=
      place?_congr (shows_iff_of_added (fun cell hcell => hperm.mem_iff.mpr hcell)
        fun cell hcell => .inl (hperm.mem_iff.mp hcell))
    refine ⟨hplace, fun i p hi hp hrow => ?_⟩
    exact reordered_of_settled horder hrow (settled_of_place? hi hp name nullable)
      (settled_of_place? (hplace.trans hi) hp name nullable)

/-- An integer and a null, followed by a number that is no integer and a text that means null: the search
moves on from integers to doubles, and copies, nulls and another order leave it where it is. -/
theorem search_goes_by_texts_doubles :
    let r := Registry.default
    let a := [some (.ofText " 1"), none]
    let b := [some (.ofText "2.5"), some (.ofText "NA")]
    let cells := [none, some (.ofText " 1"), some (.ofText "NA"), some (.ofText " 1")]
    let column := Column.value "n" .string true a
    let reordered := Column.value "n" .string true ([1, 0].map column.cell)
    r.tryParse {} column = .ok (.ofValues "n" .int [some (.scalar (.int 1)), none]) ∧
      r.place? {} a ≠ none ∧ r.place? {} (a ++ b) = some 8 ∧
      (∃ j k, r.place? {} a = some j ∧ r.place? {} b = some k ∧ j ≤ 8 ∧ k ≤ 8) ∧
      (∀ s, r.Shows {} a.reverse s ↔ r.Shows {} a s) ∧ r.place? {} a.reverse = r.place? {} a ∧
      (∀ cell ∈ a, cell ∈ cells) ∧
      (∀ cell ∈ cells, cell ∈ a ∨ cell = none ∨ ∃ v, cell = some v ∧ r.MeansNull {} v) ∧
      r.place? {} cells = r.place? {} a ∧
      [1, 0].Perm (List.range a.length) ∧ r.place? {} a = some 0 ∧ r.parsers[0]? = some .int ∧
      ∃ d e, r.tryParse {} column = .ok d ∧ r.tryParse {} reordered = .ok e ∧
        d.Reordered [1, 0] e := by
  intro r a b cells column reordered
  obtain ⟨hsettled, -, hlater, htexts, hadded, horder⟩ := search_goes_by_texts r {} a b
  have hcolumn :
      r.tryParse {} column = .ok (.ofValues "n" .int [some (.scalar (.int 1)), none]) := by rfl
  have hplace : r.place? {} (a ++ b) = some 8 := by rfl
  have hreverse : ∀ s, r.Shows {} a.reverse s ↔ r.Shows {} a s := by
    intro s
    simp only [Shows, List.mem_reverse]
  have hcells : ∀ cell ∈ a, cell ∈ cells := by
    intro cell hcell
    obtain rfl | rfl : cell = some (.ofText " 1") ∨ cell = none := by simpa [a] using hcell
    all_goals simp [cells]
  have hmore : ∀ cell ∈ cells, cell ∈ a ∨ cell = none ∨ ∃ v, cell = some v ∧ r.MeansNull {} v := by
    intro cell hcell
    simp only [cells, List.mem_cons, List.not_mem_nil, or_false] at hcell
    rcases hcell with rfl | rfl | rfl | rfl
    · exact .inr (.inl rfl)
    · exact .inl List.mem_cons_self
    · exact .inr (.inr ⟨_, rfl, by decide⟩)
    · exact .inl List.mem_cons_self
  have hperm : [1, 0].Perm (List.range a.length) := List.Perm.swap 0 1 []
  have hint : r.place? {} a = some 0 := by rfl
  exact ⟨hcolumn, (hsettled "n" true).2 _ hcolumn, hplace, hlater 8 hplace, hreverse,
    htexts _ hreverse, hcells, hmore, hadded cells hcells hmore, hperm, hint, rfl,
    (horder "n" true [1, 0] hperm).2 0 .int hint rfl (by decide)⟩

end Registry

end Colonnade
