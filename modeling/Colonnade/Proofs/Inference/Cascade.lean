import Colonnade.Inference
import Colonnade.Proofs.Soundness.Stack

/-!
# Which parser a column is settled by

The search for the type of a column of texts is specified without a search. A parser *may be tried* by
what the call skips and by what covers it (`Registry.Eligible`); it *converts* a column if it refuses none
of the texts that the cells show (`Registry.Converts`). The first parser that may be tried and converts
the column settles it, and the result is a matter of this parser alone (`Registry.Settled`):

| the parser | the cells | the result |
| --- | --- | --- |
| of texts | none is a text that means null | the column as it was |
| any other, or of texts | none shows a text | a column of nulls, of texts |
| of rows | some shows a text | a group, or why the rows do not make one |
| of frames | some shows a text | a column of frames |
| of any other type | some shows a text | a column of values of that type |

`Registry.tryParse_cascade` says that this is what `Registry.tryParse` does, for every registry.
-/

namespace Colonnade

namespace Registry

variable (r : Registry) (o : Options)

/-! ### What a call goes by -/

/-- A type that a call considers: one of a parser, and a text or not to be skipped. -/
def Considers (type : ColumnType) : Prop :=
  (∃ p ∈ r.parsers, p.type = type) ∧ (type = .string ∨ type ∉ o.skipTypes)

/-- **A parser that may be tried**: its type is not to be skipped, and no type that covers it is
considered. -/
def Eligible (p : Parser) : Prop :=
  (p.type = .string ∨ p.type ∉ o.skipTypes) ∧ ∀ type ∈ p.coveredBy, ¬r.Considers o type

/-- A value of a column of texts means null. -/
def MeansNull (v : Value) : Prop :=
  Text.trim (Cell.textOf v) ∈ r.nullStringsFor o

instance (v : Value) : Decidable (r.MeansNull o v) :=
  inferInstanceAs (Decidable (_ ∈ _))

/-- **The text that a cell shows to parsers**, trimmed: none if it is null or means null. -/
def shown : Option Value → Option String
  | none => none
  | some v => if r.MeansNull o v then none else some (Text.trim (Cell.textOf v))

/-- What parsers depend on in a call besides the text: what the call asks for goes before what the
registry has. -/
def contextOf : Parser.Context :=
  ⟨o.locale.getD r.locale, o.pattern, r.patterns⟩

/-- **The parser converts every text** that the cells show. -/
def Converts (p : Parser) (cells : List (Option Value)) : Prop :=
  ∀ cell ∈ cells, ∀ s, r.shown o cell = some s → ∃ v, p.convert (r.contextOf o) s = some v

/-- What a parser makes of a cell; a null of one that shows no text. -/
def reading (p : Parser) (cell : Option Value) : Option Value :=
  (r.shown o cell).bind (p.convert (r.contextOf o))

/-- **What a parser that converts a column makes of it.** -/
structure Settled (p : Parser) (name : String) (nullable : Bool) (cells : List (Option Value))
    (result : Except FrameError Column) : Prop where
  /-- Texts stay as they are, -/
  texts : p.type = .string → (∀ v, some v ∈ cells → ¬r.MeansNull o v) →
    result = .ok (.value name .string nullable cells)
  /-- unless one of them means null; and where there are none, there are nulls. -/
  nulls : (p.type = .string → ∃ v, some v ∈ cells ∧ r.MeansNull o v) →
    (∀ cell ∈ cells, r.shown o cell = none) →
      result = .ok (.ofValues name .string (cells.map fun _ => none))
  /-- Rows are stacked, -/
  rows : p.type = .row → (∃ cell ∈ cells, r.shown o cell ≠ none) →
    result = Column.ofCells name .row (cells.map (r.reading o p))
  /-- frames are put side by side, -/
  frames : p.type = .frame → (∃ cell ∈ cells, r.shown o cell ≠ none) →
    result = .ok (.frames name ((cells.map (r.reading o p)).map Value.frameOf))
  /-- and values too, with nulls exactly where there was no text. -/
  values : p.type ≠ .row → p.type ≠ .frame →
    (p.type = .string → ∃ v, some v ∈ cells ∧ r.MeansNull o v) →
      (∃ cell ∈ cells, r.shown o cell ≠ none) →
        result = .ok (.ofValues name p.type (cells.map (r.reading o p))) ∧
          ∀ cell ∈ cells, r.reading o p cell = none ↔ r.shown o cell = none

variable {r o} {p : Parser} {cells : List (Option Value)}

/-! ### Cells -/

theorem ofValue_some (v : Value) :
    Cell.ofValue (r.nullStringsFor o) (some v) =
      if r.MeansNull o v then .nullString
      else .text (Cell.textOf v) (Text.trim (Cell.textOf v)) := rfl

theorem ofValue_eq_nullString_iff {cell : Option Value} :
    Cell.ofValue (r.nullStringsFor o) cell = .nullString ↔ ∃ v, cell = some v ∧ r.MeansNull o v := by
  cases cell with
  | none => simp [Cell.ofValue]
  | some v => by_cases h : r.MeansNull o v <;> simp [ofValue_some, h]

theorem isText_ofValue_iff {cell : Option Value} :
    (Cell.ofValue (r.nullStringsFor o) cell).isText ↔ r.shown o cell ≠ none := by
  cases cell with
  | none => simp [Cell.ofValue, Cell.isText, shown]
  | some v => by_cases h : r.MeansNull o v <;> simp [ofValue_some, Cell.isText, shown, h]

/-- **A parser is shown the text of a cell**, and a cell without one is read as a null. -/
theorem convert?_ofValue (p : Parser) (cell : Option Value) :
    (Cell.ofValue (r.nullStringsFor o) cell).convert? p (r.contextOf o) =
      match r.shown o cell with
      | none => some none
      | some s => (p.convert (r.contextOf o) s).map some := by
  cases cell with
  | none => rfl
  | some v => by_cases h : r.MeansNull o v <;> simp [ofValue_some, Cell.convert?, shown, h]

/-- What a parser that converts a column makes of a cell is null only if the cell shows no text. -/
theorem Converts.reading_eq_none_iff (h : r.Converts o p cells) {cell : Option Value}
    (hcell : cell ∈ cells) : r.reading o p cell = none ↔ r.shown o cell = none := by
  rw [reading]
  rcases hs : r.shown o cell with _ | s
  · simp
  · obtain ⟨v, hv⟩ := h cell hcell s hs
    simp [hv]

/-! ### Attempts -/

/-- **An attempt gives the readings of a parser that converts the column**, -/
theorem attempt?_of_converts (h : r.Converts o p cells) :
    attempt? (r.contextOf o) (cells.map (Cell.ofValue (r.nullStringsFor o))) p =
      some (cells.map (r.reading o p)) := by
  refine mapM_eq_some_iff.mpr ?_
  rw [List.forall₂_map_left_iff, List.forall₂_map_right_iff, List.forall₂_same]
  intro cell hcell
  rw [convert?_ofValue, reading]
  rcases hs : r.shown o cell with _ | s
  · rfl
  · obtain ⟨v, hv⟩ := h cell hcell s hs
    simp [hv]

/-- and nothing of any other. -/
theorem attempt?_of_not_converts (h : ¬r.Converts o p cells) :
    attempt? (r.contextOf o) (cells.map (Cell.ofValue (r.nullStringsFor o))) p = none := by
  refine Option.eq_none_iff_forall_ne_some.mpr fun values hvalues => h fun cell hcell s hs => ?_
  have hread := List.forall₂_map_left_iff.mp (mapM_eq_some_iff.mp hvalues)
  obtain ⟨value, -, hvalue⟩ := exists_mem_of_forall₂ hread.flip hcell
  have hconvert : (p.convert (r.contextOf o) s).map some = some value := by
    have hcell' := convert?_ofValue (r := r) (o := o) p cell
    rw [hs] at hcell'
    exact hcell'.symm.trans hvalue
  obtain ⟨v, hv, -⟩ := Option.map_eq_some_iff.mp hconvert
  exact ⟨v, hv⟩

/-! ### Parsers that may be tried -/

theorem mem_considered_iff {type : ColumnType} : type ∈ r.considered o ↔ r.Considers o type := by
  simp [considered, Considers, List.mem_filter]

theorem isEligible_iff (hp : p ∈ r.parsers) :
    isEligible (r.considered o) p = true ↔ r.Eligible o p := by
  have hregistered : r.Considers o p.type ↔ p.type = .string ∨ p.type ∉ o.skipTypes :=
    and_iff_right ⟨p, hp, rfl⟩
  rw [isEligible, Bool.and_eq_true, List.contains_iff_mem, mem_considered_iff, hregistered,
    List.all_eq_true]
  simp [Eligible, mem_considered_iff]

theorem context_eq_ok (ho : ∀ pattern ∈ o.pattern, Pattern.isValid pattern) :
    r.context o = .ok (r.contextOf o) := by
  rcases hpattern : o.pattern with _ | pattern
  · simp [context, contextOf, hpattern]
  · simp [context, contextOf, hpattern, ho pattern hpattern]

/-- A call has what it goes by, unless it asks for a pattern that is not valid. -/
theorem context_cases (r : Registry) (o : Options) :
    ((∀ pattern ∈ o.pattern, Pattern.isValid pattern) ∧ r.context o = .ok (r.contextOf o)) ∨
      ∃ pattern ∈ o.pattern, ¬Pattern.isValid pattern ∧
        r.context o = .error (.invalidPattern pattern) := by
  by_cases ho : ∀ pattern ∈ o.pattern, Pattern.isValid pattern
  · exact .inl ⟨ho, context_eq_ok ho⟩
  · push Not at ho
    obtain ⟨pattern, hpattern, hvalid⟩ := ho
    refine .inr ⟨pattern, hpattern, hvalid, ?_⟩
    simp [context, Option.mem_def.mp hpattern, hvalid]

/-! ### Settling a column -/

/-- **The parser of an accepted attempt settles the column.** -/
theorem settled_settle (h : r.Converts o p cells) (name : String) (nullable : Bool) :
    r.Settled o p name nullable cells
      (settle (.value name .string nullable cells)
        (cells.map (Cell.ofValue (r.nullStringsFor o))) p (cells.map (r.reading o p))) := by
  have hnull : Cell.nullString ∈ cells.map (Cell.ofValue (r.nullStringsFor o)) ↔
      ∃ v, some v ∈ cells ∧ r.MeansNull o v := by
    simp only [List.mem_map, ofValue_eq_nullString_iff]
    constructor
    · rintro ⟨cell, hcell, v, rfl, hv⟩
      exact ⟨v, hcell, hv⟩
    · rintro ⟨v, hcell, hv⟩
      exact ⟨some v, hcell, v, rfl, hv⟩
  have htext : (cells.map (Cell.ofValue (r.nullStringsFor o))).any Cell.isText ↔
      ∃ cell ∈ cells, r.shown o cell ≠ none := by
    simp [List.any_map, List.any_eq_true, isText_ofValue_iff]
  -- a parser of another type, or of texts where one of them means null
  have hother (hcond : p.type = .string → ∃ v, some v ∈ cells ∧ r.MeansNull o v) :
      ¬(p.type = .string ∧ Cell.nullString ∉ cells.map (Cell.ofValue (r.nullStringsFor o))) :=
    fun ⟨htype, hnot⟩ => hnot (hnull.mpr (hcond htype))
  have hread (hcond : p.type = .string → ∃ v, some v ∈ cells ∧ r.MeansNull o v)
      (hshown : ∃ cell ∈ cells, r.shown o cell ≠ none) :
      settle (.value name .string nullable cells)
          (cells.map (Cell.ofValue (r.nullStringsFor o))) p (cells.map (r.reading o p)) =
        Column.ofCells name p.type (cells.map (r.reading o p)) := by
    rw [settle, if_neg (hother hcond), if_neg (by rw [htext.mpr hshown]; simp)]
    rfl
  constructor
  · intro htype hno
    have hnot : Cell.nullString ∉ cells.map (Cell.ofValue (r.nullStringsFor o)) :=
      fun hmem => (hnull.mp hmem).elim fun v hv => hno v hv.1 hv.2
    rw [settle, if_pos ⟨htype, hnot⟩]
  · intro hcond hnone
    have hnot : ¬(cells.map (Cell.ofValue (r.nullStringsFor o))).any Cell.isText :=
      fun hany => (htext.mp hany).elim fun cell h => h.2 (hnone cell h.1)
    have hnulls : cells.map (r.reading o p) = cells.map fun _ => none :=
      List.map_congr_left fun cell hcell => (h.reading_eq_none_iff hcell).mpr (hnone cell hcell)
    rw [settle, if_neg (hother hcond), if_pos (by simpa using hnot), hnulls]
    rfl
  · intro htype hshown
    rw [hread (fun hstring => absurd (htype.symm.trans hstring) (by simp)) hshown, htype]
  · intro htype hshown
    rw [hread (fun hstring => absurd (htype.symm.trans hstring) (by simp)) hshown, htype]
    rfl
  · intro hrow hframe hcond hshown
    rw [hread hcond hshown]
    exact ⟨Column.shape_eq_ofValues hrow hframe, fun cell hcell => h.reading_eq_none_iff hcell⟩

/-- The first attempt that is accepted, with what its parser has made of the cells. -/
def first? (r : Registry) (o : Options) (cells : List (Option Value)) :
    Option (Parser × List (Option Value)) :=
  (r.parsers.filter (isEligible (r.considered o))).findSome? fun parser =>
    (attempt? (r.contextOf o) (cells.map (Cell.ofValue (r.nullStringsFor o))) parser).map (parser, ·)

theorem tryParse_eq (ho : ∀ pattern ∈ o.pattern, Pattern.isValid pattern) {name : String}
    {nullable : Bool} :
    r.tryParse o (.value name .string nullable cells) =
      match r.first? o cells with
      | some (p, values) =>
        settle (.value name .string nullable cells) (cells.map (Cell.ofValue (r.nullStringsFor o)))
          p values
      | none => .error (.parserCascadeExhausted name) := by
  rw [tryParse, context_eq_ok ho]
  rfl

/-- **The first parser that may be tried and converts the column is found**, -/
theorem first?_eq_some {before after : List Parser} (hparsers : r.parsers = before ++ p :: after)
    (hp : r.Eligible o p) (hconverts : r.Converts o p cells)
    (hbefore : ∀ q ∈ before, r.Eligible o q → ¬r.Converts o q cells) :
    r.first? o cells = some (p, cells.map (r.reading o p)) := by
  have hmem : p ∈ r.parsers := hparsers ▸ List.mem_append_right before List.mem_cons_self
  refine List.findSome?_eq_some_iff.mpr
    ⟨before.filter (isEligible (r.considered o)), p, after.filter (isEligible (r.considered o)),
      ?_, ?_, fun q hq => ?_⟩
  · rw [hparsers, List.filter_append,
      List.filter_cons_of_pos ((isEligible_iff (hparsers ▸ hmem)).mpr hp)]
  · rw [attempt?_of_converts hconverts, Option.map_some]
  · obtain ⟨hqb, hq⟩ := List.mem_filter.mp hq
    have hqmem : q ∈ r.parsers := hparsers ▸ List.mem_append_left _ hqb
    rw [attempt?_of_not_converts (hbefore q hqb ((isEligible_iff hqmem).mp hq)), Option.map_none]

/-- and none if there is no such parser. -/
theorem first?_eq_none (h : ∀ q ∈ r.parsers, r.Eligible o q → ¬r.Converts o q cells) :
    r.first? o cells = none := by
  refine List.findSome?_eq_none_iff.mpr fun q hq => ?_
  obtain ⟨hqmem, hq⟩ := List.mem_filter.mp hq
  rw [attempt?_of_not_converts (h q hqmem ((isEligible_iff hqmem).mp hq)), Option.map_none]

/-- **The first parser that may be tried and converts a column settles it**, and without one the search
has come to its end. -/
theorem tryParse_cascade (r : Registry) (o : Options)
    (ho : ∀ pattern ∈ o.pattern, Pattern.isValid pattern) (name : String) (nullable : Bool)
    (cells : List (Option Value)) :
    (∀ before p after, r.parsers = before ++ p :: after → r.Eligible o p → r.Converts o p cells →
        (∀ q ∈ before, r.Eligible o q → ¬r.Converts o q cells) →
          r.Settled o p name nullable cells (r.tryParse o (.value name .string nullable cells))) ∧
      ((∀ p ∈ r.parsers, r.Eligible o p → ¬r.Converts o p cells) →
        r.tryParse o (.value name .string nullable cells) =
          .error (.parserCascadeExhausted name)) := by
  rw [tryParse_eq ho]
  constructor
  · intro before p after hparsers hp hconverts hbefore
    rw [first?_eq_some hparsers hp hconverts hbefore]
    exact settled_settle hconverts name nullable
  · intro hno
    rw [first?_eq_none hno]

/-- Texts that end in a percent sign, with white space around them and a text that means null. A parser of
ratios would read them but is covered, one parser of integers is skipped, and the other refuses the
sign. -/
theorem tryParse_cascade_covered :
    let share : Parser :=
      { type := .custom "share", convert := fun _ s =>
          if s.toList.getLast? = some '%' then
            (Number.readInt32? s.toList.dropLast).map fun n => .scalar (.int n) else none }
    let ratio : Parser := { share with type := .custom "ratio", coveredBy := [share.type] }
    let r : Registry :=
      { Registry.default with parsers := [ratio, .long, .int, share, .boolean, .text] }
    let o : Options :=
      { pattern := some "%d.%m.%Y", nullStrings := some ["-"], skipTypes := [.long] }
    let cells := [some (.ofText " 7%"), none, some (.ofText " - "), some (.ofText "12% ")]
    (∀ pattern ∈ o.pattern, Pattern.isValid pattern) ∧
      r.parsers = [ratio, .long, .int] ++ share :: [.boolean, .text] ∧
      r.Eligible o share ∧ r.Converts o share cells ∧
      (∀ q ∈ [ratio, .long, .int], r.Eligible o q → ¬r.Converts o q cells) ∧
      r.Settled o share "size" true cells (r.tryParse o (.value "size" .string true cells)) ∧
      r.tryParse o (.value "size" .string true cells) =
        .ok (.ofValues "size" share.type
          [some (.scalar (.int 7)), none, none, some (.scalar (.int 12))]) := by
  intro share ratio r o cells
  have ho : ∀ pattern ∈ o.pattern, Pattern.isValid pattern := by
    rintro _ ⟨⟩
    rfl
  have hparsers : r.parsers = [ratio, .long, .int] ++ share :: [.boolean, .text] := rfl
  have hshown : cells.map (r.shown o) = [some "7%", none, none, some "12%"] := by rfl
  have hread : cells.map (r.reading o share) =
      [some (.scalar (.int 7)), none, none, some (.scalar (.int 12))] := by rfl
  have hshare : r.Eligible o share := ⟨.inr (by decide), by simp [share]⟩
  have hconverts : r.Converts o share cells := by
    intro cell hcell s hs
    have hmem : some s ∈ cells.map (r.shown o) := hs ▸ List.mem_map_of_mem hcell
    rw [hshown] at hmem
    obtain rfl | rfl : s = "7%" ∨ s = "12%" := by simpa using hmem
    exacts [⟨.scalar (.int 7), rfl⟩, ⟨.scalar (.int 12), rfl⟩]
  have hbefore : ∀ q ∈ [ratio, .long, .int], r.Eligible o q → ¬r.Converts o q cells := by
    intro q hq heligible hq'
    obtain rfl | rfl | rfl : q = ratio ∨ q = .long ∨ q = .int := by simpa using hq
    · exact heligible.2 _ (List.mem_singleton.mpr rfl) ⟨⟨share, by simp [hparsers], rfl⟩, hshare.1⟩
    · exact absurd heligible.1 (by decide)
    · obtain ⟨v, hv⟩ := hq' _ List.mem_cons_self "7%" (List.cons.inj hshown).1
      exact absurd hv (by simp [show Parser.int.convert (r.contextOf o) "7%" = none from rfl])
  have hsettled :=
    (tryParse_cascade r o ho "size" true cells).1 _ _ _ hparsers hshare hconverts hbefore
  have htext : ∃ cell ∈ cells, r.shown o cell ≠ none :=
    ⟨_, List.mem_cons_self, by rw [(List.cons.inj hshown).1]; simp⟩
  refine ⟨ho, hparsers, hshare, hconverts, hbefore, hsettled, ?_⟩
  rw [(hsettled.values (by simp [share]) (by simp [share]) (by simp [share]) htext).1, hread]

end Registry

end Colonnade
