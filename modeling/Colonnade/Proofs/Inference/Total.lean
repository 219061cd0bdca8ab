import Colonnade.Proofs.Frame.Shaped
import Colonnade.Proofs.Inference.Cascade
import Colonnade.Proofs.Soundness.Inference

/-!
# The built-in parsers never fail

A registry that has been made out of the built-in one without taking its parser of texts away still
ends with a parser that refuses nothing. So the search for the type of a column always finds one, and
what it finds is a column of the same name and length, although the rows it has read may be stacked
(`Registry.exists_tryParse`).

For a frame nothing is asked but distinct names and the right lengths, in its groups and in its frame
columns, `Frame.Shaped`; its cells may hold anything. Then finding all types gives a frame of the same
shape, in which every column of values is the one that has been found for it
(`Registry.exists_parseFrame`).
-/

namespace Colonnade

/-! ### Registries with the parser of texts -/

/-- **A registry that has been made from the built-in one**, without taking the parser of texts
away. -/
inductive Registry.Reached : Registry → Prop where
  | default : Reached .default
  | addPattern {r r' : Registry} {pattern : String} (hr : Reached r)
      (h : r.addPattern pattern = .ok r') : Reached r'
  | withNullStrings {r : Registry} (hr : Reached r) (texts : List String) :
      Reached (r.withNullStrings texts)
  | withLocale {r : Registry} (hr : Reached r) (locale : Locale) : Reached (r.withLocale locale)
  | unregister {r : Registry} (hr : Reached r) {type : ColumnType} (h : type ≠ .string) :
      Reached (r.unregister type)

namespace Registry

variable {r : Registry} {o : Options}

/-- **Its parsers are built-in ones, that of texts among them.** -/
theorem Reached.parsers (hr : r.Reached) :
    (∀ p ∈ r.parsers, p ∈ Parser.defaults) ∧ Parser.text ∈ r.parsers := by
  induction hr with
  | default => exact ⟨fun _ hp => hp, by simp [Registry.default, Parser.defaults]⟩
  | addPattern _ h ih =>
    unfold Registry.addPattern at h
    split at h
    · exact absurd h (by simp)
    · split at h
      · exact Except.ok.inj h ▸ ih
      · exact Except.ok.inj h ▸ ih
  | withNullStrings _ _ ih => exact ih
  | withLocale _ _ ih => exact ih
  | unregister _ h ih =>
    refine ⟨fun p hp => ih.1 p (List.mem_of_mem_filter hp), List.mem_filter.mpr ⟨ih.2, ?_⟩⟩
    exact bne_iff_ne.mpr h.symm

theorem Reached.sound (hr : r.Reached) {rule : Rule} : r.Sound rule :=
  fun p hp => Parser.sound_defaults p (hr.parsers.1 p hp)

/-- The parser of texts accepts all cells. -/
theorem exists_attempt?_text (context : Parser.Context) (cells : List Cell) :
    ∃ values, attempt? context cells .text = some values := by
  induction cells with
  | nil => exact ⟨[], rfl⟩
  | cons cell cells ih =>
    obtain ⟨values, hvalues⟩ := ih
    obtain ⟨value, hvalue⟩ : ∃ value, cell.convert? .text context = some value := by
      cases cell <;> exact ⟨_, rfl⟩
    exact ⟨value :: values, mapM_eq_some_iff.mpr
      (List.Forall₂.cons hvalue (mapM_eq_some_iff.mp hvalues))⟩

/-- It may always be tried. -/
theorem text_mem_eligible (htext : Parser.text ∈ r.parsers) :
    Parser.text ∈ r.parsers.filter (isEligible (r.considered o)) := by
  have hconsidered : ColumnType.string ∈ r.considered o :=
    List.mem_filter.mpr ⟨List.mem_map.mpr ⟨_, htext, rfl⟩, rfl⟩
  refine List.mem_filter.mpr ⟨htext, ?_⟩
  rw [isEligible, Bool.and_eq_true]
  exact ⟨List.contains_iff_mem.mpr hconsidered, rfl⟩

/-! ### Columns -/

/-- An accepted attempt has a value or a null for every cell. -/
theorem length_attempt? {p : Parser} {context : Parser.Context} {cells : List Cell}
    {values : List (Option Value)} (h : attempt? context cells p = some values) :
    values.length = cells.length :=
  (mapM_eq_some_iff.mp h).length_eq.symm

/-- An accepted attempt makes a column of the same name and length. -/
theorem exists_settle {source : Column} {cells : List Cell} {p : Parser}
    {values : List (Option Value)} (hvalues : ∀ v, some v ∈ values → v.Sound .strict)
    (hlength : values.length = source.length) :
    ∃ d, settle source cells p values = .ok d ∧ d.name = source.name ∧
      d.length = source.length := by
  unfold settle
  split
  · exact ⟨source, rfl, rfl, rfl⟩
  · split
    · exact ⟨_, rfl, rfl, hlength⟩
    · obtain ⟨d, hd, -, hdl⟩ := Column.exists_ofCells source.name p.type
        fun v hv => (hvalues v hv).wellFormed trivial
      exact ⟨d, hd, Column.name_of_shape hd, hdl.trans hlength⟩

/-- **The type of a column is always found**, and name and length stay. -/
theorem exists_tryParse (hr : r.Reached) (ho : ∀ pattern ∈ o.pattern, Pattern.isValid pattern)
    (c : Column) :
    ∃ d, r.tryParse o c = .ok d ∧ d.name = c.name ∧ d.length = c.length := by
  unfold tryParse
  split
  next name nullable cells =>
    obtain ⟨texts, htexts⟩ :=
      exists_attempt?_text (r.contextOf o) (cells.map (Cell.ofValue (r.nullStringsFor o)))
    -- the search cannot come to an end without a parser, for there is the one of texts
    obtain ⟨⟨p, values⟩, hfound⟩ := Option.isSome_iff_exists.mp <|
      List.findSome?_isSome_iff (l := r.parsers.filter (isEligible (r.considered o)))
        (f := fun p => (attempt? (r.contextOf o)
          (cells.map (Cell.ofValue (r.nullStringsFor o))) p).map (p, ·)) |>.mpr
        ⟨_, text_mem_eligible hr.parsers.2, by rw [htexts]; rfl⟩
    obtain ⟨q, hq, hattempt⟩ := List.exists_of_findSome?_eq_some hfound
    obtain ⟨values', hvalues, heq⟩ := Option.map_eq_some_iff.mp hattempt
    obtain ⟨rfl, rfl⟩ := Prod.mk.inj heq
    have hsound : q.Sound .strict := hr.sound q (List.mem_of_mem_filter hq)
    have hlength : values'.length = (Column.value name .string nullable cells).length :=
      (length_attempt? hvalues).trans (List.length_map _)
    obtain ⟨d, hd, hkept⟩ : ∃ d, settle (.value name .string nullable cells)
        (cells.map (Cell.ofValue (r.nullStringsFor o))) q values' = .ok d ∧ d.name = name ∧
          d.length = cells.length :=
      exists_settle (fun v hv => (cellsFit_attempt? hsound hvalues v hv).1) hlength
    refine ⟨d, bind_eq_ok_iff.mpr ⟨r.contextOf o, context_eq_ok ho, ?_⟩, hkept⟩
    dsimp only
    rw [hfound]
    exact hd
  next => exact ⟨c, rfl, rfl, rfl⟩

end Registry

/-! ### Frames -/

namespace Registry

mutual

/-- **What becomes of a column** when all types are found: of a column of values the column that is
found for it, with the same name and length, of a group and of the frames of a column what becomes of
frames. -/
inductive ParsedColumn (r : Registry) (o : Options) : Column → Column → Prop where
  | value {name : String} {type : ColumnType} {nullable : Bool} {cells : List (Option Value)}
      {d : Column} (h : r.tryParse o (.value name type nullable cells) = .ok d)
      (hname : d.name = name) (hlength : d.length = cells.length) :
      ParsedColumn r o (.value name type nullable cells) d
  | group (name : String) {f g : Frame} (h : ParsedFrame r o f g) :
      ParsedColumn r o (.group name f) (.group name g)
  | frames (name : String) {fs gs : List Frame} (h : List.Forall₂ (ParsedFrame r o) fs gs) :
      ParsedColumn r o (.frames name fs) (.frames name gs)

/-- **What becomes of a frame**: the same names in the same order, the same number of rows, and for
every column what becomes of it. -/
inductive ParsedFrame (r : Registry) (o : Options) : Frame → Frame → Prop where
  | intro {f g : Frame} (hnames : g.names = f.names) (hrows : g.rowCount = f.rowCount)
      (hcolumns : List.Forall₂ (ParsedColumn r o) f.columns g.columns) : ParsedFrame r o f g

end

variable {r : Registry} {o : Options}

theorem ParsedColumn.name_eq {c d : Column} (h : ParsedColumn r o c d) : d.name = c.name := by
  cases h with
  | value _ hname _ => exact hname
  | group name _ => rfl
  | frames name _ => rfl

theorem ParsedColumn.length_eq {c d : Column} (h : ParsedColumn r o c d) : d.length = c.length := by
  cases h with
  | value _ _ hlength => exact hlength
  | group name h =>
    cases h with
    | intro _ hrows _ => exact hrows
  | frames name h => exact h.length_eq.symm

/-- Columns that have kept names and lengths still make a frame. -/
theorem exists_withRowCount {cs ds : List Column} {n : Nat} (hnodup : (cs.map Column.name).Nodup)
    (hlength : ∀ c ∈ cs, c.length = n) (h : List.Forall₂ (ParsedColumn r o) cs ds) :
    ∃ g, Frame.withRowCount ds n = .ok g ∧ ParsedFrame r o ⟨cs, n⟩ g := by
  have hnames : ds.map Column.name = cs.map Column.name := by
    induction h with
    | nil => rfl
    | cons hc _ ih =>
      rw [List.map_cons, List.map_cons, hc.name_eq, ih (List.nodup_cons.mp hnodup).2
        fun c hc => hlength c (List.mem_cons_of_mem _ hc)]
  have hlengths : ∀ d ∈ ds, d.length = n := by
    intro d hd
    obtain ⟨c, hc, hparsed⟩ := exists_mem_of_forall₂ h hd
    exact hparsed.length_eq.trans (hlength c hc)
  exact ⟨⟨ds, n⟩, Frame.withRowCount_eq_ok_iff.mpr ⟨rfl, hnames ▸ hnodup, hlengths⟩,
    .intro hnames rfl h⟩

mutual

/-- **Types are found for a column**, whatever it holds, -/
theorem exists_parseColumn (hr : r.Reached) (ho : ∀ pattern ∈ o.pattern, Pattern.isValid pattern) :
    ∀ {c : Column}, c.Shaped → ∃ d, r.parseColumn o c = .ok d ∧ ParsedColumn r o c d
  | .value name type nullable cells, _ => by
    obtain ⟨d, hd, hname, hlength⟩ := exists_tryParse hr ho (.value name type nullable cells)
    exact ⟨d, by rw [parseColumn, hd], .value hd hname hlength⟩
  | .group name f, h => by
    rw [Column.Shaped] at h
    obtain ⟨g, hg, hparsed⟩ := exists_parsedFrame hr ho h
    exact ⟨.group name g, by rw [parseColumn, hg]; rfl, .group name hparsed⟩
  | .frames name fs, h => by
    rw [Column.Shaped] at h
    obtain ⟨gs, hgs, hparsed⟩ := exists_parseFrames hr ho h
    exact ⟨.frames name gs, by rw [parseColumn, hgs]; rfl, .frames name hparsed⟩

/-- for a frame, since its columns stay as long as they were, -/
theorem exists_parsedFrame (hr : r.Reached) (ho : ∀ pattern ∈ o.pattern, Pattern.isValid pattern) :
    ∀ {f : Frame}, f.Shaped → ∃ g, r.parseFrame o f = .ok g ∧ ParsedFrame r o f g
  | ⟨columns, rowCount⟩, h => by
    rw [Frame.Shaped] at h
    obtain ⟨ds, hds, hparsed⟩ := exists_parseColumns hr ho h.2.2
    obtain ⟨g, hg, hframe⟩ := exists_withRowCount h.1 h.2.1 hparsed
    exact ⟨g, by rw [parseFrame]; exact bind_eq_ok_iff.mpr ⟨ds, hds, hg⟩, hframe⟩

/-- for columns side by side, -/
theorem exists_parseColumns (hr : r.Reached) (ho : ∀ pattern ∈ o.pattern, Pattern.isValid pattern) :
    ∀ {cs : List Column}, columnsShaped cs →
      ∃ ds, r.parseColumns o cs = .ok ds ∧ List.Forall₂ (ParsedColumn r o) cs ds
  | [], _ => ⟨[], by rw [parseColumns], .nil⟩
  | c :: cs, h => by
    rw [columnsShaped] at h
    obtain ⟨d, hd, hparsed⟩ := exists_parseColumn hr ho h.1
    obtain ⟨ds, hds, hrest⟩ := exists_parseColumns hr ho h.2
    exact ⟨d :: ds, by rw [parseColumns, hd, hds]; rfl, .cons hparsed hrest⟩

/-- and for the frames of a column. -/
theorem exists_parseFrames (hr : r.Reached) (ho : ∀ pattern ∈ o.pattern, Pattern.isValid pattern) :
    ∀ {fs : List Frame}, framesShaped fs →
      ∃ gs, r.parseFrames o fs = .ok gs ∧ List.Forall₂ (ParsedFrame r o) fs gs
  | [], _ => ⟨[], by rw [parseFrames], .nil⟩
  | f :: fs, h => by
    rw [framesShaped] at h
    obtain ⟨g, hg, hparsed⟩ := exists_parsedFrame hr ho h.1
    obtain ⟨gs, hgs, hrest⟩ := exists_parseFrames hr ho h.2
    exact ⟨g :: gs, by rw [parseFrames, hg, hgs]; rfl, .cons hparsed hrest⟩

end

/-- **Finding all types never fails and keeps the shape**, with the built-in parsers and a pattern
that is valid, if there is one. -/
theorem exists_parseFrame (hr : r.Reached) (ho : ∀ pattern ∈ o.pattern, Pattern.isValid pattern)
    {f : Frame} (hf : f.Shaped) :
    ∃ g, r.parseFrame o f = .ok g ∧ ParsedFrame r o f g :=
  exists_parsedFrame hr ho hf

/-- A text that is a row in a group, and frames of texts, read by a registry that knows a pattern of
its own but no integers. -/
theorem exists_parseFrame_nested :
    let r : Registry := { Registry.default with patterns := ["%d.%m.%Y"] }
    let o : Options := { pattern := some "%Y/%m/%d", skipTypes := [.date] }
    let f : Frame :=
      ⟨[.group "g" ⟨[.ofTexts "x" [some "\x7b\"a\": [1]\x7d", none]], 2⟩,
        .frames "h" [⟨[.ofTexts "y" [some "3"]], 1⟩, .empty]], 2⟩
    (r.unregister .int).Reached ∧ (∀ pattern ∈ o.pattern, Pattern.isValid pattern) ∧ f.Shaped ∧
      ∃ g, (r.unregister .int).parseFrame o f = .ok g ∧
        ParsedFrame (r.unregister .int) o f g := by
  intro r o f
  have hvalid : Pattern.isValid "%d.%m.%Y" = true := by rfl
  have hadd : Registry.default.addPattern "%d.%m.%Y" = .ok r := by
    rw [Registry.addPattern, hvalid]
    rfl
  have hr : (r.unregister .int).Reached := .unregister (.addPattern .default hadd) (by decide)
  have ho : ∀ pattern ∈ o.pattern, Pattern.isValid pattern := by
    rintro _ ⟨⟩
    rfl
  have hf : f.WellFormed := by
    simp [f, Frame.WellFormed, columnsWellFormed, Column.WellFormed, framesWellFormed,
      cellsWellFormed, Value.WellFormed, Value.ofText, Frame.empty, Column.ofTexts, Column.ofValues,
      Column.name, Column.length]
  exact ⟨hr, ho, hf.shaped, exists_parseFrame hr ho hf.shaped⟩

end Registry

end Colonnade
