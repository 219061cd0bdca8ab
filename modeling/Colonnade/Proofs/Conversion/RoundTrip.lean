import Colonnade.Inference
import Colonnade.Proofs.Conversion.Durations
import Colonnade.Proofs.Conversion.Moments
import Colonnade.Proofs.Soundness.Stack
import Colonnade.Proofs.Trimming

/-!
# Conversion to texts and back

A column of integers, truth values, dates, times or durations is converted to a column of
texts and back without a loss (`Registry.convert_texts_back`). For one value this needs three
things:

* its text is read as the same value by the parser of its type – which for integers is
  `readInt?_integerText`, for dates and times `Date.ofText?_chars` and the like, for
  durations `Duration.ofText?_text`;
* the text has no white space at its edges, which a parser is not shown;
* the text does not mean null.

The last two hold because such a text is *plain* (`Plain`): digits, signs and the few letters
and marks between numbers. The texts that mean null all have a letter that is not among them.

The registry may hold other parsers and other patterns. What is asked of it is that the
parser of the type is the built-in one and that the texts that mean null are the built-in ones;
the call must not ask for a pattern of its own, since that would take the place of the
patterns that the texts are written in.
-/

namespace Colonnade

open Number

/-! ### Plain texts -/

namespace Text

/-- A digit, a sign, or one of the letters and marks between numbers. -/
def isPlain (c : Char) : Bool :=
  c.isDigit || ['-', '+', ':', '.', 'T', 'Z', 'P', 'D', 'S'].contains c

/-- **A plain text**: one of plain characters only. -/
def Plain (cs : List Char) : Prop :=
  ∀ c ∈ cs, isPlain c = true

@[simp] theorem plain_nil : Plain [] := by simp [Plain]

@[simp] theorem plain_cons {c : Char} {cs : List Char} :
    Plain (c :: cs) ↔ isPlain c = true ∧ Plain cs := by
  simp [Plain]

@[simp] theorem plain_append {cs ds : List Char} : Plain (cs ++ ds) ↔ Plain cs ∧ Plain ds := by
  simp [Plain, or_imp, forall_and]

theorem plain_of_spells {ds : List Char} {n : Nat} (h : Spells ds n) : Plain ds :=
  fun c hc => by simp [isPlain, h.digits c hc]

@[simp] theorem plain_digitsOf (n : Nat) : Plain (digitsOf n) :=
  plain_of_spells (spells_digitsOf n)

@[simp] theorem plain_padZeros_digitsOf (width n : Nat) : Plain (padZeros width (digitsOf n)) :=
  plain_of_spells (spells_padZeros_digitsOf width n)

theorem isBlank_of_isPlain {c : Char} (h : isPlain c = true) : isBlank c = false := by
  rcases Bool.or_eq_true_iff.1 h with hdigit | hmark
  · exact Text.isBlank_of_isDigit hdigit
  · have hmarks : ['-', '+', ':', '.', 'T', 'Z', 'P', 'D', 'S'].all (!isBlank ·) = true := by decide
    simpa using List.all_eq_true.1 hmarks c (List.contains_iff_mem.1 hmark)

end Text

/-- **A text that parsers are shown as it is**: without white space at its edges, and not one
that means null. -/
structure Shown (s : String) : Prop where
  trim : Text.trim s = s
  not_null : s ∉ Registry.default.nullStrings

/-- Every text that means null has a letter that plain texts do not have. -/
theorem exists_not_isPlain : ∀ s ∈ Registry.default.nullStrings, ∃ c ∈ s.toList,
    Text.isPlain c = false := by
  have hall : Registry.default.nullStrings.all (·.toList.any (!Text.isPlain ·)) = true := by decide
  intro s hs
  simpa using List.all_eq_true.1 hall s hs

theorem shown_of_plain {s : String} (h : Text.Plain s.toList) : Shown s where
  trim := by
    have hunblank (c : Char) (hc : c ∈ s.toList) : Text.isBlank c = false :=
      Text.isBlank_of_isPlain (h c hc)
    rw [Text.trim, Text.trimChars_of_unblank hunblank, String.ofList_toList]
  not_null hs := by
    obtain ⟨c, hc, hletter⟩ := exists_not_isPlain s hs
    simp [h c hc] at hletter

/-! ### The texts of values -/

section Texts

open Text

theorem plain_integerText (i : Int) : Plain (integerText i).toList := by
  simp only [integerText, String.toList_ofList]
  split <;> simp [isPlain]

theorem plain_date (d : Date) : Plain d.chars := by
  have hyear : Plain (Date.yearText d.year) := by
    simp only [Date.yearText]
    split
    · simp
    · split <;> simp [isPlain]
  simp [Date.chars, hyear, isPlain]

theorem plain_time (t : TimeOfDay) : Plain t.chars := by
  have hfraction : Plain (TimeOfDay.fractionChars t.nanosecond) := by
    simp only [TimeOfDay.fractionChars]
    split
    · simp
    · split
      · simp [isPlain]
      · split <;> simp [isPlain]
  simp [TimeOfDay.chars, hfraction, isPlain]

theorem plain_dateTime (t : DateTime) : Plain t.chars := by
  simp [DateTime.chars, plain_date, plain_time, isPlain]

theorem plain_duration (d : Duration) : Plain d.text.toList := by
  have hfraction (f : Nat) : Plain (Duration.fractionDigits f) := by
    obtain ⟨zeros, happend⟩ := Duration.fractionDigits_append f
    have hplain := plain_padZeros_digitsOf 9 f
    rw [← happend] at hplain
    exact (plain_append.1 hplain).1
  have hmagnitude (n : Nat) : Plain (Duration.magnitudeChars n) := by
    simp only [Duration.magnitudeChars]
    split
    · simp [isPlain]
    · split <;> simp [isPlain, hfraction]
  simp only [Duration.text, String.toList_ofList]
  split <;> simp [isPlain, hmagnitude]

end Texts

/-- The types whose values are read back from their texts. -/
def ColumnType.readBack : List ColumnType :=
  [.int, .long, .boolean, .date, .dateTime, .time, .instant, .duration]

namespace Scalar

theorem shown_text (s : Scalar) (hs : s.type ∈ ColumnType.readBack) : Shown s.text := by
  cases s with
  | int n => exact shown_of_plain (plain_integerText _)
  | long n => exact shown_of_plain (plain_integerText _)
  | boolean b => cases b <;> exact ⟨by decide, by decide⟩
  | date d => exact shown_of_plain (by simpa [text, Date.text] using plain_date d)
  | dateTime t => exact shown_of_plain (by simpa [text, DateTime.text] using plain_dateTime t)
  | time t => exact shown_of_plain (by simpa [text, TimeOfDay.text] using plain_time t)
  | instant t =>
    exact shown_of_plain (by
      simpa [text, Instant.text, Text.isPlain] using plain_dateTime t.utc)
  | duration d => exact shown_of_plain (plain_duration d)
  | url _ | double _ | decimal _ | string _ => simp [type, ColumnType.readBack] at hs

/-- **The built-in parser of a type reads the text of a value as that value.** -/
theorem convert_text (s : Scalar) (hs : s.type ∈ ColumnType.readBack) {p : Parser}
    (hp : Registry.default.parserFor? s.type = some p) {context : Parser.Context}
    (hpattern : context.pattern = none) : p.convert context s.text = some (.scalar s) := by
  have hpatterns (defaults : List String) :
      context.patterns defaults = defaults ++ context.registered := by
    simp [Parser.Context.patterns, hpattern]
  cases s with
  | int n =>
    obtain rfl : Parser.int = p := Option.some.inj hp
    simp [Parser.int, Parser.ofScalar, text, readInt32?_integerText]
  | long n =>
    obtain rfl : Parser.long = p := Option.some.inj hp
    simp [Parser.long, Parser.ofScalar, text, readInt64?_integerText]
  | boolean b =>
    obtain rfl : Parser.boolean = p := Option.some.inj hp
    have hread : Parser.readBoolean? (text (.boolean b)) = some b := by
      cases b <;> decide
    simp [Parser.boolean, Parser.ofScalar, hread]
  | date d =>
    obtain rfl : Parser.date = p := Option.some.inj hp
    simp [Parser.date, Parser.ofScalar, text, Date.text, hpatterns, Date.ofText?_chars]
  | dateTime t =>
    obtain rfl : Parser.dateTime = p := Option.some.inj hp
    simp [Parser.dateTime, Parser.ofScalar, text, DateTime.text, hpatterns,
      DateTime.ofText?_chars]
  | time t =>
    obtain rfl : Parser.time = p := Option.some.inj hp
    simp [Parser.time, Parser.ofScalar, text, TimeOfDay.text, hpatterns,
      TimeOfDay.ofText?_chars]
  | instant t =>
    obtain rfl : Parser.instant = p := Option.some.inj hp
    simp [Parser.instant, Parser.ofScalar, text, Instant.ofText?_text]
  | duration d =>
    obtain rfl : Parser.duration = p := Option.some.inj hp
    simp [Parser.duration, Parser.ofScalar, text, Duration.ofText?_text]
  | url _ | double _ | decimal _ | string _ => simp [type, ColumnType.readBack] at hs

end Scalar

/-! ### Columns -/

namespace Registry

/-- A value of one of the types is a scalar. -/
theorem exists_scalar {v : Value} (hv : v.type ∈ ColumnType.readBack) : ∃ s, v = .scalar s := by
  cases v with
  | scalar s => exact ⟨s, rfl⟩
  | row _ | frame _ => simp [Value.type, ColumnType.readBack] at hv

/-- A cell of one of the types is converted to its text. -/
theorem convertCell_string {cell : Option Value}
    (hcell : ∀ v ∈ cell, v.type ∈ ColumnType.readBack) :
    Value.convertCell .string cell = .ok (cell.map fun v => .ofText v.text) := by
  cases cell with
  | none => rfl
  | some v =>
    obtain ⟨s, rfl⟩ := exists_scalar (hcell v rfl)
    have hs : s.type ≠ .string := by
      intro h
      have hmem := hcell _ rfl
      simp [Value.type, h, ColumnType.readBack] at hmem
    simp [Value.convertCell, Value.convert?, ColumnType.accepts, Value.type, hs, Scalar.convert?,
      Value.ofText, Value.text]

/-- The text of a cell is read as the value that it was written for. -/
theorem convertCell_text {p : Parser} {type : ColumnType} {context : Parser.Context}
    {cell : Option Value} (htype : type ∈ ColumnType.readBack)
    (hcell : ∀ v ∈ cell, v.type = type) (hp : Registry.default.parserFor? type = some p)
    (hpattern : context.pattern = none) :
    convertCell p context type (Cell.ofValue Registry.default.nullStrings
      (cell.map fun v => .ofText v.text)) = .ok cell := by
  cases cell with
  | none => rfl
  | some v =>
    obtain rfl : v.type = type := hcell v rfl
    obtain ⟨s, rfl⟩ := exists_scalar htype
    have hshown := s.shown_text htype
    simp [Cell.ofValue, Cell.textOf, Value.string?, Value.ofText, Value.text, hshown.trim,
      hshown.not_null, convertCell, s.convert_text htype hp hpattern]

variable {r : Registry} {o : Options} {type : ColumnType} {cells : List (Option Value)}

/-- **The texts of a column**, a null for each null. -/
def texts (cells : List (Option Value)) : List (Option String) :=
  cells.map (Option.map Value.text)

theorem ofTexts_texts (name : String) : Column.ofTexts name (texts cells) =
    .ofValues name .string (cells.map (Option.map fun v => .ofText v.text)) := by
  simp [Column.ofTexts, texts, Function.comp_def]

theorem ne_string_of_readBack (htype : type ∈ ColumnType.readBack) : type ≠ .string := by
  rintro rfl
  simp [ColumnType.readBack] at htype

/-- The column is converted to the column of its texts. -/
theorem convert_to_texts (r : Registry) (o : Options) (name : String)
    (htype : type ∈ ColumnType.readBack) (hcells : ∀ v, some v ∈ cells → v.type = type) :
    r.convert o (.ofValues name type cells) .string = .ok (.ofTexts name (texts cells)) := by
  have hconverted : cells.mapM (Value.convertCell .string) =
      .ok (cells.map (Option.map fun v => .ofText v.text)) := by
    rw [mapM_eq_ok_iff, List.forall₂_map_right_iff, List.forall₂_same]
    intro cell hcell
    refine convertCell_string fun v hv => ?_
    rw [hcells v (Option.mem_def.1 hv ▸ hcell)]
    exact htype
  simp only [convert, Column.ofValues, Column.type, if_neg (ne_string_of_readBack htype),
    Column.cells, hconverted, Column.name, bind, Except.bind]
  rw [ofTexts_texts]
  exact Column.shape_eq_ofValues (by decide) (by decide)

/-- The texts are read as the column that they were written for. -/
theorem convert_of_texts (name : String) (htype : type ∈ ColumnType.readBack)
    (hcells : ∀ v, some v ∈ cells → v.type = type)
    (hparser : r.parserFor? type = Registry.default.parserFor? type)
    (hnull : r.nullStringsFor o = Registry.default.nullStrings) (hpattern : o.pattern = none) :
    r.convert o (.ofTexts name (texts cells)) type = .ok (.ofValues name type cells) := by
  have hbuiltIn : ∀ type ∈ ColumnType.readBack,
      (Registry.default.parserFor? type).isSome = true ∧ type ≠ .row ∧ type ≠ .frame := by
    decide
  obtain ⟨hsome, hrow, hframe⟩ := hbuiltIn type htype
  obtain ⟨p, hp⟩ := Option.isSome_iff_exists.1 hsome
  obtain ⟨context, hcontext, hnone⟩ :
      ∃ context, r.context o = .ok context ∧ context.pattern = none :=
    ⟨⟨o.locale.getD r.locale, none, r.patterns⟩, by simp only [Registry.context, hpattern], rfl⟩
  have hother : ColumnType.string ≠ type := (ne_string_of_readBack htype).symm
  have hread : ((cells.map (Option.map fun v => Value.ofText v.text)).map
      (Cell.ofValue Registry.default.nullStrings)).mapM (convertCell p context type) =
        .ok cells := by
    rw [List.map_map, mapM_eq_ok_iff, List.forall₂_map_left_iff, List.forall₂_same]
    exact fun cell hcell => convertCell_text htype
      (fun v hv => hcells v (Option.mem_def.1 hv ▸ hcell)) hp hnone
  rw [ofTexts_texts]
  simp only [convert, parse, hparser, hp, Column.ofValues, Column.type, if_neg hother, if_pos,
    hcontext, hnull, hread, bind, Except.bind]
  exact Column.shape_eq_ofValues hrow hframe

/-- **Conversion to texts and back.** A column of integers, truth values, dates, times or
durations is converted to the column of its texts, and that column is converted back to
the column itself: every value and every null. -/
theorem convert_texts_back (r : Registry) (o : Options) (name : String) (type : ColumnType)
    (cells : List (Option Value)) (htype : type ∈ ColumnType.readBack)
    (hcells : ∀ v, some v ∈ cells → v.type = type)
    (hparser : r.parserFor? type = Registry.default.parserFor? type)
    (hnull : r.nullStringsFor o = Registry.default.nullStrings) (hpattern : o.pattern = none) :
    r.convert o (.ofValues name type cells) .string = .ok (.ofTexts name (texts cells)) ∧
      r.convert o (.ofTexts name (texts cells)) type = .ok (.ofValues name type cells) :=
  ⟨convert_to_texts r o name htype hcells,
    convert_of_texts name htype hcells hparser hnull hpattern⟩

/-- A leap second after the year 9999, and a null. -/
theorem convert_texts_back_leap_second :
    let t : DateTime := ⟨⟨12345, 12, 31, by decide⟩, ⟨23, 59, 60, 500000000, by decide⟩⟩
    let cells : List (Option Value) := [some (.scalar (.dateTime t)), none]
    texts cells = [some "+12345-12-31T23:59:60.500", none] ∧
      default.convert {} (.ofValues "end" .dateTime cells) .string =
        .ok (.ofTexts "end" (texts cells)) ∧
      default.convert {} (.ofTexts "end" (texts cells)) .dateTime =
        .ok (.ofValues "end" .dateTime cells) := by
  intro t cells
  refine ⟨by decide, convert_texts_back default {} "end" .dateTime cells (by decide) ?_ rfl rfl rfl⟩
  intro v hv
  obtain rfl : v = .scalar (.dateTime t) := by simpa [cells] using hv
  rfl

end Registry

end Colonnade
