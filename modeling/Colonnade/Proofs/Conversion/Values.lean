import Colonnade.Proofs.Double.ToDecimal
import Colonnade.Proofs.Soundness.Inference
import Colonnade.Proofs.Stack.Slices

/-!
# The conversion of values

A column that is not one of texts is converted cell by cell. Which values have a conversion to a
type is said by a table of types and three more rules: what the column may hold already is kept,
everything has a text, and a double is a decimal if it is within the range of decimals.

* `ColumnType.conversions`, `Value.Convertible` – the values that have a conversion to a type;
* `Value.exists_convert?_iff` – these and no others are converted;
* `Scalar.Converts`, `Value.Becomes`, `Value.becomes_of_convert?` – what a value becomes;
* `Column.ConvertedTo` – the column that a conversion gives;
* `Registry.convert_cell_by_cell` – a conversion to a type that is not nested succeeds if and only
  if every value is convertible, and is refused at the first that is not.

Conversions go together: whole numbers may be converted by way of `long`, a date is regained from its
date-time, and a group from the column of its rows, if what the columns in it are can be told from
their cells.
-/

namespace Colonnade

/-! ### What becomes of a value -/

/-- **The conversions of types** that no value of the type is refused. -/
def ColumnType.conversions : List (ColumnType × ColumnType) :=
  [(.int, .long), (.int, .double), (.int, .decimal), (.long, .double), (.long, .decimal),
    (.dateTime, .date), (.dateTime, .time), (.instant, .dateTime), (.date, .dateTime)]

/-- **A value with a conversion to a type.** -/
def Value.Convertible (v : Value) (type : ColumnType) : Prop :=
  type.accepts v ∨ type = .string ∨ (v.type, type) ∈ ColumnType.conversions ∨
    type = .decimal ∧ ∃ x, v = .scalar (.double x) ∧ x.WithinDecimals

/-- **Canonical values**: a double has the one mantissa and exponent that the format gives its number, as every
rounded one has (`Double.Nearest.canonical`). -/
def Value.Canonical : Value → Prop
  | .scalar (.double x) => x.Canonical
  | _ => True

/-- A decimal is an integer, written without places. -/
structure Decimal.IsInteger (d : Decimal) (i : Int) : Prop where
  negative_eq : d.negative = decide (i < 0)
  mantissa_eq : d.mantissa = i.natAbs
  scale_eq : d.scale = 0

/-- **What a scalar is in another type.** -/
inductive Scalar.Converts : Scalar → Scalar → Prop
  | intLong {n : Int32} {m : Int64} (h : m.toInt = n.toInt) : Converts (.int n) (.long m)
  | intDouble (n : Int32) : Converts (.int n) (.double (.ofInt n.toInt))
  | intDecimal {n : Int32} {d : Decimal} (h : d.IsInteger n.toInt) : Converts (.int n) (.decimal d)
  | longDouble (n : Int64) : Converts (.long n) (.double (.ofInt n.toInt))
  | longDecimal {n : Int64} {d : Decimal} (h : d.IsInteger n.toInt) : Converts (.long n) (.decimal d)
  | doubleDecimal {x : Double} {d : Decimal} (h : d.StandsFor x) : Converts (.double x) (.decimal d)
  | dateTimeDate (t : DateTime) : Converts (.dateTime t) (.date t.date)
  | dateTimeTime (t : DateTime) : Converts (.dateTime t) (.time t.time)
  | instantDateTime (t : Instant) : Converts (.instant t) (.dateTime t.utc)
  | dateDateTime (d : Date) : Converts (.date d) (.dateTime ⟨d, .midnight⟩)

/-- **What a value becomes in a column of a type.** -/
inductive Value.Becomes (type : ColumnType) : Value → Value → Prop
  | kept {v : Value} (h : type.accepts v) : Becomes type v v
  | text (v : Value) (htype : type = .string) : Becomes type v (.ofText v.text)
  | converted {s t : Scalar} (h : s.Converts t) (htype : t.type = type) :
    Becomes type (.scalar s) (.scalar t)

/-- The integers of 64 bits are decimals. -/
theorem Decimal.ofInt?_eq_some_iff {i : Int} (hi : i.natAbs ≤ 2 ^ 63) {d : Decimal} :
    ofInt? i = some d ↔ d.IsInteger i := by
  have hfits : i.natAbs < mantissaBound ∧ 0 ≤ maxScale :=
    ⟨Nat.lt_of_le_of_lt hi (by decide), Nat.zero_le _⟩
  rw [ofInt?, make?, dif_pos hfits, Option.some_inj]
  obtain ⟨negative, mantissa, scale, hmantissa, hscale⟩ := d
  rw [mk.injEq]
  exact ⟨fun ⟨hn, hm, hs⟩ => ⟨hn.symm, hm.symm, hs.symm⟩,
    fun ⟨hn, hm, hs⟩ => ⟨hn.symm, hm.symm, hs.symm⟩⟩

theorem Decimal.exists_isInteger {i : Int} (hi : i.natAbs ≤ 2 ^ 63) : ∃ d : Decimal, d.IsInteger i :=
  ⟨⟨decide (i < 0), i.natAbs, 0, Nat.lt_of_le_of_lt hi (by decide), Nat.zero_le _⟩, rfl, rfl, rfl⟩

theorem natAbs_toInt32_le (n : Int32) : n.toInt.natAbs ≤ 2 ^ 63 := by
  have hlow := n.le_toInt
  have hhigh := n.toInt_lt
  omega

theorem natAbs_toInt64_le (n : Int64) : n.toInt.natAbs ≤ 2 ^ 63 := by
  have hlow := n.le_toInt
  have hhigh := n.toInt_lt
  omega

theorem Scalar.convert?_string (s : Scalar) : s.convert? .string = some (.string s.text) := by
  rw [convert?]

/-- **A scalar is converted to what it is in the other type.** -/
theorem Scalar.converts_of_convert? {s t : Scalar} {type : ColumnType} (htype : type ≠ .string)
    (hs : type = .decimal → (Value.scalar s).Canonical) (h : s.convert? type = some t) :
    t.type = type ∧ s.Converts t := by
  refine ⟨type_of_convert? h, ?_⟩
  unfold Scalar.convert? at h
  split at h
  case h_1 => exact absurd rfl htype
  case h_2 n => exact Option.some.inj h ▸ .intLong (Int32.toInt_toInt64 n)
  case h_3 n => exact Option.some.inj h ▸ .intDouble n
  case h_4 n =>
    obtain ⟨d, hd, rfl⟩ := Option.map_eq_some_iff.mp h
    exact .intDecimal ((Decimal.ofInt?_eq_some_iff (natAbs_toInt32_le n)).mp hd)
  case h_5 n => exact Option.some.inj h ▸ .longDouble n
  case h_6 n =>
    obtain ⟨d, hd, rfl⟩ := Option.map_eq_some_iff.mp h
    exact .longDecimal ((Decimal.ofInt?_eq_some_iff (natAbs_toInt64_le n)).mp hd)
  case h_7 x =>
    obtain ⟨d, hd, rfl⟩ := Option.map_eq_some_iff.mp h
    exact .doubleDecimal (Decimal.standsFor_of_ofDouble? (hs rfl) hd)
  case h_8 t => exact Option.some.inj h ▸ .dateTimeDate t
  case h_9 t => exact Option.some.inj h ▸ .dateTimeTime t
  case h_10 t => exact Option.some.inj h ▸ .instantDateTime t
  case h_11 d => exact Option.some.inj h ▸ .dateDateTime d
  case h_12 => cases h

/-- A whole number becomes a decimal. -/
theorem Scalar.exists_map_ofInt? {i : Int} (hi : i.natAbs ≤ 2 ^ 63) :
    ∃ t, (Decimal.ofInt? i).map Scalar.decimal = some t := by
  obtain ⟨d, hd⟩ := Decimal.exists_isInteger hi
  exact ⟨.decimal d, by rw [(Decimal.ofInt?_eq_some_iff hi).mpr hd]; rfl⟩

/-- A conversion between types of scalars gives something. -/
theorem Scalar.exists_convert? {s : Scalar} {type : ColumnType}
    (h : (s.type, type) ∈ ColumnType.conversions) : ∃ t, s.convert? type = some t := by
  cases s with
  | int n =>
    have htype : type = .long ∨ type = .double ∨ type = .decimal := by
      simpa [ColumnType.conversions, Scalar.type] using h
    rcases htype with rfl | rfl | rfl
    · exact ⟨_, rfl⟩
    · exact ⟨_, rfl⟩
    · exact exists_map_ofInt? (natAbs_toInt32_le n)
  | long n =>
    have htype : type = .double ∨ type = .decimal := by
      simpa [ColumnType.conversions, Scalar.type] using h
    rcases htype with rfl | rfl
    · exact ⟨_, rfl⟩
    · exact exists_map_ofInt? (natAbs_toInt64_le n)
  | instant t =>
    obtain rfl : type = .dateTime := by simpa [ColumnType.conversions, Scalar.type] using h
    exact ⟨_, rfl⟩
  | dateTime t =>
    have htype : type = .date ∨ type = .time := by
      simpa [ColumnType.conversions, Scalar.type] using h
    rcases htype with rfl | rfl <;> exact ⟨_, rfl⟩
  | date d =>
    obtain rfl : type = .dateTime := by simpa [ColumnType.conversions, Scalar.type] using h
    exact ⟨_, rfl⟩
  | duration _ | time _ | url _ | double _ | boolean _ | decimal _ | string _ =>
    simp [ColumnType.conversions, Scalar.type] at h

namespace Scalar.Converts

variable {s t : Scalar}

/-- A scalar is converted by the table of types, or is a double that becomes a decimal. -/
theorem table (h : s.Converts t) : (s.type, t.type) ∈ ColumnType.conversions ∨
    t.type = .decimal ∧ ∃ x, s = .double x ∧ x.WithinDecimals := by
  cases h with
  | doubleDecimal h => exact .inr ⟨rfl, _, rfl, h.within⟩
  | intLong _ | intDouble _ | intDecimal _ | longDouble _ | longDecimal _ | dateTimeDate _
  | dateTimeTime _ | instantDateTime _ | dateDateTime _ =>
    simp [ColumnType.conversions, Scalar.type]

end Scalar.Converts

namespace Value

variable {v w : Value} {type : ColumnType}

/-- A scalar that the column may not hold yet is converted as such. -/
theorem convert?_scalar {s t : Scalar} (haccepts : ¬type.accepts (.scalar s)) (h : s.convert? type = some t) :
    (scalar s).convert? type = some (.scalar t) := by
  unfold convert?
  rw [if_neg haccepts]
  exact congrArg (Option.map scalar) h

/-- **A value is converted to what it becomes.** -/
theorem becomes_of_convert? (hv : type = .decimal → v.Canonical) (h : v.convert? type = some w) :
    v.Becomes type w := by
  unfold convert? at h
  split at h
  next haccepts => exact Option.some.inj h ▸ .kept haccepts
  next =>
    split at h
    case h_1 s _ =>
      obtain ⟨t, ht, rfl⟩ := Option.map_eq_some_iff.mp h
      by_cases htype : type = .string
      · rw [htype, Scalar.convert?_string] at ht
        exact Option.some.inj ht ▸ .text (.scalar s) htype
      · obtain ⟨ht, hs⟩ := Scalar.converts_of_convert? htype hv ht
        exact .converted hs ht
    case h_2 =>
      split at h
      next htype => exact Option.some.inj h ▸ .text _ htype
      next => cases h

/-- What becomes something is convertible. -/
theorem Becomes.convertible (h : v.Becomes type w) : v.Convertible type := by
  cases h with
  | kept h => exact .inl h
  | text v htype => exact .inr (.inl htype)
  | converted h htype =>
    subst htype
    rcases h.table with hmem | ⟨htype, x, rfl, hx⟩
    · exact .inr (.inr (.inl hmem))
    · exact .inr (.inr (.inr ⟨htype, x, rfl, hx⟩))

/-- **A value is converted if and only if it is convertible.** -/
theorem exists_convert?_iff (hv : type = .decimal → v.Canonical) :
    (∃ w, v.convert? type = some w) ↔ v.Convertible type := by
  refine ⟨fun ⟨w, h⟩ => (becomes_of_convert? hv h).convertible, fun h => ?_⟩
  by_cases haccepts : type.accepts v
  · exact ⟨v, if_pos haccepts⟩
  rcases h.resolve_left haccepts with htype | hmem | ⟨htype, x, rfl, hx⟩
  · subst htype
    cases v with
    | scalar s => exact ⟨_, convert?_scalar haccepts (Scalar.convert?_string s)⟩
    | row f | frame f => exact ⟨_, if_neg haccepts⟩
  · cases v with
    | scalar s =>
      obtain ⟨t, ht⟩ := Scalar.exists_convert? hmem
      exact ⟨_, convert?_scalar haccepts ht⟩
    | row _ | frame _ => simp [ColumnType.conversions, Value.type] at hmem
  · subst htype
    obtain ⟨d, hd⟩ := (Decimal.exists_ofDouble?_iff (hv rfl)).mpr hx
    exact ⟨_, convert?_scalar haccepts (congrArg (Option.map Scalar.decimal) hd)⟩

theorem convert?_eq_none_iff (hv : type = .decimal → v.Canonical) :
    v.convert? type = none ↔ ¬v.Convertible type := by
  rw [← exists_convert?_iff hv, Option.eq_none_iff_forall_ne_some, not_exists]

/-- What a value becomes, a column of the type may hold. -/
theorem Becomes.accepts (h : v.Becomes type w) : type.accepts w := by
  cases h with
  | kept h => exact h
  | text v htype => exact htype ▸ rfl
  | @converted s t h htype =>
    subst htype
    exact ColumnType.accepts_type (.scalar t)

/-- A column of doubles or of decimals does not hold whole numbers. -/
theorem not_accepts_of_whole (htype : type = .double ∨ type = .decimal)
    (hv : v.type = .int ∨ v.type = .long) : ¬type.accepts v := by
  rcases htype with rfl | rfl <;> rcases hv with hv | hv <;> simp [ColumnType.accepts, hv]

/-- A whole number is the same double, and the same decimal, after it has become a `long`. -/
theorem exists_convert?_by_long (htype : type = .double ∨ type = .decimal)
    (hv : v.type = .int ∨ v.type = .long) : ∃ w u, v.convert? .long = some w ∧
      w.convert? type = some u ∧ v.convert? type = some u := by
  have haccepts := not_accepts_of_whole htype hv
  have hmem : (v.type, type) ∈ ColumnType.conversions := by
    rcases htype with rfl | rfl <;> rcases hv with hv | hv <;> simp [hv, ColumnType.conversions]
  rcases v with (s | _ | _)
  · obtain ⟨t, ht⟩ := Scalar.exists_convert? hmem
    have hdirect := convert?_scalar haccepts ht
    rcases hv with hv | hv
    · obtain ⟨n, rfl⟩ : ∃ n, s = .int n := by
        cases s <;> simp_all [Value.type, Scalar.type]
      have hlong : (Scalar.long n.toInt64).convert? type = some t := by
        rw [← ht]
        rcases htype with rfl | rfl <;> simp only [Scalar.convert?, Int32.toInt_toInt64]
      exact ⟨.scalar (.long n.toInt64), _, rfl,
        convert?_scalar (not_accepts_of_whole htype (.inr rfl)) hlong, hdirect⟩
    · exact ⟨_, _, if_pos (hv ▸ ColumnType.accepts_type _), hdirect, hdirect⟩
  · simp [Value.type] at hv
  · simp [Value.type] at hv

/-- A date is the date of the date-time that it becomes. -/
theorem exists_convert?_by_dateTime (hv : v.type = .date) :
    ∃ w, v.convert? .dateTime = some w ∧ w.convert? .date = some v := by
  rcases v with (s | _ | _)
  · obtain ⟨d, rfl⟩ : ∃ d, s = .date d := by
      cases s <;> simp_all [Value.type, Scalar.type]
    exact ⟨.scalar (.dateTime ⟨d, .midnight⟩), rfl, rfl⟩
  · simp [Value.type] at hv
  · simp [Value.type] at hv

/-! ### What becomes of a cell -/

variable {cell other : Option Value}

theorem convertCell_of_convert? (h : v.convert? type = some w) : convertCell type (some v) = .ok (some w) := by
  rw [convertCell, h]

/-- A null stays null, and a value becomes what it becomes. -/
theorem becomes_of_convertCell (hcell : type = .decimal → ∀ v ∈ cell, v.Canonical)
    (h : convertCell type cell = .ok other) : Option.Rel (Becomes type) cell other := by
  cases cell with
  | none =>
    obtain rfl : none = other := Except.ok.inj h
    exact .none
  | some v =>
    cases hv : v.convert? type with
    | none => simp [convertCell, hv] at h
    | some w =>
      obtain rfl : some w = other := Except.ok.inj ((convertCell_of_convert? hv).symm.trans h)
      exact .some (becomes_of_convert? (fun htype => hcell htype v rfl) hv)

theorem exists_convertCell_iff (hcell : type = .decimal → ∀ v ∈ cell, v.Canonical) :
    (∃ other, convertCell type cell = .ok other) ↔ ∀ v ∈ cell, v.Convertible type := by
  cases cell with
  | none => exact iff_of_true ⟨none, rfl⟩ (by simp)
  | some v =>
    have hv := exists_convert?_iff fun htype => hcell htype v rfl
    simp only [Option.mem_some_iff, forall_eq', ← hv]
    cases hv : v.convert? type <;> simp [convertCell, hv]

/-- **A cell is refused for a value without a conversion.** -/
theorem convertCell_eq_error_iff (hcell : type = .decimal → ∀ v ∈ cell, v.Canonical) {e : FrameError} :
    convertCell type cell = .error e ↔
      ∃ v, cell = some v ∧ ¬v.Convertible type ∧ e = .typeConversion v.text v.type type := by
  cases cell with
  | none => simp [convertCell]
  | some v =>
    simp only [Option.some.injEq, exists_eq_left', ← convert?_eq_none_iff fun htype => hcell htype v rfl]
    cases hv : v.convert? type with
    | none => simp [convertCell, hv, eq_comm]
    | some w => simp [convertCell, hv]

end Value

/-! ### What becomes of a column -/

namespace Column

@[simp] theorem name_ofValues (name : String) (type : ColumnType) (cells : List (Option Value)) :
    (ofValues name type cells).name = name := rfl

@[simp] theorem type_ofValues (name : String) (type : ColumnType) (cells : List (Option Value)) :
    (ofValues name type cells).type = type := rfl

@[simp] theorem cells_ofValues (name : String) (type : ColumnType) (cells : List (Option Value)) :
    (ofValues name type cells).cells = cells := rfl

end Column

/-- **A column converted to a type**: of the same name and length, null in the same rows and nullable if
there are any, with what the values become in the other rows. -/
structure Column.ConvertedTo (type : ColumnType) (c d : Column) : Prop where
  name_eq : d.name = c.name
  length_eq : d.length = c.length
  type_eq : d.type = type
  nulls_eq : d.cells.map Option.isNone = c.cells.map Option.isNone
  nullable_iff : d.isNullable ↔ none ∈ d.cells
  becomes : List.Forall₂ (Option.Rel (Value.Becomes type)) c.cells d.cells
  accepts : ∀ v, some v ∈ d.cells → type.accepts v

/-- The column of what the cells become. -/
theorem Column.convertedTo_ofValues {c : Column} {type : ColumnType} {cells : List (Option Value)}
    (h : List.Forall₂ (Option.Rel (Value.Becomes type)) c.cells cells) :
    c.ConvertedTo type (.ofValues c.name type cells) where
  name_eq := rfl
  length_eq := by
    show cells.length = c.length
    rw [← c.length_cells, h.length_eq]
  type_eq := rfl
  nulls_eq := by
    show cells.map Option.isNone = c.cells.map Option.isNone
    rw [← List.forall₂_eq_eq_eq, List.forall₂_map_left_iff, List.forall₂_map_right_iff]
    refine h.flip.imp fun other cell hcell => ?_
    cases hcell <;> rfl
  nullable_iff := by
    show cells.any Option.isNone = true ↔ none ∈ cells
    simp
  becomes := h
  accepts v hv := by
    obtain ⟨cell, -, hcell⟩ := exists_mem_of_forall₂ h hv
    cases hcell with
    | some hv => exact hv.accepts

namespace Registry

variable {r : Registry} {o : Options} {c : Column} {type : ColumnType}

/-- A column that is not one of texts is converted cell by cell. -/
theorem convert_eq_map (hstring : c.type ≠ .string) (hown : type ≠ c.type) (hrow : type ≠ .row)
    (hframe : type ≠ .frame) : r.convert o c type =
      (c.cells.mapM (Value.convertCell type)).map (Column.ofValues c.name type) := by
  rw [convert, if_neg hown.symm, if_neg hstring]
  cases c.cells.mapM (Value.convertCell type) with
  | error e => rfl
  | ok cells => exact Column.shape_eq_ofValues hrow hframe

/-- **A column is converted if all its values are convertible**, to what they become, and refused at the
first that is not. -/
theorem convert_cells (hstring : c.type ≠ .string) (hown : type ≠ c.type) (hrow : type ≠ .row)
    (hframe : type ≠ .frame) (hdoubles : type = .decimal → ∀ v, some v ∈ c.cells → v.Canonical) :
    ((∃ d, r.convert o c type = .ok d) ↔ ∀ v, some v ∈ c.cells → v.Convertible type) ∧
      (∀ d, r.convert o c type = .ok d → c.ConvertedTo type d) ∧
      ∀ e, r.convert o c type = .error e ↔ ∃ before v after, c.cells = before ++ some v :: after ∧
        (∀ u, some u ∈ before → u.Convertible type) ∧ ¬v.Convertible type ∧
          e = .typeConversion v.text v.type type := by
  have hcell {cell : Option Value} (hmem : cell ∈ c.cells) : type = .decimal → ∀ v ∈ cell, v.Canonical :=
    fun htype v hv => hdoubles htype v (hv ▸ hmem)
  rw [convert_eq_map hstring hown hrow hframe]
  refine ⟨⟨?_, fun h => ?_⟩, fun d hd => ?_, fun e => ?_⟩
  · rintro ⟨d, hd⟩ v hv
    obtain ⟨cells, hcells, -⟩ := map_eq_ok_iff.mp hd
    obtain ⟨other, -, hother⟩ := exists_of_mapM_eq_ok hcells hv
    exact (Value.exists_convertCell_iff (hcell hv)).mp ⟨other, hother⟩ v rfl
  · have hcells : ∀ cell ∈ c.cells, ∃ other, Value.convertCell type cell = .ok other :=
      fun cell hmem => (Value.exists_convertCell_iff (hcell hmem)).mpr fun v hv => h v (hv ▸ hmem)
    obtain ⟨cells, hcells⟩ := exists_mapM_eq_ok hcells
    exact ⟨_, map_eq_ok_iff.mpr ⟨cells, hcells, rfl⟩⟩
  · obtain ⟨cells, hcells, rfl⟩ := map_eq_ok_iff.mp hd
    have hboth := (List.forall₂_and_left _ _).mpr ⟨fun _ => hcell, mapM_eq_ok_iff.mp hcells⟩
    exact Column.convertedTo_ofValues (hboth.imp fun _ _ h => Value.becomes_of_convertCell h.1 h.2)
  · rw [map_eq_error_iff, mapM_eq_error_iff]
    constructor
    · rintro ⟨before, cell, after, hcells, hbefore, herror⟩
      rw [hcells] at hcell
      obtain ⟨v, rfl, hv, he⟩ := (Value.convertCell_eq_error_iff (hcell (by simp))).mp herror
      refine ⟨before, v, after, hcells, fun u hu => ?_, hv, he⟩
      exact (Value.exists_convertCell_iff (hcell (by simp [hu]))).mp (hbefore _ hu) u rfl
    · rintro ⟨before, v, after, hcells, hconvertible, hv, he⟩
      rw [hcells] at hcell
      refine ⟨before, some v, after, hcells, fun cell hmem => ?_,
        (Value.convertCell_eq_error_iff (hcell (by simp))).mpr ⟨v, rfl, hv, he⟩⟩
      exact (Value.exists_convertCell_iff (hcell (by simp [hmem]))).mpr fun u hu => hconvertible u (hu ▸ hmem)

/-! ### One conversion after another -/

/-- A conversion of the column that a conversion has given. -/
theorem convert_convert {middle : ColumnType} {through cells : List (Option Value)}
    (hstring : c.type ≠ .string) (hown : middle ≠ c.type)
    (hmiddle : middle ≠ .string ∧ middle ≠ .row ∧ middle ≠ .frame)
    (htype : type ≠ middle ∧ type ≠ .row ∧ type ≠ .frame)
    (hfirst : c.cells.mapM (Value.convertCell middle) = .ok through)
    (hsecond : through.mapM (Value.convertCell type) = .ok cells) :
    ∃ d, r.convert o c middle = .ok d ∧ r.convert o d type = .ok (.ofValues c.name type cells) := by
  refine ⟨.ofValues c.name middle through, ?_, ?_⟩
  · rw [convert_eq_map hstring hown hmiddle.2.1 hmiddle.2.2, hfirst]
    rfl
  · rw [convert_eq_map (by simpa using hmiddle.1) (by simpa using htype.1) htype.2.1 htype.2.2,
      Column.cells_ofValues, hsecond]
    rfl

/-- **Whole numbers may be converted by way of `long`.** -/
theorem convert_by_long (htype : type = .double ∨ type = .decimal) (hstring : c.type ≠ .string)
    (hown : type ≠ c.type) (h : ∀ v, some v ∈ c.cells → v.type = .int ∨ v.type = .long) :
    ∃ d e, r.convert o c .long = .ok d ∧ r.convert o d type = .ok e ∧ r.convert o c type = .ok e := by
  have hnested : type ≠ .long ∧ type ≠ .row ∧ type ≠ .frame := by
    rcases htype with rfl | rfl <;> simp
  have hcells : ∀ cell ∈ c.cells, ∃ other third, Value.convertCell .long cell = .ok other ∧
      Value.convertCell type other = .ok third ∧ Value.convertCell type cell = .ok third := by
    intro cell hcell
    cases cell with
    | none => exact ⟨none, none, rfl, rfl, rfl⟩
    | some v =>
      obtain ⟨w, u, hw, hu, hv⟩ := Value.exists_convert?_by_long htype (h v hcell)
      exact ⟨some w, some u, Value.convertCell_of_convert? hw, Value.convertCell_of_convert? hu,
        Value.convertCell_of_convert? hv⟩
  obtain ⟨through, cells, hfirst, hsecond, hdirect⟩ := exists_mapM_mapM hcells
  have hc : r.convert o c type = .ok (.ofValues c.name type cells) := by
    rw [convert_eq_map hstring hown hnested.2.1 hnested.2.2, hdirect]
    rfl
  -- a column that is of the type already is no step on the way
  by_cases hlong : c.type = .long
  · exact ⟨c, _, if_pos hlong, hc, hc⟩
  · obtain ⟨d, hd, he⟩ := convert_convert (r := r) (o := o) hstring (Ne.symm hlong) (by simp) hnested
      hfirst hsecond
    exact ⟨d, _, hd, he, hc⟩

/-- **Dates are converted to date-times and back.** -/
theorem convert_by_dateTime (hstring : c.type ≠ .string) (hown : c.type ≠ .dateTime)
    (h : ∀ v, some v ∈ c.cells → v.type = .date) :
    ∃ d e, r.convert o c .dateTime = .ok d ∧ r.convert o d .date = .ok e ∧ e.cells = c.cells := by
  have hcells : ∀ cell ∈ c.cells, ∃ other third, Value.convertCell .dateTime cell = .ok other ∧
      Value.convertCell .date other = .ok third ∧
        (.ok cell : Except FrameError (Option Value)) = .ok third := by
    intro cell hcell
    cases cell with
    | none => exact ⟨none, none, rfl, rfl, rfl⟩
    | some v =>
      obtain ⟨w, hw, hv⟩ := Value.exists_convert?_by_dateTime (h v hcell)
      exact ⟨some w, some v, Value.convertCell_of_convert? hw, Value.convertCell_of_convert? hv, rfl⟩
  obtain ⟨through, cells, hfirst, hsecond, hsame⟩ := exists_mapM_mapM hcells
  obtain rfl : c.cells = cells := by
    rw [mapM_eq_ok_iff] at hsame
    exact List.forall₂_eq_eq_eq ▸ hsame.imp fun _ _ h => Except.ok.inj h
  obtain ⟨d, hd, he⟩ := convert_convert (r := r) (o := o) hstring hown.symm (by simp) (by simp)
    hfirst hsecond
  exact ⟨d, _, hd, he, rfl⟩

/-- Cells that a column of the type may hold are kept. -/
theorem mapM_convertCell_of_accepts {cells : List (Option Value)}
    (h : ∀ v, some v ∈ cells → type.accepts v) : cells.mapM (Value.convertCell type) = .ok cells := by
  rw [mapM_eq_ok_iff, List.forall₂_same]
  intro cell hcell
  cases cell with
  | none => rfl
  | some v => exact Value.convertCell_of_convert? (if_pos (h v hcell))

/-- **A group is converted to a column of its rows and back.** -/
theorem convert_group_back {name : String} {g : Frame} (hg : g.WellFormed) (hrows : 0 < g.rowCount)
    (h : ∀ path c, g.get path = .ok c → c.Typed ∧ c.MarksNulls)
    (htype : type = .any ∨ ∃ label, type = .custom label) :
    ∃ d, r.convert o (.group name g) type = .ok d ∧ r.convert o d .row = .ok (.group name g) := by
  have haccepts (v : Value) : type.accepts v := by
    rcases htype with rfl | ⟨label, rfl⟩ <;> rfl
  have hother : type ≠ .row ∧ type ≠ .string ∧ type ≠ .frame := by
    rcases htype with rfl | ⟨label, rfl⟩ <;> simp
  have hwf : (Column.group name g).WellFormed := (Column.wellFormed_group _ _).mpr hg
  generalize hcells : (Column.group name g).cells = cells
  refine ⟨.ofValues name type cells, ?_, ?_⟩
  · rw [convert_eq_map (by simp [Column.type]) hother.1 hother.1 hother.2.2, hcells,
      mapM_convertCell_of_accepts fun v _ => haccepts v]
    rfl
  · have hrow : ∀ v, some v ∈ cells → ColumnType.row.accepts v := by
      rw [← hcells]
      intro v hv
      obtain ⟨i, -, hi⟩ := List.mem_map.mp hv
      exact Option.some.inj hi ▸ rfl
    -- the depth that the cells bound is as good as that of the frame
    have hstack : Piece.stack (cellsDepth cells) (cells.map Piece.ofCell) = .ok g := by
      have hwithin {n : Nat} (hn : ∀ v, some v ∈ cells → v.depth ≤ n) :
          ∀ p ∈ cells.map Piece.ofCell, p.Within n :=
        List.forall_mem_map.mpr fun cell hcell => Piece.within_ofCell fun v hv => by
          obtain rfl : cell = some v := hv
          exact ⟨hwf.of_mem_cells (hcells ▸ hcell), hn v hcell⟩
      rw [Piece.stack_eq_of_within (hwithin (cellsDepth_le_iff.mp (Nat.le_refl _)))
        (hwithin fun v hv => Column.depth_le_of_mem_cells hwf (hcells ▸ hv)), ← hcells,
        Frame.map_ofCell_cells_group]
      refine Frame.stack_rowPieces hg hrows (fun label rest c hc => ?_) (Nat.le_refl _)
      exact h ⟨label :: rest, List.cons_ne_nil _ _⟩ c (Frame.get_eq_ok_iff.mpr hc)
    rw [convert, Column.type_ofValues, if_neg hother.1, if_neg hother.2.1, Column.name_ofValues,
      Column.cells_ofValues, mapM_convertCell_of_accepts hrow]
    show (Piece.stack (cellsDepth cells) (cells.map Piece.ofCell)).map (Column.group name) = _
    rw [hstack]
    rfl

/-- **Conversion, cell by cell.** A column that is not one of texts is converted to another type, no
nested one, if and only if all its values are convertible; the result has what they become, and the
error is about the first value that is not. Doubles are canonical where they are to become decimals.

Whole numbers become the same doubles and decimals by way of `long`, dates are regained from date-times,
and a group with rows is regained from the column of its rows, if the columns in it are typed and mark
their nulls. -/
theorem convert_cell_by_cell (r : Registry) (o : Options) :
    (∀ c type, c.type ≠ .string → type ≠ c.type → type ≠ .row → type ≠ .frame →
      (type = .decimal → ∀ v, some v ∈ c.cells → v.Canonical) →
      ((∃ d, r.convert o c type = .ok d) ↔ ∀ v, some v ∈ c.cells → v.Convertible type) ∧
        (∀ d, r.convert o c type = .ok d → c.ConvertedTo type d) ∧
          ∀ e, r.convert o c type = .error e ↔
            ∃ before v after, c.cells = before ++ some v :: after ∧
              (∀ u, some u ∈ before → u.Convertible type) ∧ ¬v.Convertible type ∧
                e = .typeConversion v.text v.type type) ∧
      (∀ c type, type = .double ∨ type = .decimal → c.type ≠ .string → type ≠ c.type →
        (∀ v, some v ∈ c.cells → v.type = .int ∨ v.type = .long) →
          ∃ d e, r.convert o c .long = .ok d ∧ r.convert o d type = .ok e ∧
            r.convert o c type = .ok e) ∧
      (∀ c, c.type ≠ .string → c.type ≠ .dateTime → (∀ v, some v ∈ c.cells → v.type = .date) →
        ∃ d e, r.convert o c .dateTime = .ok d ∧ r.convert o d .date = .ok e ∧
          e.cells = c.cells) ∧
      ∀ name g type, type = .any ∨ (∃ label, type = .custom label) → g.WellFormed →
        0 < g.rowCount → (∀ path c, g.get path = .ok c → c.Typed ∧ c.MarksNulls) →
          ∃ d, r.convert o (.group name g) type = .ok d ∧
            r.convert o d .row = .ok (.group name g) :=
  ⟨fun _ _ hstring hown hrow hframe hdoubles => convert_cells hstring hown hrow hframe hdoubles,
    fun _ _ htype hstring hown h => convert_by_long htype hstring hown h,
    fun _ hstring hown h => convert_by_dateTime hstring hown h,
    fun _ _ _ htype hg hrows h => convert_group_back hg hrows h htype⟩

/-- A truth value among numbers, a tenth and a number at the bound of decimals, the next number after it, whole
numbers and a null, a leap day, and a group inside a group. -/
theorem convert_cell_by_cell_mixed :
    let mixed : Column := .value "n" (.custom "mixed") true
      [some (.scalar (.int 7)), none, some (.scalar (.long 8)), some (.scalar (.boolean true))]
    let doubles : Column := .value "x" .double true [some (.scalar (.double (.finite false 7205759403792794 (-56)))),
      none, some (.scalar (.double (.finite true (2 ^ 52) 44)))]
    let decimals : Column := .value "x" .decimal true
      [some (.scalar (.decimal ⟨false, 1, 1, by decide, by decide⟩)), none,
        some (.scalar (.decimal ⟨true, 79228162514264337593543950330, 0, by decide, by decide⟩))]
    let beyond : Value := .scalar (.double (.finite false (2 ^ 52 + 1) 44))
    let wide : Column := .value "x" .double false [some beyond]
    let whole : Column := .value "w" .any true
      [some (.scalar (.int 7)), none, some (.scalar (.long (-8)))]
    let days : Column := .value "d" .date false [some (.scalar (.date ⟨2024, 2, 29, by decide⟩))]
    let g : Frame := ⟨[.group "h" ⟨[.ofValues "x" .int [some (.scalar (.int 1)), none]], 2⟩,
      .frames "t" [.empty, ⟨[.ofTexts "s" [some "a"]], 1⟩]], 2⟩
    ((mixed.type ≠ .string ∧ .double ≠ mixed.type) ∧ default.convert {} mixed .double =
        .error (.typeConversion "true" .boolean .double)) ∧
      ((∀ v, some v ∈ doubles.cells → v.Canonical) ∧ default.convert {} doubles .decimal = .ok decimals ∧
        doubles.ConvertedTo .decimal decimals) ∧
      ((∀ v, some v ∈ wide.cells → v.Canonical) ∧ default.convert {} wide .decimal =
        .error (.typeConversion beyond.text .double .decimal)) ∧
      ((whole.type ≠ .string ∧ .decimal ≠ whole.type ∧
          ∀ v, some v ∈ whole.cells → v.type = .int ∨ v.type = .long) ∧
        ∃ d e, default.convert {} whole .long = .ok d ∧ default.convert {} d .decimal = .ok e ∧
          default.convert {} whole .decimal = .ok e) ∧
      ((days.type ≠ .string ∧ days.type ≠ .dateTime ∧
          ∀ v, some v ∈ days.cells → v.type = .date) ∧
        ∃ d e, default.convert {} days .dateTime = .ok d ∧ default.convert {} d .date = .ok e ∧
          e.cells = days.cells) ∧
      (g.WellFormed ∧ 0 < g.rowCount ∧ ∀ path c, g.get path = .ok c → c.Typed ∧ c.MarksNulls) ∧
        ∃ d, default.convert {} (.group "g" g) .any = .ok d ∧
          default.convert {} d .row = .ok (.group "g" g) := by
  intro mixed doubles decimals beyond wide whole days g
  obtain ⟨hcells, hwhole, hdays, hgroups⟩ := convert_cell_by_cell default {}
  have hmixed : mixed.type ≠ .string ∧ .double ≠ mixed.type := by decide
  have herror := (hcells mixed .double hmixed.1 hmixed.2 (by decide) (by decide)
    fun h => absurd h (by decide)).2.2 (.typeConversion "true" .boolean .double)
  have hdoubles : ∀ v, some v ∈ doubles.cells → v.Canonical := by
    simp [doubles, Column.cells, Value.Canonical, Double.Canonical, Double.mantissaBound, Double.minExponent,
      Double.maxExponent, Double.implicitBit]
  have hconverted : default.convert {} doubles .decimal = .ok decimals := rfl
  have hbecomes := (hcells doubles .decimal (by decide) (by decide) (by decide) (by decide)
    fun _ => hdoubles).2.1 decimals hconverted
  have hwide : ∀ v, some v ∈ wide.cells → v.Canonical := by
    simp [wide, beyond, Column.cells, Value.Canonical, Double.Canonical, Double.mantissaBound, Double.minExponent,
      Double.maxExponent, Double.implicitBit]
  have hrefused := (hcells wide .decimal (by decide) (by decide) (by decide) (by decide) fun _ => hwide).2.2
    (.typeConversion beyond.text .double .decimal)
  have hw : whole.type ≠ .string ∧ .decimal ≠ whole.type ∧
      ∀ v, some v ∈ whole.cells → v.type = .int ∨ v.type = .long := by
    refine ⟨by decide, by decide, ?_⟩
    simp [whole, Column.cells, Value.type, Scalar.type]
  have hd : days.type ≠ .string ∧ days.type ≠ .dateTime ∧
      ∀ v, some v ∈ days.cells → v.type = .date := by
    refine ⟨by decide, by decide, ?_⟩
    simp [days, Column.cells, Value.type, Scalar.type]
  have hg : g.WellFormed := by
    simp [g, Frame.WellFormed, columnsWellFormed, Column.WellFormed, Column.ofTexts,
      framesWellFormed, Column.ofValues, cellsWellFormed, Value.ofText, Value.WellFormed,
      Column.name, Column.length, Frame.empty]
  have hpaths : ∀ path ∈ g.paths, ∀ c, g.get path = .ok c → c.Typed ∧ c.MarksNulls := by
    simp [g, Frame.paths, Column.pathsAll, Column.paths, Path.under, Path.single, Frame.get,
      Frame.getFrom, Frame.column?, Column.name, Column.ofValues, Column.Typed, Column.MarksNulls]
  have h : ∀ path c, g.get path = .ok c → c.Typed ∧ c.MarksNulls := fun path c hc =>
    hpaths path ((Frame.mem_paths hg path).mpr ⟨c, hc⟩) c hc
  have hsplit : mixed.cells = [some (.scalar (.int 7)), none, some (.scalar (.long 8))] ++
      some (.scalar (.boolean true)) :: [] := rfl
  refine ⟨⟨hmixed, herror.mpr ⟨_, _, _, hsplit, ?_, ?_, rfl⟩⟩, ⟨hdoubles, hconverted, hbecomes⟩,
    ⟨hwide, hrefused.mpr ⟨[], beyond, [], rfl, by simp, ?_, rfl⟩⟩,
    ⟨hw, hwhole whole .decimal (.inr rfl) hw.1 hw.2.1 hw.2.2⟩,
    ⟨hd, hdays days hd.1 hd.2.1 hd.2.2⟩, ⟨hg, Nat.zero_lt_two, h⟩,
    hgroups "g" g .any (.inl rfl) hg Nat.zero_lt_two h⟩
  · simp [Value.Convertible, Value.type, Scalar.type, ColumnType.conversions]
  · simp [Value.Convertible, Value.type, Scalar.type, ColumnType.conversions, ColumnType.accepts]
  · have hbeyond : ¬(Double.finite false (2 ^ 52 + 1) 44).WithinDecimals := by
      norm_num [Double.WithinDecimals, Double.toRat]
    simpa [beyond, Value.Convertible, Value.type, Scalar.type, ColumnType.conversions, ColumnType.accepts]
      using hbeyond

end Registry

end Colonnade
