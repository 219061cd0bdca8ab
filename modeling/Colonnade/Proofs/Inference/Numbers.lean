import Colonnade.Proofs.Inference.Place
import Colonnade.Proofs.Inference.Telltale

/-!
# The narrowest type of numbers

A column of numbers in the writing of the neutral locale gets the narrowest type that is wide enough:

| the texts | the type | the values |
| --- | --- | --- |
| all integers of 32 bits | `int` | exact |
| all integers of 64 bits | `long` | exact |
| any other numbers | `double` | the nearest doubles |

The three kinds of texts are contained in one another, because an integer is a number without separators
(`IntegerForm.exists_numberForm`). In the list of parsers those of dates, times, durations and URLs stand between
integers and doubles; they take no number, as each of them wants something that no number has
(`convert_eq_none_of_number`). `numbers_get_narrowest` says all this of the built-in registry.
-/

namespace Colonnade

open Number

/-! ### Integers are numbers -/

namespace Number

variable {cs ds : List Char} {l : Locale} {i : ℤ}

/-- Digits alone are a group. -/
theorem IsDigits.grouped (h : IsDigits ds) : Grouped l ds ds := by
  obtain ⟨hne, hds⟩ := h
  induction ds with
  | nil => exact absurd rfl hne
  | cons c ds ih =>
    obtain ⟨hc, hds⟩ := List.forall_mem_cons.mp hds
    cases ds with
    | nil => exact .digit hc
    | cons d ds => exact .next hc (ih (by simp) hds)

/-- **An integer is a number of the same value.** -/
theorem IntegerForm.exists_numberForm (h : IntegerForm cs i) :
    ∃ n, NumberForm l cs n ∧ n.value = i := by
  obtain ⟨hsign, hds⟩ := h
  next s ds negative =>
  have hform : NumberForm l (s ++ (ds ++ ([] ++ []))) ⟨negative, ds, [], 0⟩ :=
    .mk hsign (.grouped hds.grouped) .absent .absent (.inl hds.ne_nil)
  have hnone : valueOf [] = 0 := rfl
  refine ⟨_, by simpa using hform, ?_⟩
  cases negative <;> simp [Parts.value, hnone]

theorem readInt32?_eq_some_iff {n : Int32} : readInt32? cs = some n ↔ IntegerForm cs n.toInt := by
  rw [← readInt?_eq_some_iff, readInt32?]
  constructor
  · intro h
    obtain ⟨i, hi, rfl⟩ := Option.map_eq_some_iff.mp h
    obtain ⟨hread, hwithin⟩ := Option.filter_eq_some_iff.mp hi
    obtain ⟨hlow, hhigh⟩ := within_iff.mp hwithin
    simp only [int32Range] at hlow hhigh
    rw [hread, Int32.toInt_ofInt_of_le (by omega) (by omega)]
  · intro h
    rw [h, Option.filter_some_pos (within_int32Range n), Option.map_some, Int32.ofInt_toInt]

theorem readInt64?_eq_some_iff {n : Int64} : readInt64? cs = some n ↔ IntegerForm cs n.toInt := by
  rw [← readInt?_eq_some_iff, readInt64?]
  constructor
  · intro h
    obtain ⟨i, hi, rfl⟩ := Option.map_eq_some_iff.mp h
    obtain ⟨hread, hwithin⟩ := Option.filter_eq_some_iff.mp hi
    obtain ⟨hlow, hhigh⟩ := within_iff.mp hwithin
    simp only [int64Range] at hlow hhigh
    rw [hread, Int64.toInt_ofInt_of_le (by omega) (by omega)]
  · intro h
    rw [h, Option.filter_some_pos (within_int64Range n), Option.map_some, Int64.ofInt_toInt]

end Number

/-! ### The types of numbers -/

/-- The text of an integer of 32 bits. -/
def IsInt32 (s : String) : Prop :=
  ∃ n : Int32, IntegerForm s.toList n.toInt

/-- The text of an integer of 64 bits. -/
def IsInt64 (s : String) : Prop :=
  ∃ n : Int64, IntegerForm s.toList n.toInt

/-- An integer of 32 bits is one of 64 bits. -/
theorem integerForm_toInt64 {s : String} {n : Int32} (h : IntegerForm s.toList n.toInt) :
    IntegerForm s.toList n.toInt64.toInt := by
  rwa [Int32.toInt_toInt64]

/-- **The narrowest type for some texts** of numbers. -/
inductive Narrowest (texts : String → Prop) : ColumnType → Prop
  | int (h : ∀ s, texts s → IsInt32 s) : Narrowest texts .int
  | long (hwide : ¬∀ s, texts s → IsInt32 s) (h : ∀ s, texts s → IsInt64 s) : Narrowest texts .long
  | double (hwide : ¬∀ s, texts s → IsInt64 s) : Narrowest texts .double

/-- **A value is what a text denotes** in a type: an integer exactly, any other number by the nearest double,
and a sentinel by what it stands for. -/
inductive Denotes : ColumnType → String → Value → Prop
  | int {s : String} {n : Int32} (h : IntegerForm s.toList n.toInt) :
      Denotes .int s (.scalar (.int n))
  | long {s : String} {n : Int64} (h : IntegerForm s.toList n.toInt) :
      Denotes .long s (.scalar (.long n))
  | number {s : String} {n : Parts} {d : Double} (h : NumberForm .root s.toList n)
      (hnearest : Double.Nearest n.value d) (hsign : d.isNegative = n.negative) :
      Denotes .double s (.scalar (.double d))
  | sentinel {s : String} {d : Double} (h : SentinelForm s.toList d) :
      Denotes .double s (.scalar (.double d))

namespace Parser

variable {context : Context} {s : String} {v : Value}

theorem int_convert_eq_some_iff :
    int.convert context s = some v ↔ ∃ n : Int32, v = .scalar (.int n) ∧ IntegerForm s.toList n.toInt := by
  simp only [int, ofScalar, Option.map_map, Option.map_eq_some_iff, readInt32?_eq_some_iff,
    Function.comp_apply]
  exact ⟨fun ⟨n, hn, hv⟩ => ⟨n, hv.symm, hn⟩, fun ⟨n, hv, hn⟩ => ⟨n, hn, hv.symm⟩⟩

theorem long_convert_eq_some_iff :
    long.convert context s = some v ↔ ∃ n : Int64, v = .scalar (.long n) ∧ IntegerForm s.toList n.toInt := by
  simp only [long, ofScalar, Option.map_map, Option.map_eq_some_iff, readInt64?_eq_some_iff,
    Function.comp_apply]
  exact ⟨fun ⟨n, hn, hv⟩ => ⟨n, hv.symm, hn⟩, fun ⟨n, hv, hn⟩ => ⟨n, hn, hv.symm⟩⟩

theorem rootDouble_convert_eq_some_iff :
    rootDouble.convert context s = some v ↔
      ∃ d, v = .scalar (.double d) ∧ readDouble? .root s = some d := by
  simp only [rootDouble, ofScalar, Option.map_map, Option.map_eq_some_iff, Function.comp_apply]
  exact ⟨fun ⟨d, hd, hv⟩ => ⟨d, hv.symm, hd⟩, fun ⟨d, hv, hd⟩ => ⟨d, hd, hv.symm⟩⟩

end Parser

/-- What a double is read from denotes it. -/
theorem denotes_of_readDouble? {s : String} {d : Double} (h : readDouble? .root s = some d) :
    Denotes .double s (.scalar (.double d)) := by
  rcases form_of_readDouble? separable_root h with hform | ⟨n, hform, rfl⟩
  · exact .sentinel hform
  · exact .number hform (nearest_parts n) (Double.isNegative_ofDecimal _ _ _)

/-- **An integer is read as a double**, the nearest one. -/
theorem exists_nearest_of_integerForm {s : String} {i : ℤ} (h : IntegerForm s.toList i) :
    ∃ d, readDouble? .root s = some d ∧ Double.Nearest i d := by
  obtain ⟨n, hn, hvalue⟩ := h.exists_numberForm (l := .root)
  obtain ⟨-, -, -, hread⟩ := readDouble?_of_form separable_root hn
  exact ⟨n.double, hread, hvalue ▸ nearest_parts n⟩

theorem denotes_of_int (context : Parser.Context) {s : String} {v : Value}
    (h : Parser.int.convert context s = some v) : Denotes .int s v := by
  obtain ⟨n, rfl, hn⟩ := Parser.int_convert_eq_some_iff.mp h
  exact .int hn

theorem denotes_of_long (context : Parser.Context) {s : String} {v : Value}
    (h : Parser.long.convert context s = some v) : Denotes .long s v := by
  obtain ⟨n, rfl, hn⟩ := Parser.long_convert_eq_some_iff.mp h
  exact .long hn

theorem denotes_of_rootDouble (context : Parser.Context) {s : String} {v : Value}
    (h : Parser.rootDouble.convert context s = some v) : Denotes .double s v := by
  obtain ⟨d, rfl, hd⟩ := Parser.rootDouble_convert_eq_some_iff.mp h
  exact denotes_of_readDouble? hd

/-! ### The other parsers -/

/-- The parsers of dates, times, durations and URLs. -/
def Parser.unnumbered : List Parser := [.instant, .dateTime, .date, .duration, .time, .url]

/-- **Dates, times, durations and URLs are no numbers**, when the patterns are the default ones. -/
theorem convert_eq_none_of_number {p : Parser} (hp : p ∈ Parser.unnumbered) {s : String} {d : Double}
    (h : readDouble? .root s = some d) : p.convert (Registry.default.contextOf {}) s = none := by
  have hforeign := not_foreign_of_readDouble? h
  have hcolon : ':' ∉ s.toList := hforeign ':' List.mem_cons_self
  have hnone {α : Type} (read : Option α) (f : α → Scalar) (hread : ∀ a, read ≠ some a) :
      (read.map f).map Value.scalar = none := by
    rw [Option.eq_none_iff_forall_ne_some.mpr hread]
    rfl
  simp only [Parser.unnumbered, List.mem_cons, List.not_mem_nil, or_false] at hp
  rcases hp with rfl | rfl | rfl | rfl | rfl | rfl
  · exact hnone (Instant.ofText? s.toList) .instant fun _ ht => hcolon (mem_of_instant ht)
  · exact hnone (DateTime.ofText? DateTime.defaultPatterns s.toList) .dateTime fun _ ht =>
      hcolon (mem_of_dateTime ht)
  · refine hnone (Date.ofText? Date.defaultPatterns s.toList) .date fun _ hd => ?_
    obtain ⟨a, c, b, hcs, hc⟩ := exists_of_date hd
    exact List.isChain_iff_forall_rel_of_append_cons_cons.mp (isChain_of_readDouble? h) hcs hc rfl
  · refine hnone (Duration.ofText? s.toList) .duration fun _ hd => ?_
    obtain ⟨c, hc, htell⟩ := Duration.exists_telltale hd
    exact hforeign c (List.mem_cons_of_mem _ htell) hc
  · exact hnone (TimeOfDay.ofText? TimeOfDay.defaultPatterns s.toList) .time fun _ ht =>
      hcolon (mem_of_time ht)
  · exact hnone (Parser.readUrl? s) .url fun _ hu => hcolon (mem_of_url hu)

/-! ### The search -/

namespace Registry

variable {cells : List (Option Value)}

/-- No built-in parser is covered, so without options every one of them may be tried. -/
theorem eligible_default {p : Parser} (hp : p ∈ Parser.defaults) : default.Eligible {} p := by
  have hcovered : ∀ p ∈ Parser.defaults, p.coveredBy = [] := by
    simp [Parser.defaults, Parser.int, Parser.long, Parser.instant, Parser.dateTime, Parser.date,
      Parser.duration, Parser.time, Parser.url, Parser.localDouble, Parser.rootDouble,
      Parser.boolean, Parser.decimal, Parser.frame, Parser.row, Parser.text, Parser.ofScalar]
  refine ⟨.inr (by simp), ?_⟩
  rw [hcovered p hp]
  simp

/-- **A column of numbers is settled** by the first built-in parser that converts it. -/
theorem exists_values_of_first (before after : List Parser) (p : Parser)
    (hparsers : Parser.defaults = before ++ p :: after) (hconverts : default.Converts {} p cells)
    (hbefore : ∀ q ∈ before, ¬default.Converts {} q cells) (hrow : p.type ≠ .row)
    (hframe : p.type ≠ .frame) (hstring : p.type ≠ .string)
    (hdenotes : ∀ s v, p.convert (default.contextOf {}) s = some v → Denotes p.type s v)
    (hshown : ∃ s, default.Shows {} cells s) (name : String) (nullable : Bool) :
    ∃ values, default.tryParse {} (.value name .string nullable cells) =
        .ok (.ofValues name p.type values) ∧
      List.Forall₂ (fun cell => Option.Rel (Denotes p.type) (default.shown {} cell)) cells values := by
  have hmem : p ∈ Parser.defaults := hparsers ▸ List.mem_append_right before List.mem_cons_self
  have hsettled := (tryParse_cascade default {} (by simp) name nullable cells).1 before p after
    hparsers (eligible_default hmem) hconverts fun q hq _ => hbefore q hq
  obtain ⟨hresult, -⟩ := hsettled.values hrow hframe (fun h => absurd h hstring)
    (exists_shows_iff.mp hshown)
  refine ⟨_, hresult, ?_⟩
  rw [List.forall₂_map_right_iff, List.forall₂_same]
  intro cell hcell
  rw [reading]
  rcases hs : default.shown {} cell with _ | s
  · exact .none
  · obtain ⟨v, hv⟩ := hconverts cell hcell s hs
    rw [Option.bind_some, hv]
    exact .some (hdenotes s v hv)

theorem converts_int_iff :
    default.Converts {} .int cells ↔ ∀ s, default.Shows {} cells s → IsInt32 s := by
  simp only [converts_iff, Parser.int_convert_eq_some_iff, IsInt32]
  exact forall₂_congr fun s _ => ⟨fun ⟨_, n, _, h⟩ => ⟨n, h⟩, fun ⟨n, h⟩ => ⟨_, n, rfl, h⟩⟩

theorem converts_long_iff :
    default.Converts {} .long cells ↔ ∀ s, default.Shows {} cells s → IsInt64 s := by
  simp only [converts_iff, Parser.long_convert_eq_some_iff, IsInt64]
  exact forall₂_congr fun s _ => ⟨fun ⟨_, n, _, h⟩ => ⟨n, h⟩, fun ⟨n, h⟩ => ⟨_, n, rfl, h⟩⟩

/-- **The other parsers refuse what a column of numbers shows.** -/
theorem refused_of_numbers (hnumbers : default.Converts {} .rootDouble cells) :
    ∀ p ∈ Parser.unnumbered, ∀ s, default.Shows {} cells s →
      p.convert (default.contextOf {}) s = none := by
  intro p hp s hs
  obtain ⟨v, hv⟩ := converts_iff.mp hnumbers s hs
  obtain ⟨d, -, hd⟩ := Parser.rootDouble_convert_eq_some_iff.mp hv
  exact convert_eq_none_of_number hp hd

/-- **A column of numbers gets the narrowest type**, which is that of the first parser that converts it. -/
theorem exists_narrowest (hshown : ∃ s, default.Shows {} cells s)
    (hnumbers : default.Converts {} .rootDouble cells) (name : String) (nullable : Bool) :
    ∃ type values, Narrowest (default.Shows {} cells) type ∧
      default.tryParse {} (.value name .string nullable cells) = .ok (.ofValues name type values) ∧
      List.Forall₂ (fun cell => Option.Rel (Denotes type) (default.shown {} cell)) cells values := by
  by_cases hint : ∀ s, default.Shows {} cells s → IsInt32 s
  · obtain ⟨values, hresult, hvalues⟩ := exists_values_of_first [] _ .int rfl
      (converts_int_iff.mpr hint) (by simp) (by decide) (by decide) (by decide)
      (fun _ _ => denotes_of_int _) hshown name nullable
    exact ⟨.int, values, .int hint, hresult, hvalues⟩
  by_cases hlong : ∀ s, default.Shows {} cells s → IsInt64 s
  · obtain ⟨values, hresult, hvalues⟩ := exists_values_of_first [.int] _ .long rfl
      (converts_long_iff.mpr hlong) (by simpa [converts_int_iff] using hint) (by decide)
      (by decide) (by decide) (fun _ _ => denotes_of_long _) hshown name nullable
    exact ⟨.long, values, .long hint hlong, hresult, hvalues⟩
  · have hother {p : Parser} (hp : p ∈ Parser.unnumbered) : ¬default.Converts {} p cells := by
      intro hconverts
      obtain ⟨s, hs⟩ := hshown
      obtain ⟨v, hv⟩ := converts_iff.mp hconverts s hs
      rw [refused_of_numbers hnumbers p hp s hs] at hv
      cases hv
    have hbefore : ∀ q ∈ [Parser.int, .long] ++ Parser.unnumbered, ¬default.Converts {} q cells := by
      refine List.forall_mem_append.mpr ⟨?_, fun q hq => hother hq⟩
      simpa [converts_int_iff, converts_long_iff] using And.intro hint hlong
    -- the first parser of doubles goes by the locale, which is the neutral one
    obtain ⟨values, hresult, hvalues⟩ := exists_values_of_first _ _ .localDouble rfl hnumbers
      hbefore (by decide) (by decide) (by decide)
      (fun _ _ => denotes_of_rootDouble (default.contextOf {})) hshown name nullable
    exact ⟨.double, values, .double hlong, hresult, hvalues⟩

/-- **Numbers get the narrowest type.** What is read as an integer of 32 bits is read as the same integer of 64
bits, and what is read as one of these is read as the nearest double. And a column that shows some text, and
only texts that are read as doubles of the neutral locale, becomes one of the narrowest type that is wide
enough, with what the texts denote in its cells; no date, time, duration or URL parser takes any of them. -/
theorem numbers_get_narrowest :
    (∀ context s v, Parser.int.convert context s = some v → ∃ (n : Int32) (m : Int64),
      v = .scalar (.int n) ∧ Parser.long.convert context s = some (.scalar (.long m)) ∧
        m.toInt = n.toInt) ∧
    (∀ context s v, Parser.long.convert context s = some v → ∃ (n : Int64) (d : Double),
      v = .scalar (.long n) ∧ Parser.rootDouble.convert context s = some (.scalar (.double d)) ∧
        d.Nearest n.toInt) ∧
    ∀ name nullable cells, (∃ s, default.Shows {} cells s) → default.Converts {} .rootDouble cells →
      (∃ type values, Narrowest (default.Shows {} cells) type ∧
        default.tryParse {} (.value name .string nullable cells) = .ok (.ofValues name type values) ∧
        List.Forall₂ (fun cell => Option.Rel (Denotes type) (default.shown {} cell)) cells values) ∧
      ∀ p ∈ [Parser.instant, .dateTime, .date, .duration, .time, .url],
        ∀ s, default.Shows {} cells s → p.convert (default.contextOf {}) s = none := by
  refine ⟨fun context s v h => ?_, fun context s v h => ?_, fun name nullable cells hshown hnumbers =>
    ⟨exists_narrowest hshown hnumbers name nullable, refused_of_numbers hnumbers⟩⟩
  · obtain ⟨n, rfl, hn⟩ := Parser.int_convert_eq_some_iff.mp h
    exact ⟨n, n.toInt64, rfl, Parser.long_convert_eq_some_iff.mpr ⟨_, rfl, integerForm_toInt64 hn⟩,
      Int32.toInt_toInt64 n⟩
  · obtain ⟨n, rfl, hn⟩ := Parser.long_convert_eq_some_iff.mp h
    obtain ⟨d, hd, hnearest⟩ := exists_nearest_of_integerForm hn
    exact ⟨n, d, rfl, Parser.rootDouble_convert_eq_some_iff.mpr ⟨d, rfl, hd⟩, hnearest⟩

/-- A null, an integer that is too great for 32 bits, a text that means null, and a small integer: a column of
integers of 64 bits. -/
theorem numbers_get_narrowest_long :
    let cells := [none, some (.ofText " 2147483648"), some (.ofText "NA"), some (.ofText "+7")]
    (∃ s, default.Shows {} cells s) ∧ default.Converts {} .rootDouble cells ∧
      (∃ type values, Narrowest (default.Shows {} cells) type ∧
        default.tryParse {} (.value "n" .string true cells) = .ok (.ofValues "n" type values) ∧
        List.Forall₂ (fun cell => Option.Rel (Denotes type) (default.shown {} cell)) cells values) ∧
      default.tryParse {} (.value "n" .string true cells) =
        .ok (.ofValues "n" .long [none, some (.scalar (.long 2147483648)), none,
          some (.scalar (.long 7))]) := by
  intro cells
  have hshown : ∃ s, default.Shows {} cells s := ⟨"+7", some (.ofText "+7"), by simp [cells], by rfl⟩
  have hnumbers : default.Converts {} .rootDouble cells := by
    intro cell hcell s hs
    simp only [cells, List.mem_cons, List.not_mem_nil, or_false] at hcell
    rcases hcell with rfl | rfl | rfl | rfl
    · cases hs
    · obtain rfl : "2147483648" = s := Option.some.inj hs
      exact ⟨_, rfl⟩
    · cases hs
    · obtain rfl : "+7" = s := Option.some.inj hs
      exact ⟨_, rfl⟩
  exact ⟨hshown, hnumbers, (numbers_get_narrowest.2.2 "n" true cells hshown hnumbers).1, by rfl⟩

end Registry

end Colonnade
