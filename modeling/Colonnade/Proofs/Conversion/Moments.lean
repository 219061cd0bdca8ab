import Colonnade.Proofs.Conversion.Calendar
import Colonnade.Proofs.Conversion.Digits
import Colonnade.Time.Reading

/-!
# Dates and times that are read back

A date, a time of day, a date-time and an instant are written in one form each and read by
patterns. What the default patterns and the form of an instant have in common are two runs
of items, `Item.dateItems` and `Item.clockItems`; between the numbers the form of an instant
allows blanks, the patterns do not.

Each run takes exactly what was written off the start of a text and leaves the fields of the
date or the time (`takeAll?_date`, `takeAll?_clock`). Those fields determine the value they
came from: nothing else was collected that they would have to agree with (`date_of_bare`,
`time_of_clock`). So every value is read back from its text:

| value | theorem |
|---|---|
| date | `Date.ofText?_chars` |
| time of day | `TimeOfDay.ofText?_chars` |
| date-time | `DateTime.ofText?_chars` |
| instant | `Instant.ofText?_text` |

Three forms need care. A year outside 0 to 9999 carries a sign, and only then may it have
more than four digits. A fraction of a second is left out if it is zero, and has as many
digits as are needed otherwise. The second 60 is a number like any other.
-/

namespace Colonnade

open Number

/-! ### Collected fields -/

namespace Fields

variable {s : Fields}

/-- The fields with a number for one of them. -/
def set (f : Field) (v : Int) (s : Fields) : Fields :=
  ⟨fun g => if g = f then some v else s.get g⟩

@[simp] theorem get_empty (f : Field) : empty.get f = none := rfl

@[simp] theorem get_set (f g : Field) (v : Int) :
    (s.set f v).get g = if g = f then some v else s.get g := rfl

/-- A field that is not there yet takes any number in its range. -/
theorem put?_of_free {f : Field} {v : Int} (hrange : within f.range v = true)
    (hfree : s.get f = none) : s.put? f v = some (s.set f v) := by
  simp [put?, hrange, hfree, set]

theorem putHour?_of_free {hour : Nat} (hhour : hour < 24) (hhalf : s.get .halfDay = none)
    (hrest : s.get .hourOfHalf = none) : s.putHour? hour =
      some ((s.set .halfDay ((hour : Int) / 12)).set .hourOfHalf ((hour : Int) % 12)) := by
  have hrange : within (0, 23) (hour : Int) = true := within_iff.2 ⟨by omega, by omega⟩
  have hfirst : within (Field.range .halfDay) ((hour : Int) / 12) = true :=
    within_iff.2 ⟨by simp only [Field.range]; omega, by simp only [Field.range]; omega⟩
  have hsecond : within (Field.range .hourOfHalf) ((hour : Int) % 12) = true :=
    within_iff.2 ⟨by simp only [Field.range]; omega, by simp only [Field.range]; omega⟩
  rw [putHour?, if_pos hrange, put?_of_free hfirst hhalf, Option.bind_some,
    put?_of_free hsecond (by simp [hrest])]

/-- The fields that a date fills. -/
def dateFields : List Field := [.year, .month, .day]

/-- The fields that a time of day fills. -/
def clockFields : List Field := [.halfDay, .hourOfHalf, .minute, .second, .nanosecond]

/-- The fields with those of a date. -/
def withDate (d : Date) (s : Fields) : Fields :=
  ((s.set .year d.year).set .month d.month).set .day d.day

/-- The fields with those of a time of day but the fraction of its second. -/
def withClock (t : TimeOfDay) (s : Fields) : Fields :=
  (((s.set .halfDay ((t.hour : Int) / 12)).set .hourOfHalf ((t.hour : Int) % 12)).set
    .minute t.minute).set .second t.second

/-- The fields with a fraction of a second, unless it is zero. -/
def withFraction (nanosecond : Nat) (s : Fields) : Fields :=
  if nanosecond = 0 then s else s.set .nanosecond nanosecond

/-- The fields with those of a time of day. -/
def withTime (t : TimeOfDay) (s : Fields) : Fields :=
  (s.withClock t).withFraction t.nanosecond

theorem get_withDate_of_not_mem {f : Field} (hf : f ∉ dateFields) (d : Date) :
    (s.withDate d).get f = s.get f := by
  simp only [dateFields, List.mem_cons, List.not_mem_nil, or_false, not_or] at hf
  simp [withDate, hf]

theorem get_withFraction_of_ne {f : Field} (hf : f ≠ .nanosecond) (n : Nat) :
    (s.withFraction n).get f = s.get f := by
  simp only [withFraction]
  split <;> simp [hf]

theorem get_withTime_of_not_mem {f : Field} (hf : f ∉ clockFields) (t : TimeOfDay) :
    (s.withTime t).get f = s.get f := by
  simp only [clockFields, List.mem_cons, List.not_mem_nil, or_false, not_or] at hf
  rw [withTime, get_withFraction_of_ne hf.2.2.2.2]
  simp [withClock, hf]

/-! ### What the fields determine -/

/-- The fields of a date that are not its year, month and day. -/
def otherDateFields : List Field :=
  [.century, .yearOfCentury, .isoYear, .isoCentury, .isoYearOfCentury, .quarter, .sundayWeek,
    .mondayWeek, .isoWeek, .weekday, .ordinal]

/-- **Year, month and day alone** determine their date. -/
theorem date_of_bare {d : Date} (hyear : s.get .year = some d.year)
    (hmonth : s.get .month = some d.month) (hday : s.get .day = some d.day)
    (hbare : ∀ f ∈ otherDateFields, s.get f = none) : s.date = .ok d := by
  have hnone : s.get .century = none ∧ s.get .yearOfCentury = none ∧ s.get .isoYear = none ∧
      s.get .isoCentury = none ∧ s.get .isoYearOfCentury = none ∧ s.get .quarter = none ∧
      s.get .sundayWeek = none ∧ s.get .mondayWeek = none ∧ s.get .isoWeek = none ∧
      s.get .weekday = none ∧ s.get .ordinal = none := by
    simpa [otherDateFields] using hbare
  have hfound : Date.ofYMD? d.year d.month d.day = some d := by
    simp only [Date.ofYMD?, dif_pos d.valid]
  simp [date, yearFrom, confirmed, agreesWithWeek, agreesWithOrdinal, agreesWithQuarter, agrees,
    bind, Except.bind, hnone, hyear, hmonth, hday, hfound]

/-- **Hour, minute, second and fraction** determine their time of day. -/
theorem time_withTime (t : TimeOfDay) (hfree : s.get .nanosecond = none) :
    (s.withTime t).time = .ok t := by
  obtain ⟨hour, minute, second, nanosecond, hvalid⟩ := t
  have hhour : ((hour : Int) / 12 * 12 + (hour : Int) % 12).toNat = hour := by omega
  rcases Nat.eq_zero_or_pos nanosecond with rfl | hpos
  · simp [time, withTime, withFraction, withClock, hfree, hhour, TimeOfDay.make?, hvalid]
  · simp [time, withTime, withFraction, withClock, Nat.ne_of_gt hpos, hhour, TimeOfDay.make?, hvalid]

end Fields

/-! ### Numbers -/

namespace Item

variable {s : Fields} {rest : List Char} {items : List Item}

/-- Digits are taken off the start of a text, up to the width. -/
theorem takeDigits?_spells {ds : List Char} {v : Nat} {width : Option Nat} (h : Spells ds v)
    (hwidth : ∀ w ∈ width, ds.length ≤ w) (hv : (v : Int) ≤ int64Range.2) (hrest : Halts rest) :
    takeDigits? width (ds ++ rest) = some ((v : Int), rest) := by
  have hlimit : ¬int64Range.2 < (v : Int) := Int.not_lt.2 hv
  cases width with
  | none => simp [takeDigits?, takeWhile_digits h.digits hrest, h.value, h.ne_nil, hlimit]
  | some w =>
    have hkept : ds.take w = ds := List.take_of_length_le (hwidth w rfl)
    simp [takeDigits?, takeWhile_digits h.digits hrest, hkept, h.value, h.ne_nil, hlimit]

/-- A number is read from its digits, with or without zeros in front. -/
theorem takeNumber?_spells {ds : List Char} {v : Nat} {n : Numeral} (h : Spells ds v)
    (hwidth : ∀ w ∈ n.width, ds.length ≤ w) (hv : (v : Int) ≤ int64Range.2)
    (hrest : Halts rest) : takeNumber? n (ds ++ rest) = some ((v : Int), rest) := by
  have htake := takeDigits?_spells h hwidth hv hrest
  obtain ⟨c, tail, rfl, hc⟩ := h.exists_cons
  -- the text begins with a digit: neither a blank nor a sign
  have htrim : Text.trimStart (c :: (tail ++ rest)) = c :: (tail ++ rest) :=
    List.dropWhile_cons_of_neg (by simp [Text.isBlank_of_isDigit hc])
  have hplus : c ≠ '+' := by rintro rfl; simp at hc
  have hminus : c ≠ '-' := by rintro rfl; simp at hc
  simp only [List.cons_append] at htake ⊢
  simp [takeNumber?, htrim, hplus, hminus, htake]

/-- A number of two digits. -/
theorem takeNumber?_twoDigits {n : Numeral} {v : Nat} (hn : n.width = some 2) (hv : v < 100)
    (hrest : Halts rest) :
    takeNumber? n (padZeros 2 (digitsOf v) ++ rest) = some ((v : Int), rest) := by
  refine takeNumber?_spells (spells_padZeros_digitsOf 2 v) ?_ ?_ hrest
  · intro w hw
    obtain rfl : 2 = w := by simpa [hn] using hw
    exact Nat.le_of_eq (length_padZeros_digitsOf (by decide) hv)
  · simp only [int64Range]
    omega

/-- **A year is read from its text**, with a sign or without one. -/
theorem takeNumber?_yearText {year : Int}
    (hyear : Date.years.1 ≤ year ∧ year ≤ Date.years.2) (hrest : Halts rest) :
    takeNumber? (.field .year) (Date.yearText year ++ rest) = some (year, rest) := by
  simp only [Date.years] at hyear
  have hspells := spells_padZeros_digitsOf 4 year.natAbs
  have hlimit : (year.natAbs : Int) ≤ int64Range.2 := by
    simp only [int64Range]
    omega
  have hsigned : takeDigits? none (padZeros 4 (digitsOf year.natAbs) ++ rest) =
      some ((year.natAbs : Int), rest) :=
    takeDigits?_spells hspells (by simp) hlimit hrest
  simp only [Date.yearText]
  split
  · -- four digits, read up to the width of a year
    have hfour : (padZeros 4 (digitsOf year.natAbs)).length = 4 :=
      length_padZeros_digitsOf (by omega) (by omega)
    rw [takeNumber?_spells hspells (by simp [Numeral.width, hfour]) hlimit hrest]
    simp only [Option.some.injEq, Prod.mk.injEq, and_true]
    omega
  · -- after a sign all digits are read
    split
    · have htext : takeNumber? (.field .year) ('-' :: (padZeros 4 (digitsOf year.natAbs) ++ rest)) =
          (takeDigits? none (padZeros 4 (digitsOf year.natAbs) ++ rest)).map
            fun read => (-read.1, read.2) := rfl
      rw [List.cons_append, htext, hsigned]
      simp only [Option.map_some, Option.some.injEq, Prod.mk.injEq, and_true]
      omega
    · have htext : takeNumber? (.field .year) ('+' :: (padZeros 4 (digitsOf year.natAbs) ++ rest)) =
          takeDigits? none (padZeros 4 (digitsOf year.natAbs) ++ rest) := rfl
      rw [List.cons_append, htext, hsigned]
      simp only [Option.some.injEq, Prod.mk.injEq, and_true]
      omega

/-! ### One item after the other -/

theorem takeAll?_cons {item : Item} {cs : List Char} {t : Fields} (h : item.take? s cs = some (t, rest)) :
    takeAll? (item :: items) s cs = takeAll? items t rest := by
  rw [takeAll?, h, Option.bind_some]

theorem takeAll?_literal (c : Char) :
    takeAll? (literal c :: items) s (c :: rest) = takeAll? items s rest :=
  takeAll?_cons (by simp [take?, Text.dropLead?])

/-- Blanks match nothing in front of a character that is none. -/
theorem takeAll?_gap {gap : List Item} {c : Char} (hgap : ∀ item ∈ gap, item = blanks)
    (hc : Text.isBlank c = false) :
    takeAll? (gap ++ items) s (c :: rest) = takeAll? items s (c :: rest) := by
  induction gap with
  | nil => rfl
  | cons item gap ih =>
    obtain rfl : item = blanks := hgap item (by simp)
    have hstays : Text.trimStart (c :: rest) = c :: rest :=
      List.dropWhile_cons_of_neg (by simp [hc])
    have htake : blanks.take? s (c :: rest) = some (s, c :: rest) := by simp [take?, hstays]
    rw [List.cons_append, takeAll?_cons htake]
    exact ih fun item hitem => hgap item (List.mem_cons_of_mem _ hitem)

/-- A number that is in range is collected in its field. -/
theorem takeAll?_num {f : Field} {v : Int} {cs : List Char}
    (hread : takeNumber? (.field f) cs = some (v, rest)) (hrange : within f.range v = true)
    (hfree : s.get f = none) :
    takeAll? (num f :: items) s cs = takeAll? items (s.set f v) rest :=
  takeAll?_cons (by simp [num, take?, hread, Numeral.put?, Fields.put?_of_free hrange hfree])

/-- A field of two digits. -/
theorem takeAll?_twoDigits {f : Field} {v : Nat} (hf : Numeral.width (.field f) = some 2)
    (hrange : f.range.1 ≤ v ∧ (v : Int) ≤ f.range.2) (hv : v < 100) (hfree : s.get f = none)
    (hrest : Halts rest) :
    takeAll? (num f :: items) s (padZeros 2 (digitsOf v) ++ rest) =
      takeAll? items (s.set f v) rest :=
  takeAll?_num (takeNumber?_twoDigits hf hv hrest) (within_iff.2 hrange) hfree

/-! ### Dates -/

/-- The items of a date, with `gap` in front of each hyphen. -/
def dateItems (gap : List Item) : List Item :=
  num .year :: gap ++ literal '-' :: num .month :: gap ++ literal '-' :: [num .day]

/-- **A date is taken off the start of a text**, and its fields are collected. -/
theorem takeAll?_date {gap : List Item} (d : Date) (hgap : ∀ item ∈ gap, item = blanks)
    (hfree : ∀ f ∈ Fields.dateFields, s.get f = none) (hrest : Halts rest) :
    takeAll? (dateItems gap ++ items) s (d.chars ++ rest) = takeAll? items (s.withDate d) rest := by
  obtain ⟨hyear, hmonth, hday⟩ : s.get .year = none ∧ s.get .month = none ∧ s.get .day = none := by
    simpa [Fields.dateFields] using hfree
  obtain ⟨hyears, hmonths, hfirst, hdays⟩ := d.valid
  have hyearRange : within (Field.range .year) d.year = true := by
    simp only [Date.years] at hyears
    simp only [within_iff, Field.range, int32Range]
    omega
  have hlast : d.day ≤ 31 := by
    simp only [Calendar.monthLength] at hdays
    split at hdays <;> split at hdays <;> omega
  have hhyphen : Text.isBlank '-' = false := by decide
  simp only [dateItems, Date.chars, List.cons_append, List.append_assoc, List.nil_append]
  rw [takeAll?_num (takeNumber?_yearText hyears (by simp)) hyearRange hyear,
    takeAll?_gap hgap hhyphen, takeAll?_literal,
    takeAll?_twoDigits rfl (by simp only [Field.range]; omega) (by omega) (by simpa using hmonth)
      (by simp),
    takeAll?_gap hgap hhyphen, takeAll?_literal,
    takeAll?_twoDigits rfl (by simp only [Field.range]; omega) (by omega) (by simpa using hday)
      hrest, Fields.withDate]

/-! ### Times of day -/

/-- The digits of a fraction with `k` places. -/
theorem nanosecondsOf_padZeros {k n : Nat} (hk : 0 < k) (hk' : k ≤ 9) (hn : n < 10 ^ 9)
    (hzeros : n % 10 ^ (9 - k) = 0) :
    (padZeros k (digitsOf (n / 10 ^ (9 - k)))).length = k ∧
      nanosecondsOf (padZeros k (digitsOf (n / 10 ^ (9 - k)))) = n := by
  have hpow : 10 ^ (9 - k) * 10 ^ k = 10 ^ 9 := by
    rw [← Nat.pow_add, Nat.sub_add_cancel hk']
  have hlength : (padZeros k (digitsOf (n / 10 ^ (9 - k)))).length = k :=
    length_padZeros_digitsOf hk (Nat.div_lt_of_lt_mul (by rw [hpow]; exact hn))
  refine ⟨hlength, ?_⟩
  have hwhole : n / 10 ^ (9 - k) * 10 ^ (9 - k) = n :=
    Nat.div_mul_cancel (Nat.dvd_of_mod_eq_zero hzeros)
  rw [nanosecondsOf, hlength, (spells_padZeros_digitsOf _ _).value, Nat.pow_eq]
  exact_mod_cast hwhole

/-- A fraction that is not zero is written as a point and at most nine digits. -/
theorem exists_fractionChars {n : Nat} (hpos : n ≠ 0) (hn : n < 10 ^ 9) :
    ∃ ds m, TimeOfDay.fractionChars n = '.' :: ds ∧ Spells ds m ∧ ds.length ≤ 9 ∧
      nanosecondsOf ds = n := by
  have hplaces {k : Nat} (hk : 0 < k) (hk' : k ≤ 9) (hzeros : n % 10 ^ (9 - k) = 0)
      (htext : TimeOfDay.fractionChars n = '.' :: padZeros k (digitsOf (n / 10 ^ (9 - k)))) :
      ∃ ds m, TimeOfDay.fractionChars n = '.' :: ds ∧ Spells ds m ∧ ds.length ≤ 9 ∧
        nanosecondsOf ds = n := by
    obtain ⟨hlength, hvalue⟩ := nanosecondsOf_padZeros hk hk' hn hzeros
    exact ⟨_, _, htext, spells_padZeros_digitsOf _ _, by omega, hvalue⟩
  by_cases hmilli : n % 1000000 = 0
  · exact hplaces (k := 3) (by omega) (by omega) hmilli
      (by simp [TimeOfDay.fractionChars, hpos, hmilli])
  · by_cases hmicro : n % 1000 = 0
    · exact hplaces (k := 6) (by omega) (by omega) hmicro
        (by simp [TimeOfDay.fractionChars, hpos, hmilli, hmicro])
    · exact hplaces (k := 9) (by omega) (by omega) (Nat.mod_one n)
        (by simp [TimeOfDay.fractionChars, hpos, hmilli, hmicro])

/-- **A fraction of a second** is taken as it was written, or not at all if it is zero. -/
theorem takeAll?_fraction {n : Nat} (hn : n < 10 ^ 9) (hfree : s.get .nanosecond = none)
    (hrest : Halts rest) (hpoint : rest.head? ≠ some '.') :
    takeAll? (fraction :: items) s (TimeOfDay.fractionChars n ++ rest) =
      takeAll? items (s.withFraction n) rest := by
  apply takeAll?_cons
  by_cases hzero : n = 0
  · have htext : TimeOfDay.fractionChars n = [] := by simp [TimeOfDay.fractionChars, hzero]
    rw [htext, List.nil_append, Fields.withFraction, if_pos hzero]
    cases rest with
    | nil => rfl
    | cons c rest =>
      have hc : c ≠ '.' := by simpa using hpoint
      simp [take?, hc]
  · obtain ⟨ds, m, htext, hspells, hlength, hvalue⟩ := exists_fractionChars hzero hn
    have hrange : within (Field.range .nanosecond) (n : Int) = true := by
      simp only [within_iff, Field.range]
      omega
    rw [htext, Fields.withFraction, if_neg hzero]
    simp only [List.cons_append, take?, takeWhile_digits hspells.digits hrest,
      dropWhile_digits hspells.digits hrest, List.take_of_length_le hlength, hvalue,
      Fields.put?_of_free hrange hfree]
    simp [hspells.ne_nil]

/-- The hour is collected as its half day and the hour in that. -/
theorem takeAll?_hour {hour : Nat} (hhour : hour < 24) (hhalf : s.get .halfDay = none)
    (hhourOfHalf : s.get .hourOfHalf = none) (hrest : Halts rest) :
    takeAll? (number .hour :: items) s (padZeros 2 (digitsOf hour) ++ rest) =
      takeAll? items ((s.set .halfDay ((hour : Int) / 12)).set .hourOfHalf ((hour : Int) % 12))
        rest := by
  apply takeAll?_cons
  have hread : takeNumber? .hour (padZeros 2 (digitsOf hour) ++ rest) = some ((hour : Int), rest) :=
    takeNumber?_twoDigits rfl (by omega) hrest
  simp [take?, hread, Numeral.put?, Fields.putHour?_of_free hhour hhalf hhourOfHalf]

/-- The items of a time of day, with `gap` in front of each colon. -/
def clockItems (gap : List Item) : List Item :=
  number .hour :: gap ++ literal ':' :: num .minute :: gap ++ literal ':' :: [num .second, fraction]

/-- **A time of day is taken off the start of a text**, and its fields are collected. -/
theorem takeAll?_clock {gap : List Item} (t : TimeOfDay) (hgap : ∀ item ∈ gap, item = blanks)
    (hfree : ∀ f ∈ Fields.clockFields, s.get f = none) (hrest : Halts rest)
    (hpoint : rest.head? ≠ some '.') :
    takeAll? (clockItems gap ++ items) s (t.chars ++ rest) = takeAll? items (s.withTime t) rest := by
  obtain ⟨hhalf, hhourOfHalf, hminute, hsecond, hnanosecond⟩ : s.get .halfDay = none ∧
      s.get .hourOfHalf = none ∧ s.get .minute = none ∧ s.get .second = none ∧
        s.get .nanosecond = none := by
    simpa [Fields.clockFields] using hfree
  obtain ⟨hhours, hminutes, hseconds, hfraction⟩ := t.valid
  have hcolon : Text.isBlank ':' = false := by decide
  have hhalts : Halts (TimeOfDay.fractionChars t.nanosecond ++ rest) := by
    by_cases hzero : t.nanosecond = 0
    · simpa [TimeOfDay.fractionChars, hzero] using hrest
    · obtain ⟨ds, -, htext, -⟩ := exists_fractionChars hzero hfraction
      simp [htext]
  simp only [clockItems, TimeOfDay.chars, List.cons_append, List.append_assoc, List.nil_append]
  rw [takeAll?_hour hhours hhalf hhourOfHalf (by simp), takeAll?_gap hgap hcolon, takeAll?_literal,
    takeAll?_twoDigits rfl (by simp only [Field.range]; omega) (by omega) (by simpa using hminute)
      (by simp),
    takeAll?_gap hgap hcolon, takeAll?_literal,
    takeAll?_twoDigits rfl (by simp only [Field.range]; omega) (by omega) (by simpa using hsecond)
      hhalts,
    takeAll?_fraction hfraction (by simpa using hnanosecond) hrest hpoint, Fields.withTime,
    Fields.withClock]

end Item

/-! ### Reading values -/

namespace Pattern

theorem items_date : items "%Y-%m-%d" = Item.dateItems [] := by decide

theorem items_time : items "%H:%M:%S%.f" = Item.clockItems [] := by decide

theorem items_dateTime : items "%Y-%m-%dT%H:%M:%S%.f" =
    Item.dateItems [] ++ .literal 'T' :: Item.clockItems [] := by decide

end Pattern

namespace Item

theorem timestampItems_eq : timestampItems =
    dateItems [blanks] ++ dateTimeMark :: (clockItems [blanks] ++ [blanks, zone]) :=
  rfl

theorem fields?_of_takeAll? {items : List Item} {cs : List Char} {s : Fields}
    (h : takeAll? items .empty cs = some (s, [])) : fields? items cs = some s := by
  simp [fields?, h]

/-- The fields of a date-time: those of its date, then those of its time. -/
theorem takeAll?_dateTime {gap items : List Item} {mark : Item} {rest : List Char} (t : DateTime)
    (hgap : ∀ item ∈ gap, item = blanks)
    (hmark : ∀ (s : Fields) (rest : List Char), mark.take? s ('T' :: rest) = some (s, rest))
    (hrest : Halts rest) (hpoint : rest.head? ≠ some '.') :
    takeAll? (dateItems gap ++ mark :: (clockItems gap ++ items)) .empty (t.chars ++ rest) =
      takeAll? items ((Fields.empty.withDate t.date).withTime t.time) rest := by
  have htext : t.chars ++ rest = t.date.chars ++ 'T' :: (t.time.chars ++ rest) := by
    simp [DateTime.chars]
  rw [htext, takeAll?_date t.date hgap (by simp) (by simp), takeAll?_cons (hmark _ _),
    takeAll?_clock t.time hgap (by simp [Fields.clockFields, Fields.withDate]) hrest hpoint]

end Item

/-- **A date is read from its text** with the default pattern, whatever other patterns there
are. -/
theorem Date.ofText?_chars (d : Date) (patterns : List String) :
    Date.ofText? (Date.defaultPatterns ++ patterns) d.chars = some d := by
  have htaken : Item.takeAll? (Item.dateItems [] ++ []) .empty (d.chars ++ []) =
      Item.takeAll? [] (Fields.empty.withDate d) [] :=
    Item.takeAll?_date d (by simp) (by simp) (by simp)
  rw [List.append_nil, List.append_nil] at htaken
  have hfields : Pattern.fields? "%Y-%m-%d" d.chars = some (Fields.empty.withDate d) := by
    rw [Pattern.fields?, Pattern.items_date]
    exact Item.fields?_of_takeAll? htaken
  have hdate : (Fields.empty.withDate d).date = .ok d :=
    Fields.date_of_bare (by simp [Fields.withDate]) (by simp [Fields.withDate])
      (by simp [Fields.withDate]) (by simp [Fields.otherDateFields, Fields.withDate])
  have hread : Date.ofPattern? d.chars "%Y-%m-%d" = some d := by
    rw [Date.ofPattern?, hfields, Option.bind_some, hdate]
    simp [Fields.withDate, Except.toOption]
  simp [Date.ofText?, Date.defaultPatterns, hread]

/-- **A time of day is read from its text** with the default patterns, whatever other patterns
there are. -/
theorem TimeOfDay.ofText?_chars (t : TimeOfDay) (patterns : List String) :
    TimeOfDay.ofText? (TimeOfDay.defaultPatterns ++ patterns) t.chars = some t := by
  have htaken : Item.takeAll? (Item.clockItems [] ++ []) .empty (t.chars ++ []) =
      Item.takeAll? [] (Fields.empty.withTime t) [] :=
    Item.takeAll?_clock t (by simp) (by simp) (by simp) (by simp)
  rw [List.append_nil, List.append_nil] at htaken
  have hfields : Pattern.fields? "%H:%M:%S%.f" t.chars = some (Fields.empty.withTime t) := by
    rw [Pattern.fields?, Pattern.items_time]
    exact Item.fields?_of_takeAll? htaken
  have hdateless (f : Field) (hf : f ∈ Fields.dateFields) :
      (Fields.empty.withTime t).get f = none := by
    rw [Fields.get_withTime_of_not_mem (by revert f; decide), Fields.get_empty]
  have hread : TimeOfDay.ofPattern? t.chars "%H:%M:%S%.f" = some t := by
    rw [TimeOfDay.ofPattern?, hfields, Option.bind_some, hdateless .year (by decide),
      hdateless .month (by decide), hdateless .day (by decide), Fields.time_withTime t rfl]
    rfl
  simp [TimeOfDay.ofText?, TimeOfDay.defaultPatterns, hread]

namespace Fields

/-- Only the fields of a time of day are looked at for it. -/
theorem time_congr {s u : Fields} (h : ∀ f ∈ clockFields, s.get f = u.get f) :
    s.time = u.time := by
  simp only [time, h .halfDay (by decide), h .hourOfHalf (by decide), h .minute (by decide),
    h .second (by decide), h .nanosecond (by decide)]

/-- The fields of a date and of a time of day determine both; an offset is no part of them. -/
theorem dateTime?_of_fields {s : Fields} (t : DateTime) (offset : Int)
    (hs : ∀ f, f ≠ .offset → s.get f = ((empty.withDate t.date).withTime t.time).get f) :
    s.dateTime? offset = some t := by
  have hdated (f : Field) (hf : f ∉ clockFields) (hoffset : f ≠ .offset) :
      s.get f = (empty.withDate t.date).get f := by
    rw [hs f hoffset, get_withTime_of_not_mem hf]
  have hdate : s.date = .ok t.date := by
    apply date_of_bare
    · rw [hdated .year (by decide) (by decide)]
      simp [withDate]
    · rw [hdated .month (by decide) (by decide)]
      simp [withDate]
    · rw [hdated .day (by decide) (by decide)]
      simp [withDate]
    · intro f hf
      have hother : f ∉ clockFields ∧ f ≠ .offset ∧ f ∉ dateFields := by
        revert f
        decide
      rw [hdated f hother.1 hother.2.1, get_withDate_of_not_mem hother.2.2, get_empty]
  have htime : s.time = .ok t.time := by
    rw [time_congr fun f hf => hs f (by revert f; decide)]
    exact time_withTime t.time (by simp [withDate])
  have hstamp : s.get .timestamp = none := by
    rw [hdated .timestamp (by decide) (by decide), get_withDate_of_not_mem (by decide), get_empty]
  simp [dateTime?, hdate, htime, agreesWithTimestamp, hstamp]

end Fields

/-- **A date-time is read from its text** with the default patterns, whatever other patterns
there are. -/
theorem DateTime.ofText?_chars (t : DateTime) (patterns : List String) :
    DateTime.ofText? (DateTime.defaultPatterns ++ patterns) t.chars = some t := by
  have htaken : Item.takeAll? (Item.dateItems [] ++ .literal 'T' :: (Item.clockItems [] ++ []))
      .empty (t.chars ++ []) =
        Item.takeAll? [] ((Fields.empty.withDate t.date).withTime t.time) [] :=
    Item.takeAll?_dateTime t (by simp) (by simp [Item.take?, Text.dropLead?]) (by simp) (by simp)
  rw [List.append_nil, List.append_nil] at htaken
  have hfields : Pattern.fields? "%Y-%m-%dT%H:%M:%S%.f" t.chars =
      some ((Fields.empty.withDate t.date).withTime t.time) := by
    rw [Pattern.fields?, Pattern.items_dateTime]
    exact Item.fields?_of_takeAll? htaken
  have hread : DateTime.ofPattern? t.chars "%Y-%m-%dT%H:%M:%S%.f" = some t := by
    rw [DateTime.ofPattern?, hfields, Option.bind_some]
    exact Fields.dateTime?_of_fields t 0 fun _ _ => rfl
  simp [DateTime.ofText?, DateTime.defaultPatterns, hread]

/-- A date-time is moved by no minutes to itself. -/
theorem DateTime.minusMinutes?_zero (t : DateTime) : t.minusMinutes? 0 = some t := by
  obtain ⟨hhours, hminutes, hseconds, hfraction⟩ := t.time.valid
  have hday : (t.date.dayNumber * 1440 + (t.time.hour * 60 + t.time.minute : Nat) - 0) / 1440 =
      t.date.dayNumber := by omega
  have hrest : ((t.date.dayNumber * 1440 + (t.time.hour * 60 + t.time.minute : Nat) - 0) %
      1440).toNat = t.time.hour * 60 + t.time.minute := by omega
  have hhour : (t.time.hour * 60 + t.time.minute) / 60 = t.time.hour := by omega
  have hminute : (t.time.hour * 60 + t.time.minute) % 60 = t.time.minute := by omega
  simp only [minusMinutes?, hday, hrest, hhour, hminute, Date.ofDayNumber?_dayNumber, bind,
    Option.bind_some, TimeOfDay.make?, dif_pos t.time.valid]

/-- **An instant is read from its text.** -/
theorem Instant.ofText?_text (i : Instant) : Instant.ofText? i.text.toList = some i := by
  generalize hcollected : (Fields.empty.withDate i.utc.date).withTime i.utc.time = collected
  have htaken : Item.takeAll? Item.timestampItems .empty (i.utc.chars ++ ['Z']) =
      Item.takeAll? [.blanks, .zone] collected ['Z'] := by
    rw [Item.timestampItems_eq, ← hcollected]
    exact Item.takeAll?_dateTime i.utc (by simp) (by simp [Item.take?]) (by simp) (by simp)
  have hblanks : Item.take? .blanks collected ['Z'] = some (collected, ['Z']) := rfl
  have hzone : Item.take? .zone collected ['Z'] = some (collected.set .offset 0, []) := by
    have hfree : collected.get .offset = none := by
      rw [← hcollected, Fields.get_withTime_of_not_mem (by decide),
        Fields.get_withDate_of_not_mem (by decide), Fields.get_empty]
    have hrange : within (Field.range .offset) 0 = true := by decide
    have hread : Item.takeZone? ['Z'] = some (0, []) := by decide
    simp [Item.take?, hread, Fields.put?_of_free hrange hfree]
  have hfields : Item.fields? Item.timestampItems i.text.toList =
      some (collected.set .offset 0) := by
    rw [Instant.text, String.toList_ofList]
    apply Item.fields?_of_takeAll?
    rw [htaken, Item.takeAll?_cons hblanks, Item.takeAll?_cons hzone, Item.takeAll?]
  have hhere : (collected.set .offset 0).dateTime? 0 = some i.utc := by
    apply Fields.dateTime?_of_fields
    intro f hf
    simp [hcollected, hf]
  rw [Instant.ofText?, hfields, Option.bind_some, Fields.instant?]
  simp [hhere, DateTime.minusMinutes?_zero]

end Colonnade
