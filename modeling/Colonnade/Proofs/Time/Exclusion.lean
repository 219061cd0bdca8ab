import Mathlib.Tactic.MkIffOfInductiveProp
import Colonnade.Time.Reading

/-!
# Dates, times of day and date-times exclude each other

A pattern should say whether a text is a date, a time of day or a date-time: a date is read only from
fields that leave the hour and the minute open, a time only from fields that leave year, month and day
open. Which fields a text fills is up to the pattern alone, but for a fraction of a second that may be
missing (`Pattern.isSome_get_iff`), and which fields are filled decides whether they determine a date
(`Fields.isSome_date_iff`) or a time (`Fields.isSome_time_iff`), unless they contradict each other. So
the pattern says which readings a text can have at once:

| | |
| --- | --- |
| date and time of day | never |
| date-time and date | where a timestamp gives the time (`%s %F`) |
| date-time and time of day | where a timestamp gives the date (`%s %R`), or fields other than year, month and day do (`%y-%j %R`, `%G-W%V-%u %R`) |

A pattern with a year, a month or a day and without a timestamp is in none of these rows
(`Pattern.readings_exclude`).
-/

namespace Colonnade

/-! ### The fields that a pattern fills -/

namespace Fields

/-- From `s` to `t` the fields `fs` were filled, and maybe a fraction of a second. -/
def Gains (fs : List Field) (s t : Fields) : Prop :=
  ∀ f, f ≠ .nanosecond → ((t.get f).isSome ↔ (s.get f).isSome ∨ f ∈ fs)

variable {s t u : Fields} {fs gs : List Field} {f : Field} {v : Int}

theorem Gains.refl : Gains [] s s := fun _ _ => by simp

theorem Gains.trans (h : Gains fs s t) (h' : Gains gs t u) : Gains (fs ++ gs) s u := fun f hf => by
  rw [h' f hf, h f hf, List.mem_append, or_assoc]

theorem gains_of_put? (h : s.put? f v = some t) : Gains [f] s t := by
  unfold put? at h
  split at h
  · obtain rfl := Option.some.inj h
    intro g _
    by_cases hg : g = f <;> simp [hg]
  · cases h

/-- A fraction of a second is not among the fields that are counted. -/
theorem gains_of_put?_nanosecond (h : s.put? .nanosecond v = some t) : Gains [] s t := fun f hf => by
  rw [gains_of_put? h f hf, List.mem_singleton]
  simp [hf]

theorem gains_of_putHour? (h : s.putHour? v = some t) : Gains [.halfDay, .hourOfHalf] s t := by
  unfold putHour? at h
  split at h
  · obtain ⟨u, hhalf, hrest⟩ := Option.bind_eq_some_iff.mp h
    exact (gains_of_put? hhalf).trans (gains_of_put? hrest)
  · cases h

theorem gains_of_putClockHour? (h : s.putClockHour? v = some t) : Gains [.hourOfHalf] s t := by
  unfold putClockHour? at h
  split at h
  · exact gains_of_put? h
  · cases h

end Fields

/-- The fields that a number fills. -/
def Numeral.fields : Numeral → List Field
  | field f => [f]
  | hour => [.halfDay, .hourOfHalf]
  | clockHour => [.hourOfHalf]
  | weekdayFromSunday | weekdayFromMonday => [.weekday]

theorem Numeral.gains_of_put? {n : Numeral} {v : Int} {s t : Fields} (h : n.put? v s = some t) :
    Fields.Gains n.fields s t := by
  cases n with
  | field f => exact Fields.gains_of_put? h
  | hour => exact Fields.gains_of_putHour? h
  | clockHour => exact Fields.gains_of_putClockHour? h
  | weekdayFromSunday | weekdayFromMonday =>
    simp only [put?] at h
    split at h
    · exact Fields.gains_of_put? h
    · cases h

namespace Item

/-- The fields that an item fills in each text that it matches. -/
def fields : Item → List Field
  | number n => n.fields
  | monthName _ => [.month]
  | weekdayName _ => [.weekday]
  | halfDay => [.halfDay]
  | fractionDigits _ => [.nanosecond]
  | offset _ | zone => [.offset]
  | _ => []

variable {s t : Fields} {cs rest : List Char} {item : Item} {items : List Item}

theorem gains_of_takeFractionDigits? {count : Nat}
    (h : takeFractionDigits? count cs s = some (t, rest)) : Fields.Gains [] s t := by
  unfold takeFractionDigits? at h
  dsimp only at h
  split at h
  · obtain ⟨u, hput, hpair⟩ := Option.map_eq_some_iff.mp h
    exact (Prod.mk.inj hpair).1 ▸ Fields.gains_of_put?_nanosecond hput
  · cases h

/-- **An item fills its fields.** -/
theorem gains_of_take? (h : item.take? s cs = some (t, rest)) : Fields.Gains item.fields s t := by
  -- most items read something and put it into the fields
  have hput {α : Type} (read : Option (α × List Char)) (put : α → Option Fields)
      (h : (read.bind fun p => (put p.1).bind fun s => some (s, p.2)) = some (t, rest)) :
      ∃ a, put a = some t := by
    obtain ⟨⟨a, tail⟩, -, h⟩ := Option.bind_eq_some_iff.mp h
    obtain ⟨u, hu, hpair⟩ := Option.bind_eq_some_iff.mp h
    exact ⟨a, (Prod.mk.inj (Option.some.inj hpair)).1 ▸ hu⟩
  have hkept (tail : List Char) (h : some (s, tail) = some (t, rest)) : Fields.Gains [] s t :=
    (Prod.mk.inj (Option.some.inj h)).1 ▸ Fields.Gains.refl
  cases item with
  | literal c =>
    obtain ⟨tail, -, hpair⟩ := Option.map_eq_some_iff.mp h
    exact hkept tail (congrArg some hpair)
  | blanks => exact hkept _ h
  | number n =>
    obtain ⟨v, hv⟩ := hput (takeNumber? n cs) (n.put? · s) h
    exact Numeral.gains_of_put? hv
  | monthName full =>
    obtain ⟨i, hi⟩ := hput (takeOneOf? full cs 0 months) (s.put? .month <| · + 1) h
    exact Fields.gains_of_put? hi
  | weekdayName full =>
    obtain ⟨i, hi⟩ := hput (takeOneOf? full cs 0 weekdays) (s.put? .weekday ·) h
    exact Fields.gains_of_put? hi
  | halfDay =>
    obtain ⟨i, hi⟩ := hput (takeOneOf? false cs 0 [("am", ""), ("pm", "")]) (s.put? .halfDay ·) h
    exact Fields.gains_of_put? hi
  | fraction =>
    simp only [take?] at h
    split at h
    next tail =>
      split at h
      · cases h
      · obtain ⟨u, hu, hpair⟩ := Option.map_eq_some_iff.mp h
        exact (Prod.mk.inj hpair).1 ▸ Fields.gains_of_put?_nanosecond hu
    next => exact hkept _ h
  | pointDigits count =>
    simp only [take?] at h
    split at h
    next tail => exact gains_of_takeFractionDigits? h
    next => exact hkept _ h
  | fractionDigits count =>
    intro f hf
    rw [gains_of_takeFractionDigits? h f hf]
    simp [fields, hf]
  | zoneName => exact hkept _ h
  | offset lenient =>
    obtain ⟨v, hv⟩ := hput (takeOffset? lenient lenient cs) (s.put? .offset) h
    exact Fields.gains_of_put? hv
  | dateTimeMark =>
    simp only [take?] at h
    split at h
    next c tail =>
      split at h
      · exact hkept _ h
      · cases h
    next => cases h
  | zone =>
    obtain ⟨v, hv⟩ := hput (takeZone? cs) (s.put? .offset) h
    exact Fields.gains_of_put? hv
  | invalid => cases h

/-- **Items fill the fields of each of them.** -/
theorem gains_of_takeAll? (h : takeAll? items s cs = some (t, rest)) :
    Fields.Gains (items.flatMap fields) s t := by
  induction items generalizing s cs with
  | nil => exact (Prod.mk.inj (Option.some.inj h)).1 ▸ Fields.Gains.refl
  | cons item items ih =>
    obtain ⟨⟨u, tail⟩, hitem, h⟩ := Option.bind_eq_some_iff.mp h
    exact (gains_of_take? hitem).trans (ih h)

end Item

namespace Pattern

/-- **A pattern reads a field** from each text that it matches. -/
def Reads (pattern : String) (f : Field) : Prop :=
  f ∈ (items pattern).flatMap Item.fields

instance (pattern : String) (f : Field) : Decidable (Reads pattern f) :=
  inferInstanceAs (Decidable (f ∈ (items pattern).flatMap Item.fields))

/-- **The pattern alone says which fields a text fills**, a fraction of a second apart. -/
theorem isSome_get_iff {pattern : String} {cs : List Char} {s : Fields} {f : Field}
    (h : fields? pattern cs = some s) (hf : f ≠ .nanosecond) :
    (s.get f).isSome ↔ Reads pattern f := by
  unfold fields? Item.fields? at h
  split at h
  next t hall =>
    obtain rfl := Option.some.inj h
    exact (Item.gains_of_takeAll? hall f hf).trans (by simp [Fields.empty, Reads])
  next => cases h

end Pattern

/-! ### The fields that determine a date or a time -/

namespace Fields

/-- A field is there. -/
def Knows (s : Fields) (f : Field) : Prop := (s.get f).isSome

/-- **Fields that determine a date**: a year, in full or within a century, with month and day, the place in
the year or a weekday of a week; or the same of a week date. A century must not stand without its year. -/
@[mk_iff]
structure NamesDate (known : Field → Prop) : Prop where
  century : known .century → known .year ∨ known .yearOfCentury
  isoCentury : known .isoCentury → known .isoYear ∨ known .isoYearOfCentury
  choice : (known .year ∨ known .yearOfCentury) ∧
      (known .month ∧ known .day ∨ known .ordinal ∨
        (known .sundayWeek ∨ known .mondayWeek) ∧ known .weekday) ∨
    (known .isoYear ∨ known .isoYearOfCentury) ∧ known .isoWeek ∧ known .weekday

/-- **Fields that determine a time of day**: hour and minute, and the second if there is a fraction of it. -/
structure NamesTime (known : Field → Prop) : Prop where
  hour : known .halfDay ∧ known .hourOfHalf
  minute : known .minute
  second : known .nanosecond → known .second

variable {s : Fields} {offset : Int}

/-- What is determined is neither wrong nor too little. -/
theorem isSome_toOption_iff {α : Type} {result : Except Gap α} :
    result.toOption.isSome ↔ result ≠ .error .impossible ∧ result ≠ .error .incomplete := by
  rcases result with (_ | _) | a <;> simp [Except.toOption]

/-! #### The date -/

theorem yearFrom_ok {year century rest found : Option Int} (h : yearFrom year century rest = .ok found) :
    (found.isSome ↔ year.isSome ∨ rest.isSome) ∧ (century.isSome → year.isSome ∨ rest.isSome) := by
  unfold yearFrom at h
  split at h
  · cases h; simp
  · split at h <;> cases h
    simp
  all_goals cases h
  all_goals simp

theorem yearFrom_incomplete {year century rest : Option Int}
    (h : yearFrom year century rest = .error .incomplete) :
    century.isSome ∧ ¬(year.isSome ∨ rest.isSome) := by
  unfold yearFrom at h
  split at h
  · cases h
  · split at h <;> cases h
  all_goals cases h
  simp

/-- A candidate is never too little. -/
theorem confirmed_ne_incomplete {candidate : Option Date} {agree : Date → Bool} :
    confirmed candidate agree ≠ .error .incomplete := by
  unfold confirmed
  split
  · split <;> simp
  · simp

/-- Fields that do not contradict each other say too little about a date if they name none. -/
theorem date_incomplete_iff (h : s.date ≠ .error .impossible) :
    s.date = .error .incomplete ↔ ¬NamesDate s.Knows := by
  unfold date at *
  cases hy : yearFrom (s.get .year) (s.get .century) (s.get .yearOfCentury) with
  | error gap =>
    cases gap with
    | impossible => simp [hy, bind, Except.bind] at h
    | incomplete =>
      obtain ⟨hcentury, hnone⟩ := yearFrom_incomplete hy
      exact iff_of_true rfl fun hnames => hnone (hnames.century hcentury)
  | ok year =>
  cases hi : yearFrom (s.get .isoYear) (s.get .isoCentury) (s.get .isoYearOfCentury) with
  | error gap =>
    cases gap with
    | impossible => simp [hy, hi, bind, Except.bind] at h
    | incomplete =>
      obtain ⟨hcentury, hnone⟩ := yearFrom_incomplete hi
      exact iff_of_true rfl fun hnames => hnone (hnames.isoCentury hcentury)
  | ok isoYear =>
  obtain ⟨hyear, hcentury⟩ := yearFrom_ok hy
  obtain ⟨hisoYear, hisoCentury⟩ := yearFrom_ok hi
  have hfound {candidate : Option Date} {agree : Date → Bool}
      (hchoice : year.isSome ∧ (s.Knows .month ∧ s.Knows .day ∨ s.Knows .ordinal ∨
        (s.Knows .sundayWeek ∨ s.Knows .mondayWeek) ∧ s.Knows .weekday) ∨
        isoYear.isSome ∧ s.Knows .isoWeek ∧ s.Knows .weekday) :
      confirmed candidate agree = .error .incomplete ↔ ¬NamesDate s.Knows :=
    iff_of_false confirmed_ne_incomplete
      (not_not_intro ⟨hcentury, hisoCentury, by rwa [hyear, hisoYear] at hchoice⟩)
  -- the choices of fields in the order in which they are tried
  simp only [bind, Except.bind]
  split
  next y m d hm hd => exact hfound (by simp [Knows, hm, hd])
  next hno₁ =>
  split
  next y o ho => exact hfound (by simp [Knows, ho])
  next hno₂ =>
  split
  next y w d hw hd => exact hfound (by simp [Knows, hw, hd])
  next hno₃ =>
  split
  next y w d hw hd => exact hfound (by simp [Knows, hw, hd])
  next hno₄ =>
  split
  next y w d hw hd => exact hfound (by simp [Knows, hw, hd])
  next hno₅ =>
  -- none of them is complete
  have value {o : Option Int} (h : o.isSome) : o = some (o.get h) := Option.eq_some_of_isSome h
  refine iff_of_true rfl fun hnames => ?_
  rcases hnames.choice with ⟨hy, ⟨hm, hd⟩ | ho | ⟨hw | hw, hd⟩⟩ | ⟨hy, hw, hd⟩
  · exact hno₁ _ _ _ (value (hyear.mpr hy)) (value hm) (value hd)
  · exact hno₂ _ _ (value (hyear.mpr hy)) (value ho)
  · exact hno₃ _ _ _ (value (hyear.mpr hy)) (value hw) (value hd)
  · exact hno₄ _ _ _ (value (hyear.mpr hy)) (value hw) (value hd)
  · exact hno₅ _ _ _ (value (hisoYear.mpr hy)) (value hw) (value hd)

/-- **Fields that do not contradict each other** determine a date if they name one. -/
theorem isSome_date_iff (h : s.date ≠ .error .impossible) :
    s.date.toOption.isSome ↔ NamesDate s.Knows := by
  rw [isSome_toOption_iff, Ne, Ne, date_incomplete_iff h, Classical.not_not, and_iff_right h]

/-! #### The time of day -/

/-- Fields say too little about a time if they name none. -/
theorem time_incomplete_iff : s.time = .error .incomplete ↔ ¬NamesTime s.Knows := by
  unfold time
  split
  next half hour minute hhalf hhour hminute =>
    split
    next n hsecond hn =>
      exact iff_of_true rfl fun hnames => by
        simpa [Knows, hsecond] using hnames.second (by simp [Knows, hn])
    next second n hno =>
      have hnames : NamesTime s.Knows := by
        refine ⟨by simp [Knows, hhalf, hhour], by simp [Knows, hminute], fun hn => ?_⟩
        rw [Knows, Option.isSome_iff_ne_none]
        exact fun hsecond => hno _ hsecond (Option.eq_some_of_isSome hn)
      refine iff_of_false ?_ (not_not_intro hnames)
      split <;> simp
  next hno =>
    exact iff_of_true rfl fun hnames => hno _ _ _ (Option.eq_some_of_isSome hnames.hour.1)
      (Option.eq_some_of_isSome hnames.hour.2) (Option.eq_some_of_isSome hnames.minute)

/-- **Fields that do not contradict each other** determine a time if they name one. -/
theorem isSome_time_iff (h : s.time ≠ .error .impossible) :
    s.time.toOption.isSome ↔ NamesTime s.Knows := by
  rw [isSome_toOption_iff, Ne, Ne, time_incomplete_iff, Classical.not_not, and_iff_right h]

/-! #### The date-time -/

/-- A date-time contradicts neither its date nor its time, and what these leave open a timestamp gives. -/
theorem determined_of_dateTime? (h : (s.dateTime? offset).isSome) :
    s.date ≠ .error .impossible ∧ s.time ≠ .error .impossible ∧
      (¬s.Knows .timestamp → s.date ≠ .error .incomplete ∧ s.time ≠ .error .incomplete) := by
  unfold dateTime? at h
  split at h
  next d t hdate htime => simp [hdate, htime]
  next => cases h
  next => cases h
  next hdate htime _ =>
    refine ⟨hdate, htime, fun hstamp => ?_⟩
    rw [Knows, Option.not_isSome_iff_eq_none] at hstamp
    simp [hstamp] at h

end Fields

/-! ### The three readings of a pattern -/

namespace Pattern

open Fields

variable {pattern : String} {cs : List Char} {s : Fields}

/-- The text matches the pattern and fills the field. -/
def Finds (pattern : String) (cs : List Char) (f : Field) : Prop :=
  ∃ s, fields? pattern cs = some s ∧ s.Knows f

theorem finds_iff {f : Field} (h : fields? pattern cs = some s) : Finds pattern cs f ↔ s.Knows f := by
  simp [Finds, h]

/-- **A pattern of dates**: its fields name a date and leave the hour and the minute open. -/
def ReadsDate (pattern : String) : Prop :=
  NamesDate (Reads pattern) ∧ ¬Reads pattern .halfDay ∧ ¬Reads pattern .minute

/-- **A pattern of times**: the fields that the text fills name a time, and none of them is a year, a month
or a day. -/
def ReadsTime (pattern : String) (cs : List Char) : Prop :=
  NamesTime (Finds pattern cs) ∧ ¬Reads pattern .year ∧ ¬Reads pattern .month ∧ ¬Reads pattern .day

theorem namesDate_knows_iff (h : fields? pattern cs = some s) :
    NamesDate s.Knows ↔ NamesDate (Reads pattern) := by
  have hread {f : Field} (hf : f ≠ .nanosecond) : s.Knows f ↔ Reads pattern f := isSome_get_iff h hf
  simp (disch := decide) only [namesDate_iff, hread]

theorem namesTime_knows_iff (h : fields? pattern cs = some s) :
    NamesTime s.Knows ↔ NamesTime (Finds pattern cs) := by
  rw [show Finds pattern cs = s.Knows from funext fun f => propext (finds_iff h)]

theorem isSome_ofDate_iff (h : fields? pattern cs = some s) :
    (Date.ofText? [pattern] cs).isSome ↔
      s.date.toOption.isSome ∧ ¬Reads pattern .halfDay ∧ ¬Reads pattern .minute := by
  have hread : Date.ofText? [pattern] cs =
      if (s.get .halfDay).isSome || (s.get .minute).isSome then none else s.date.toOption := by
    simp [Date.ofText?, Date.ofPattern?, h]
  rw [hread, ← isSome_get_iff h (by decide), ← isSome_get_iff h (by decide)]
  cases (s.get .halfDay).isSome <;> cases (s.get .minute).isSome <;> simp

theorem isSome_ofTime_iff (h : fields? pattern cs = some s) :
    (TimeOfDay.ofText? [pattern] cs).isSome ↔
      s.time.toOption.isSome ∧ ¬Reads pattern .year ∧ ¬Reads pattern .month ∧ ¬Reads pattern .day := by
  have hread : TimeOfDay.ofText? [pattern] cs =
      if (s.get .year).isSome || (s.get .month).isSome || (s.get .day).isSome then none
      else s.time.toOption := by
    simp [TimeOfDay.ofText?, TimeOfDay.ofPattern?, h]
  rw [hread, ← isSome_get_iff h (by decide), ← isSome_get_iff h (by decide),
    ← isSome_get_iff h (by decide)]
  cases (s.get .year).isSome <;> cases (s.get .month).isSome <;> cases (s.get .day).isSome <;> simp

/-- What is read with one pattern has matched it. -/
theorem exists_fields {α : Type} {read : Fields → Option α}
    (h : ([pattern].findSome? fun p => (fields? p cs).bind read).isSome) :
    ∃ s, fields? pattern cs = some s ∧ (read s).isSome := by
  cases hs : fields? pattern cs with
  | none => simp [hs] at h
  | some s => exact ⟨s, rfl, by simpa [hs] using h⟩

/-- A time fills the minute, which a date leaves open. -/
theorem not_date_and_time (pattern : String) (cs : List Char) :
    ¬((Date.ofText? [pattern] cs).isSome ∧ (TimeOfDay.ofText? [pattern] cs).isSome) := by
  rintro ⟨hdate, htime⟩
  obtain ⟨s, h, -⟩ := exists_fields hdate
  obtain ⟨-, -, hminute⟩ := (isSome_ofDate_iff h).mp hdate
  obtain ⟨htime, -⟩ := (isSome_ofTime_iff h).mp htime
  have hnames := (isSome_time_iff (isSome_toOption_iff.mp htime).1).mp htime
  exact hminute ((isSome_get_iff h (by decide)).mp hnames.minute)

/-- What a date-time can be read as besides. -/
theorem readings_of_dateTime (h : (DateTime.ofText? [pattern] cs).isSome) :
    ((Date.ofText? [pattern] cs).isSome ↔ ReadsDate pattern) ∧
      ((TimeOfDay.ofText? [pattern] cs).isSome ↔ ReadsTime pattern cs) := by
  obtain ⟨s, h, hboth⟩ := exists_fields h
  obtain ⟨hdate, htime, -⟩ := determined_of_dateTime? hboth
  rw [isSome_ofDate_iff h, isSome_date_iff hdate, namesDate_knows_iff h, isSome_ofTime_iff h,
    isSome_time_iff htime, namesTime_knows_iff h]
  exact ⟨Iff.rfl, Iff.rfl⟩

/-- Without a timestamp, the fields of a date-time determine its time, so it is no date. -/
theorem not_date_of_dateTime (hstamp : ¬Reads pattern .timestamp)
    (h : (DateTime.ofText? [pattern] cs).isSome) : ¬(Date.ofText? [pattern] cs).isSome := by
  obtain ⟨s, hs, hboth⟩ := exists_fields h
  obtain ⟨-, htime, hall⟩ := determined_of_dateTime? hboth
  obtain ⟨-, htime'⟩ := hall (mt (isSome_get_iff (f := .timestamp) hs (by decide)).mp hstamp)
  have hnames := (isSome_time_iff htime).mp (isSome_toOption_iff.mpr ⟨htime, htime'⟩)
  intro hdate
  exact ((isSome_ofDate_iff hs).mp hdate).2.2 ((isSome_get_iff hs (by decide)).mp hnames.minute)

/-- **At most one of the three readings.** No text is read as a date and as a time with the same
pattern. A date-time is read as a date too by the patterns of dates, and as a time too by those of times;
what the fields lack for the date-time, a timestamp gives. So a pattern with a year, a month or a day and
without a timestamp reads a text in one way at most. -/
theorem readings_exclude (pattern : String) (cs : List Char) :
    ¬((Date.ofText? [pattern] cs).isSome ∧ (TimeOfDay.ofText? [pattern] cs).isSome) ∧
    ((DateTime.ofText? [pattern] cs).isSome →
      ((Date.ofText? [pattern] cs).isSome ↔ ReadsDate pattern) ∧
      ((TimeOfDay.ofText? [pattern] cs).isSome ↔ ReadsTime pattern cs)) ∧
    (Reads pattern .year ∨ Reads pattern .month ∨ Reads pattern .day → ¬Reads pattern .timestamp →
      [(DateTime.ofText? [pattern] cs).isSome, (Date.ofText? [pattern] cs).isSome,
        (TimeOfDay.ofText? [pattern] cs).isSome].count true ≤ 1) := by
  have hfirst := not_date_and_time pattern cs
  refine ⟨hfirst, readings_of_dateTime, fun hday hstamp => ?_⟩
  have hsecond : ¬((DateTime.ofText? [pattern] cs).isSome ∧ (Date.ofText? [pattern] cs).isSome) :=
    fun h => not_date_of_dateTime hstamp h.1 h.2
  have hthird : ¬((DateTime.ofText? [pattern] cs).isSome ∧ (TimeOfDay.ofText? [pattern] cs).isSome) := by
    rintro ⟨hboth, htime⟩
    obtain ⟨-, hyear, hmonth, hday'⟩ := (readings_of_dateTime hboth).2.mp htime
    exact hday.elim hyear (·.elim hmonth hday')
  revert hfirst hsecond hthird
  generalize (DateTime.ofText? [pattern] cs).isSome = both, (Date.ofText? [pattern] cs).isSome = date,
    (TimeOfDay.ofText? [pattern] cs).isSome = time
  revert both date time
  decide

/-- The place in the year is no year, month or day: this date-time is a time as well. -/
example : (DateTime.ofText? ["%y-%j %H:%M"] "24-127 10:00".toList).isSome ∧
    (TimeOfDay.ofText? ["%y-%j %H:%M"] "24-127 10:00".toList).isSome := by decide

/-- A timestamp has an hour and a minute, but does not fill them: this date-time is a date as well. -/
example : (DateTime.ofText? ["%s %F"] "0 1970-01-01".toList).isSome ∧
    (Date.ofText? ["%s %F"] "0 1970-01-01".toList).isSome := by decide

end Pattern

end Colonnade
