import Colonnade.Number.Digits
import Colonnade.Time.Calendar

/-!
# Dates

A `Date` is a day of the calendar in the years from -262143 to 262142. The type holds
valid dates only; `Date.ofYMD?`, `Date.ofOrdinal?`, `Date.ofWeek?` and
`Date.ofDayNumber?` build one from the numbers of four ways of counting.

A date is written `year-month-day`; a year outside 0 to 9999 carries its sign.
-/

namespace Colonnade

open Number

/-- The least and the greatest year of a date. -/
def Date.years : Int × Int := (-262143, 262142)

/-- The numbers are those of a day of the calendar. -/
def Date.IsDate (year : Int) (month day : Nat) : Prop :=
  (Date.years.1 ≤ year ∧ year ≤ Date.years.2) ∧ (1 ≤ month ∧ month ≤ 12) ∧
    1 ≤ day ∧ day ≤ Calendar.monthLength year month

instance (year : Int) (month day : Nat) : Decidable (Date.IsDate year month day) :=
  inferInstanceAs (Decidable (_ ∧ _))

/-- **A date** of the calendar. -/
structure Date where
  year : Int
  month : Nat
  day : Nat
  valid : Date.IsDate year month day
deriving DecidableEq

namespace Date

instance : Inhabited Date := ⟨⟨1970, 1, 1, by decide⟩⟩

/-- The date with this year, month and day. -/
def ofYMD? (year : Int) (month day : Nat) : Option Date :=
  if h : IsDate year month day then some ⟨year, month, day, h⟩ else none

/-- The date with this place in its year. -/
def ofOrdinal? (year : Int) (ordinal : Nat) : Option Date :=
  if 1 ≤ ordinal ∧ ordinal ≤ Calendar.yearLength year then
    let (month, day) := Calendar.monthAndDay year 12 1 ordinal
    ofYMD? year month day
  else none

/-- The date with this day number. -/
def ofDayNumber? (day : Int) : Option Date :=
  ofOrdinal? (Calendar.yearOf day) (Calendar.ordinalOf day).toNat

/-- The date of a weekday, Monday being zero, in a week of a week year. -/
def ofWeek? (year : Int) (week weekday : Nat) : Option Date :=
  let day := Calendar.isoStart year + 7 * ((week : Int) - 1) + weekday
  if 1 ≤ week ∧ Calendar.isoYearOf day = year ∧ Calendar.isoWeekOf day = week then
    ofDayNumber? day
  else none

/-- The place of the date in its year, from one. -/
def ordinal (d : Date) : Nat :=
  Calendar.daysBefore d.year d.month + d.day

/-- The number of the day. -/
def dayNumber (d : Date) : Int :=
  Calendar.firstDay d.year + d.ordinal - 1

/-- The weekday, Monday being zero. -/
def weekday (d : Date) : Nat :=
  Calendar.weekdayOf d.dayNumber

/-- The year that the week of the date belongs to. -/
def isoYear (d : Date) : Int :=
  Calendar.isoYearOf d.dayNumber

/-- The number of the week in its week year. -/
def isoWeek (d : Date) : Int :=
  Calendar.isoWeekOf d.dayNumber

/-- The quarter, from one. -/
def quarter (d : Date) : Nat :=
  (d.month - 1) / 3 + 1

/-- The number of weeks of the year that have begun, a week beginning with `start`
(Monday being zero) and the days before the first one belonging to week zero. -/
def weekFrom (start : Nat) (d : Date) : Nat :=
  (d.ordinal + 6 - (d.weekday + 7 - start) % 7) / 7

/-- Four digits for a year from 0 to 9999, else a sign and at least four digits. -/
def yearText (year : Int) : List Char :=
  let digits := padZeros 4 (digitsOf year.natAbs)
  if 0 ≤ year ∧ year ≤ 9999 then digits
  else (if year < 0 then '-' else '+') :: digits

/-- The characters of `year-month-day`. -/
def chars (d : Date) : List Char :=
  yearText d.year ++ '-' :: padZeros 2 (digitsOf d.month) ++
    '-' :: padZeros 2 (digitsOf d.day)

/-- **The text of a date.** -/
def text (d : Date) : String :=
  String.ofList d.chars

end Date

end Colonnade
