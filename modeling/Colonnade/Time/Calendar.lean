/-!
# The calendar as arithmetic on day numbers

The proleptic Gregorian calendar, without bounds on the year: days are numbered from
1970-01-01, which is day zero, so that weeks, years and the seconds of a timestamp are
division with remainder.

| | |
|---|---|
| `isLeap`, `yearLength`, `monthLength` | the lengths |
| `firstDay` | the number of the first of January |
| `yearOf`, `ordinalOf` | the year of a day and its place in it, from one |
| `weekdayOf` | the weekday of a day, Monday being zero |
| `isoYearOf`, `isoWeekOf` | the week date: a week belongs to the year of its Thursday |

All divisions are those of `Int`, which round to the floor here because every divisor is
positive.
-/

namespace Colonnade.Calendar

/-- Every fourth year is a leap year, except the centuries that 400 does not divide. -/
def isLeap (year : Int) : Bool :=
  year % 4 == 0 && (year % 100 != 0 || year % 400 == 0)

/-- The number of days of a year. -/
def yearLength (year : Int) : Nat :=
  if isLeap year then 366 else 365

/-- The number of days of a month, none for a number that is no month. -/
def monthLength (year : Int) (month : Nat) : Nat :=
  if month = 2 then (if isLeap year then 29 else 28)
  else if month = 4 ∨ month = 6 ∨ month = 9 ∨ month = 11 then 30
  else if 1 ≤ month ∧ month ≤ 12 then 31
  else 0

/-- The number of days of a year before a month. -/
def daysBefore (year : Int) (month : Nat) : Nat :=
  (List.range (month - 1)).foldr (fun m n => monthLength year (m + 1) + n) 0

/-- The number of the first of January of a year. -/
def firstDay (year : Int) : Int :=
  let y := year - 1
  365 * y + y / 4 - y / 100 + y / 400 - 719162

/-- The year that a day belongs to: an estimate from the mean length of a year, moved by
one where it is off. -/
def yearOf (day : Int) : Int :=
  let estimate := day * 400 / 146097 + 1970
  if day < firstDay estimate then estimate - 1
  else if firstDay (estimate + 1) ≤ day then estimate + 1
  else estimate

/-- The place of a day in its year, from one. -/
def ordinalOf (day : Int) : Int :=
  day - firstDay (yearOf day) + 1

/-- The weekday, Monday being zero and Sunday six. -/
def weekdayOf (day : Int) : Nat :=
  ((day + 3) % 7).toNat

/-- The Thursday of the week of a day. -/
def thursdayOf (day : Int) : Int :=
  day - weekdayOf day + 3

/-- The year that the week of a day belongs to. -/
def isoYearOf (day : Int) : Int :=
  yearOf (thursdayOf day)

/-- The number of the week of a day in its week year, from one. -/
def isoWeekOf (day : Int) : Int :=
  (ordinalOf (thursdayOf day) - 1) / 7 + 1

/-- The Monday of the first week of a week year, the week of the fourth of January. -/
def isoStart (year : Int) : Int :=
  let fourth := firstDay year + 3
  fourth - weekdayOf fourth

/-- The month of the `ordinal`-th day of a year and the day in it, counting on from
`month` for at most `fuel` months. -/
def monthAndDay (year : Int) : (fuel month ordinal : Nat) → Nat × Nat
  | 0, month, ordinal => (month, ordinal)
  | fuel + 1, month, ordinal =>
    if ordinal ≤ monthLength year month then (month, ordinal)
    else monthAndDay year fuel (month + 1) (ordinal - monthLength year month)

end Colonnade.Calendar
