import Colonnade.Time.Date

/-!
# Times of day, date-times and instants

A `TimeOfDay` has a resolution of a nanosecond. Its second may be 60: a leap second is
kept and written as such, and lies in the same minute as the second 59.

A `DateTime` is a date with a time of day, and an `Instant` is a date-time in Coordinated
Universal Time. A fraction of a second is written with three, six or nine digits, the
fewest that are exact, or not at all.
-/

namespace Colonnade

open Number

/-- The numbers are those of a time of day. -/
def TimeOfDay.IsTime (hour minute second nanosecond : Nat) : Prop :=
  hour < 24 ∧ minute < 60 ∧ second ≤ 60 ∧ nanosecond < 1000000000

instance (h m s n : Nat) : Decidable (TimeOfDay.IsTime h m s n) :=
  inferInstanceAs (Decidable (_ ∧ _))

/-- **A time of day**; the second 60 is a leap second. -/
structure TimeOfDay where
  hour : Nat
  minute : Nat
  second : Nat
  nanosecond : Nat
  valid : TimeOfDay.IsTime hour minute second nanosecond
deriving DecidableEq

/-- **A date-time**: a date and a time of day. -/
structure DateTime where
  date : Date
  time : TimeOfDay
deriving DecidableEq

/-- **An instant**: a date-time in Coordinated Universal Time. -/
structure Instant where
  utc : DateTime
deriving DecidableEq

namespace TimeOfDay

instance : Inhabited TimeOfDay := ⟨⟨0, 0, 0, 0, by decide⟩⟩

/-- The first moment of a day. -/
def midnight : TimeOfDay := ⟨0, 0, 0, 0, by decide⟩

/-- The time with these numbers. -/
def make? (hour minute second nanosecond : Nat) : Option TimeOfDay :=
  if h : IsTime hour minute second nanosecond then
    some ⟨hour, minute, second, nanosecond, h⟩
  else none

/-- The whole seconds since midnight, a leap second counting as the one before it. -/
def secondsOfDay (t : TimeOfDay) : Nat :=
  t.hour * 3600 + t.minute * 60 + min t.second 59

/-- A fraction of a second with its point: three, six or nine digits, or nothing. -/
def fractionChars (nanosecond : Nat) : List Char :=
  if nanosecond = 0 then []
  else if nanosecond % 1000000 = 0 then '.' :: padZeros 3 (digitsOf (nanosecond / 1000000))
  else if nanosecond % 1000 = 0 then '.' :: padZeros 6 (digitsOf (nanosecond / 1000))
  else '.' :: padZeros 9 (digitsOf nanosecond)

/-- The characters of `hour:minute:second` and the fraction. -/
def chars (t : TimeOfDay) : List Char :=
  padZeros 2 (digitsOf t.hour) ++ ':' :: padZeros 2 (digitsOf t.minute) ++
    ':' :: padZeros 2 (digitsOf t.second) ++ fractionChars t.nanosecond

/-- **The text of a time of day.** -/
def text (t : TimeOfDay) : String :=
  String.ofList t.chars

end TimeOfDay

namespace DateTime

instance : Inhabited DateTime := ⟨⟨default, default⟩⟩

/-- The characters of the date, `T` and the time. -/
def chars (t : DateTime) : List Char :=
  t.date.chars ++ 'T' :: t.time.chars

/-- **The text of a date-time.** -/
def text (t : DateTime) : String :=
  String.ofList t.chars

/-- The seconds since the start of 1970, were the date-time an instant. -/
def timestamp (t : DateTime) : Int :=
  t.date.dayNumber * 86400 + t.time.secondsOfDay

/-- The date-time of a number of seconds since the start of 1970. -/
def ofTimestamp? (seconds : Int) : Option DateTime := do
  let date ← Date.ofDayNumber? (seconds / 86400)
  let rest := (seconds % 86400).toNat
  let time ← TimeOfDay.make? (rest / 3600) (rest / 60 % 60) (rest % 60) 0
  some ⟨date, time⟩

/-- The date-time a number of whole minutes earlier, with the same second of its
minute. -/
def minusMinutes? (t : DateTime) (minutes : Int) : Option DateTime := do
  let total := t.date.dayNumber * 1440 + (t.time.hour * 60 + t.time.minute : Nat) - minutes
  let date ← Date.ofDayNumber? (total / 1440)
  let rest := (total % 1440).toNat
  let time ← TimeOfDay.make? (rest / 60) (rest % 60) t.time.second t.time.nanosecond
  some ⟨date, time⟩

end DateTime

namespace Instant

instance : Inhabited Instant := ⟨⟨default⟩⟩

/-- **The text of an instant**: its date-time and `Z`. -/
def text (i : Instant) : String :=
  String.ofList (i.utc.chars ++ ['Z'])

end Instant

end Colonnade
