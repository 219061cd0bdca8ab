import Colonnade.Time.Clock

/-!
# Fields of a date or a time, and what they determine

A pattern reads a text field by field: a year here, a weekday there. `Fields` collects
the numbers; a field takes a number in its range, and never two different ones
(`Fields.put?`).

What was collected is then resolved. Several choices of fields determine a date – month
and day, the place in the year, a week and a weekday – and the first complete choice
gives the date, which all other fields have to agree with:

| | |
|---|---|
| `Fields.date` | the date, `Fields.time` the time of day |
| `Fields.dateTime?` | both, or the moment of a timestamp that agrees with the rest |

A failure is a `Gap`: the fields say too little, or they contradict each other.
-/

namespace Colonnade

open Number

/-- A number that a pattern can read or fix. -/
inductive Field where
  | year | century | yearOfCentury
  | isoYear | isoCentury | isoYearOfCentury
  | quarter | month | sundayWeek | mondayWeek | isoWeek
  /-- The weekday, Monday being zero. -/
  | weekday
  | ordinal | day
  /-- Zero before noon, one after it. -/
  | halfDay
  /-- The hour of the half day, from zero. -/
  | hourOfHalf
  | minute | second | nanosecond
  /-- The seconds since the start of 1970. -/
  | timestamp
  /-- The seconds by which the clock is ahead of Coordinated Universal Time. -/
  | offset
deriving DecidableEq, Inhabited

/-- The numbers that a field takes. -/
def Field.range : Field → Int × Int
  | .year | .isoYear | .offset => int32Range
  | .century | .isoCentury => (0, int32Range.2)
  | .yearOfCentury | .isoYearOfCentury => (0, 99)
  | .quarter => (1, 4)
  | .month => (1, 12)
  | .sundayWeek | .mondayWeek => (0, 53)
  | .isoWeek => (1, 53)
  | .weekday => (0, 6)
  | .ordinal => (1, 366)
  | .day => (1, 31)
  | .halfDay => (0, 1)
  | .hourOfHalf => (0, 11)
  | .minute => (0, 59)
  | .second => (0, 60)
  | .nanosecond => (0, 999999999)
  | .timestamp => int64Range

/-- **Collected fields**: a number for some of them. -/
structure Fields where
  get : Field → Option Int

/-- Why fields determine nothing. -/
inductive Gap where
  /-- They say too little. -/
  | incomplete
  /-- They name no day or time, or two different ones. -/
  | impossible
deriving DecidableEq

namespace Fields

/-- No field is known. -/
def empty : Fields := ⟨fun _ => none⟩

instance : Inhabited Fields := ⟨empty⟩

/-- Adds a number to the fields: it has to be in range, and the same as a number that is
already there. -/
def put? (f : Field) (v : Int) (s : Fields) : Option Fields :=
  if within f.range v && (s.get f).all (· == v) then
    some ⟨fun g => if g = f then some v else s.get g⟩
  else none

/-- Adds an hour of the day as its half day and the hour in that. -/
def putHour? (hour : Int) (s : Fields) : Option Fields :=
  if within (0, 23) hour then
    (s.put? .halfDay (hour / 12)).bind fun s => s.put? .hourOfHalf (hour % 12)
  else none

/-- Adds an hour on the face of a clock, twelve being the start of the half day. -/
def putClockHour? (hour : Int) (s : Fields) : Option Fields :=
  if within (1, 12) hour then s.put? .hourOfHalf (hour % 12) else none

/-- The field is absent, or has this number. -/
def agrees (s : Fields) (f : Field) (v : Int) : Bool :=
  (s.get f).all (· == v)

/-! ### The date -/

/-- The year that a full year, a century and the year in it say. A year of a century alone
lies from 1970 to 2069, and a year before 0 has neither century nor year in it. -/
def yearFrom (year century rest : Option Int) : Except Gap (Option Int) :=
  match year, century, rest with
  | y, none, none => .ok y
  | some y, q, r =>
    if 0 ≤ y ∧ q.all (· == y / 100) ∧ r.all (· == y % 100) then .ok (some y)
    else .error .impossible
  | none, some q, some r => .ok (some (q * 100 + r))
  | none, none, some r => .ok (some (if r < 70 then 2000 + r else 1900 + r))
  | none, some _, none => .error .incomplete

/-- The date agrees with the year, the month and the day. -/
def agreesWithDay (s : Fields) (d : Date) : Bool :=
  s.agrees .year d.year &&
    (if 0 ≤ d.year then s.agrees .century (d.year / 100) && s.agrees .yearOfCentury (d.year % 100)
      else (s.get .century).isNone && (s.get .yearOfCentury).isNone) &&
    s.agrees .month d.month && s.agrees .day d.day

/-- The date agrees with the week date. -/
def agreesWithWeek (s : Fields) (d : Date) : Bool :=
  let y := d.isoYear
  s.agrees .isoYear y &&
    (if 0 ≤ y then s.agrees .isoCentury (y / 100) && s.agrees .isoYearOfCentury (y % 100)
      else (s.get .isoCentury).isNone && (s.get .isoYearOfCentury).isNone) &&
    s.agrees .isoWeek d.isoWeek && s.agrees .weekday d.weekday

/-- The date agrees with its place in the year and the weeks counted from its start. -/
def agreesWithOrdinal (s : Fields) (d : Date) : Bool :=
  s.agrees .ordinal d.ordinal && s.agrees .sundayWeek (d.weekFrom 6) &&
    s.agrees .mondayWeek (d.weekFrom 0)

/-- The date agrees with the quarter. -/
def agreesWithQuarter (s : Fields) (d : Date) : Bool :=
  s.agrees .quarter d.quarter

/-- The date on a weekday of a week of a year; week one starts on the first day `start` of
the year, Monday being zero. -/
def weekDate? (year week weekday : Int) (start : Nat) : Option Date :=
  let january : Int := Calendar.weekdayOf (Calendar.firstDay year)
  let firstStart := 1 + (start - january) % 7
  let ordinal := firstStart + (week - 1) * 7 + (weekday - start) % 7
  if 1 ≤ ordinal then Date.ofOrdinal? year ordinal.toNat else none

/-- A candidate that has to agree with the other fields. -/
def confirmed (candidate : Option Date) (agree : Date → Bool) : Except Gap Date :=
  match candidate with
  | some d => if agree d then .ok d else .error .impossible
  | none => .error .impossible

/-- **The date that the fields determine.** -/
def date (s : Fields) : Except Gap Date := do
  let year ← yearFrom (s.get .year) (s.get .century) (s.get .yearOfCentury)
  let isoYear ← yearFrom (s.get .isoYear) (s.get .isoCentury) (s.get .isoYearOfCentury)
  let all (d : Date) : Bool :=
    s.agreesWithDay d && s.agreesWithWeek d && s.agreesWithOrdinal d && s.agreesWithQuarter d
  match year, s.get .month, s.get .day with
  | some y, some m, some d =>
    confirmed (Date.ofYMD? y m.toNat d.toNat) fun d =>
      s.agreesWithWeek d && s.agreesWithOrdinal d && s.agreesWithQuarter d
  | _, _, _ =>
  match year, s.get .ordinal with
  | some y, some o => confirmed (Date.ofOrdinal? y o.toNat) all
  | _, _ =>
  match year, s.get .sundayWeek, s.get .weekday with
  | some y, some w, some d => confirmed (weekDate? y w d 6) all
  | _, _, _ =>
  match year, s.get .mondayWeek, s.get .weekday with
  | some y, some w, some d => confirmed (weekDate? y w d 0) all
  | _, _, _ =>
  match isoYear, s.get .isoWeek, s.get .weekday with
  | some y, some w, some d =>
    confirmed (Date.ofWeek? y w.toNat d.toNat) fun d =>
      s.agreesWithDay d && s.agreesWithOrdinal d && s.agreesWithQuarter d
  | _, _, _ => .error .incomplete

/-! ### The time of day -/

/-- **The time of day that the fields determine.** The seconds may be left out, but not if
there is a fraction of them. -/
def time (s : Fields) : Except Gap TimeOfDay :=
  match s.get .halfDay, s.get .hourOfHalf, s.get .minute with
  | some half, some hour, some minute =>
    match s.get .second, s.get .nanosecond with
    | none, some _ => .error .incomplete
    | second, nanosecond =>
      match TimeOfDay.make? (half * 12 + hour).toNat minute.toNat (second.getD 0).toNat
          (nanosecond.getD 0).toNat with
      | some t => .ok t
      | none => .error .impossible
  | _, _, _ => .error .incomplete

/-! ### The date-time -/

/-- A timestamp agrees with a date-time on a clock that is `offset` seconds ahead; during a
leap second it may be one more. -/
def agreesWithTimestamp (s : Fields) (offset : Int) (t : DateTime) : Bool :=
  (s.get .timestamp).all fun given =>
    let expected := t.timestamp - offset
    given == expected || (t.time.second == 60 && given == expected + 1)

/-- The date-time of a timestamp on a clock that is `offset` seconds ahead, if the other
fields agree with it. -/
def fromTimestamp? (s : Fields) (timestamp offset : Int) : Option DateTime := do
  let moment ← DateTime.ofTimestamp? (timestamp + offset)
  let (moment, s) ←
    if s.get .second = some 60 then
      if moment.time.second = 59 then some (moment, s)
      else if moment.time.second = 0 then
        (DateTime.ofTimestamp? (timestamp + offset - 1)).map fun earlier => (earlier, s)
      else none
    else (s.put? .second moment.time.second).map fun s => (moment, s)
  let s ← s.put? .year moment.date.year
  let s ← s.put? .ordinal moment.date.ordinal
  let s ← s.putHour? moment.time.hour
  let s ← s.put? .minute moment.time.minute
  match s.date, s.time with
  | .ok d, .ok t => some ⟨d, t⟩
  | _, _ => none

/-- **The date-time that the fields determine** on a clock that is `offset` seconds ahead:
date and time of day, or what a timestamp adds to them. -/
def dateTime? (s : Fields) (offset : Int) : Option DateTime :=
  match s.date, s.time with
  | .ok d, .ok t => if s.agreesWithTimestamp offset ⟨d, t⟩ then some ⟨d, t⟩ else none
  | .error .impossible, _ => none
  | _, .error .impossible => none
  | _, _ => (s.get .timestamp).bind fun given => s.fromTimestamp? given offset

/-- **The instant that the fields determine**: a date-time on a clock that is less than a
day ahead or behind. A timestamp alone needs no offset. -/
def instant? (s : Fields) : Option Instant := do
  let offset ← (s.get .offset).or ((s.get .timestamp).map fun _ => 0)
  let here ← s.dateTime? offset
  if -86400 < offset ∧ offset < 86400 then
    (here.minusMinutes? (offset / 60)).map Instant.mk
  else none

end Fields

end Colonnade
