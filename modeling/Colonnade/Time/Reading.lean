import Colonnade.Time.Pattern

/-!
# Reading dates and times

The patterns of a list are tried in order, and the first one that matches the whole text
and determines a value gives it. A text is read as a date only by a pattern that leaves
the time open, and as a time of day only by one that leaves the date open: so a date, a
time and a date-time are told apart.

An instant has a form of its own, `Item.timestampItems`: date, time and zone.
-/

namespace Colonnade

/-- The patterns of a date-time when none is given. -/
def DateTime.defaultPatterns : List String := ["%Y-%m-%dT%H:%M:%S%.f", "%Y-%m-%dT%H:%M"]

/-- The patterns of a date when none is given. -/
def Date.defaultPatterns : List String := ["%Y-%m-%d"]

/-- The patterns of a time of day when none is given. -/
def TimeOfDay.defaultPatterns : List String := ["%H:%M:%S%.f", "%H:%M"]

/-- **Reading an instant**: a date and a time with a zone. -/
def Instant.ofText? (cs : List Char) : Option Instant :=
  (Item.fields? Item.timestampItems cs).bind Fields.instant?

/-- Reading a date-time with one pattern. -/
def DateTime.ofPattern? (cs : List Char) (pattern : String) : Option DateTime :=
  (Pattern.fields? pattern cs).bind fun s => s.dateTime? 0

/-- Reading a date with one pattern, which must leave the hour and the minute open. -/
def Date.ofPattern? (cs : List Char) (pattern : String) : Option Date :=
  (Pattern.fields? pattern cs).bind fun s =>
    if (s.get .halfDay).isSome || (s.get .minute).isSome then none
    else s.date.toOption

/-- Reading a time of day with one pattern, which must leave year, month and day open. -/
def TimeOfDay.ofPattern? (cs : List Char) (pattern : String) : Option TimeOfDay :=
  (Pattern.fields? pattern cs).bind fun s =>
    if (s.get .year).isSome || (s.get .month).isSome || (s.get .day).isSome then none
    else s.time.toOption

/-- **Reading a date-time** with the first pattern that gives one. -/
def DateTime.ofText? (patterns : List String) (cs : List Char) : Option DateTime :=
  patterns.findSome? (DateTime.ofPattern? cs)

/-- **Reading a date** with the first pattern that gives one. -/
def Date.ofText? (patterns : List String) (cs : List Char) : Option Date :=
  patterns.findSome? (Date.ofPattern? cs)

/-- **Reading a time of day** with the first pattern that gives one. -/
def TimeOfDay.ofText? (patterns : List String) (cs : List Char) : Option TimeOfDay :=
  patterns.findSome? (TimeOfDay.ofPattern? cs)

end Colonnade
