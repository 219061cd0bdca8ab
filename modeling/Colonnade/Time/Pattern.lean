import Colonnade.Text.Blank
import Colonnade.Text.Letter
import Colonnade.Time.Fields

/-!
# Date-time patterns

A pattern such as `%d.%m.%Y` is a list of items: literal characters, blanks, numbers,
names, fractions of a second, offsets. `Pattern.items` reads the pattern text, one
character at a time; a text with an unknown specifier contains the item `invalid`, which
matches nothing.

`Item.take?` matches one item against the start of a text and collects its fields, and
`Pattern.fields?` matches all items against a whole text.

* Numbers skip blanks before them and take up to their width in digits; a year with a
  sign takes all digits.
* Blanks in a pattern match any number of blanks.
* Names are read without regard to case.
-/

namespace Colonnade

open Number

/-- The numbers that a pattern reads. -/
inductive Numeral where
  | field (f : Field)
  /-- The hour of the day. -/
  | hour
  /-- The hour from one to twelve. -/
  | clockHour
  /-- The weekday, Sunday being zero. -/
  | weekdayFromSunday
  /-- The weekday, Monday being one. -/
  | weekdayFromMonday
deriving DecidableEq

namespace Numeral

/-- The greatest number of digits, none for no limit. -/
def width : Numeral → Option Nat
  | field .year | field .isoYear => some 4
  | field .quarter | weekdayFromSunday | weekdayFromMonday => some 1
  | field .ordinal => some 3
  | field .nanosecond => some 9
  | field .timestamp => none
  | _ => some 2

/-- A sign may stand before the digits. -/
def signed : Numeral → Bool
  | field .year | field .isoYear => true
  | _ => false

/-- Adds a number that was read to the fields. -/
def put? (n : Numeral) (v : Int) (s : Fields) : Option Fields :=
  match n with
  | field f => s.put? f v
  | hour => s.putHour? v
  | clockHour => s.putClockHour? v
  | weekdayFromSunday => if within (0, 6) v then s.put? .weekday ((v + 6) % 7) else none
  | weekdayFromMonday => if within (1, 7) v then s.put? .weekday (v - 1) else none

end Numeral

/-- **An item of a pattern.** -/
inductive Item where
  /-- This very character. -/
  | literal (c : Char)
  /-- Any number of blanks. -/
  | blanks
  | number (n : Numeral)
  /-- A month name; the full name only if `full`. -/
  | monthName (full : Bool)
  /-- A weekday name; the full name only if `full`. -/
  | weekdayName (full : Bool)
  /-- `am` or `pm`. -/
  | halfDay
  /-- A point and the digits of a fraction of a second, or nothing. -/
  | fraction
  /-- A point and exactly this many digits, or nothing. -/
  | pointDigits (count : Nat)
  /-- Exactly this many digits of a fraction of a second. -/
  | fractionDigits (count : Nat)
  /-- Anything up to the next blank. -/
  | zoneName
  /-- An offset of hours and minutes; `lenient` also `Z`, and hours alone. -/
  | offset (lenient : Bool)
  /-- The mark between a date and a time: `T`, `t` or a space. -/
  | dateTimeMark
  /-- `Z`, `UTC` or an offset, after any blanks. -/
  | zone
  /-- Nothing matches. -/
  | invalid
deriving DecidableEq

namespace Item

/-! ### The specifiers -/

/-- An item that reads one field as a number. -/
def num (f : Field) : Item := number (.field f)

/-- `month/day/year` with two digits each. -/
def slashedDate : List Item :=
  [num .month, literal '/', num .day, literal '/', num .yearOfCentury]

/-- `hour:minute:second`. -/
def clock : List Item :=
  [number .hour, literal ':', num .minute, literal ':', num .second]

/-- A date, a time with an optional fraction and a zone. -/
def timestampItems : List Item :=
  [num .year, blanks, literal '-', num .month, blanks, literal '-', num .day, dateTimeMark,
    number .hour, blanks, literal ':', num .minute, blanks, literal ':', num .second,
    fraction, blanks, zone]

/-- The items of a specifier of one letter. -/
def ofLetter? : Char → Option (List Item)
  | 'A' => some [weekdayName true]
  | 'B' => some [monthName true]
  | 'C' => some [num .century]
  | 'D' => some slashedDate
  | 'F' => some [num .year, literal '-', num .month, literal '-', num .day]
  | 'G' => some [num .isoYear]
  | 'H' => some [number .hour]
  | 'I' => some [number .clockHour]
  | 'M' => some [num .minute]
  | 'P' => some [halfDay]
  | 'R' => some [number .hour, literal ':', num .minute]
  | 'S' => some [num .second]
  | 'T' => some clock
  | 'U' => some [num .sundayWeek]
  | 'V' => some [num .isoWeek]
  | 'W' => some [num .mondayWeek]
  | 'X' => some clock
  | 'Y' => some [num .year]
  | 'Z' => some [zoneName]
  | 'a' => some [weekdayName false]
  | 'b' => some [monthName false]
  | 'c' => some ([weekdayName false, blanks, monthName false, blanks, num .day, blanks] ++
      clock ++ [blanks, num .year])
  | 'd' => some [num .day]
  | 'e' => some [num .day]
  | 'f' => some [num .nanosecond]
  | 'g' => some [num .isoYearOfCentury]
  | 'h' => some [monthName false]
  | 'j' => some [num .ordinal]
  | 'k' => some [number .hour]
  | 'l' => some [number .clockHour]
  | 'm' => some [num .month]
  | 'n' => some [blanks]
  | 'p' => some [halfDay]
  | 'q' => some [num .quarter]
  | 'r' => some ([number .clockHour, literal ':', num .minute, literal ':', num .second,
      blanks, halfDay])
  | 's' => some [num .timestamp]
  | 't' => some [blanks]
  | 'u' => some [number .weekdayFromMonday]
  | 'v' => some [num .day, literal '-', monthName false, literal '-', num .year]
  | 'w' => some [number .weekdayFromSunday]
  | 'x' => some slashedDate
  | 'y' => some [num .yearOfCentury]
  | 'z' => some [offset false]
  | '+' => some timestampItems
  | '%' => some [literal '%']
  | _ => none

/-- The items of a letter after a padding modifier, which only a single number takes. -/
def ofPadded? (c : Char) : Option (List Item) :=
  match ofLetter? c with
  | some [number n] => some [number n]
  | _ => none

end Item

namespace Pattern

/-- The numbers of digits of a fraction that a specifier can ask for. -/
def fractionWidth? : Char → Option Nat
  | '3' => some 3
  | '6' => some 6
  | '9' => some 9
  | _ => none

/-- How far a pattern text has been read. -/
inductive Mode where
  /-- Outside a specifier. -/
  | plain
  /-- After `%`. -/
  | percent
  /-- After `%` and a padding modifier. -/
  | padded
  /-- After `%#`. -/
  | alternate
  /-- After `%` and this many colons. -/
  | colons (count : Nat)
  /-- After `%.`. -/
  | point
  /-- After `%`, a point if `pointed`, and the number of digits. -/
  | width (pointed : Bool) (count : Nat)

/-- One character of a pattern: the items that it completes and the next mode, or none if
no specifier continues like this. -/
def step? : Mode → Char → Option (List Item × Mode)
  | .plain, c =>
    if c = '%' then some ([], .percent)
    else if Text.isBlank c then some ([.blanks], .plain)
    else some ([.literal c], .plain)
  | .percent, c =>
    if c = '-' ∨ c = '0' ∨ c = '_' then some ([], .padded)
    else if c = '#' then some ([], .alternate)
    else if c = ':' then some ([], .colons 1)
    else if c = '.' then some ([], .point)
    else
      match fractionWidth? c with
      | some k => some ([], .width false k)
      | none => (Item.ofLetter? c).map fun items => (items, .plain)
  | .padded, c => (Item.ofPadded? c).map fun items => (items, .plain)
  | .alternate, c => if c = 'z' then some ([.offset true], .plain) else none
  | .colons k, c =>
    if c = 'z' then some ([.offset false], .plain)
    else if c = ':' ∧ k < 3 then some ([], .colons (k + 1))
    else none
  | .point, c =>
    if c = 'f' then some ([.fraction], .plain)
    else (fractionWidth? c).map fun k => ([], .width true k)
  | .width pointed k, c =>
    if c = 'f' then some ([if pointed then .pointDigits k else .fractionDigits k], .plain)
    else none

/-- The items of a pattern text from a mode on. -/
def itemsFrom : Mode → List Char → List Item
  | .plain, [] => []
  | _, [] => [.invalid]
  | mode, c :: cs =>
    match step? mode c with
    | some (items, next) => items ++ itemsFrom next cs
    | none => [.invalid]

/-- **The items of a pattern text.** -/
def items (pattern : String) : List Item :=
  itemsFrom .plain pattern.toList

/-- The pattern has no unknown specifier. -/
def isValid (pattern : String) : Bool :=
  !(items pattern).contains .invalid

end Pattern

/-! ### Matching one item -/

namespace Item

/-- What an item leaves: the fields with its own, and the rest of the text. -/
abbrev Progress := Fields × List Char

/-- Up to `width` digits at the start of a text, at least one, and what follows; the number
must fit into 64 bits. -/
def takeDigits? (width : Option Nat) (cs : List Char) : Option (Int × List Char) :=
  let all := cs.takeWhile Char.isDigit
  let digits := match width with
    | some w => all.take w
    | none => all
  let v : Int := valueOf digits
  if digits.isEmpty || int64Range.2 < v then none else some (v, cs.drop digits.length)

/-- A number, after any blanks. -/
def takeNumber? (n : Numeral) (cs : List Char) : Option (Int × List Char) :=
  let cs := Text.trimStart cs
  match n.signed, cs with
  | true, '-' :: rest => (takeDigits? none rest).map fun (v, rest) => (-v, rest)
  | true, '+' :: rest => takeDigits? none rest
  | _, _ => takeDigits? n.width cs

/-- A name at the start of a text, without regard to case. -/
def takeName? (name cs : List Char) : Option (List Char) :=
  if Text.sameLetters name (cs.take name.length) then some (cs.drop name.length) else none

/-- The months: the first three letters of the name and the others. -/
def months : List (String × String) :=
  [("jan", "uary"), ("feb", "ruary"), ("mar", "ch"), ("apr", "il"), ("may", ""), ("jun", "e"),
    ("jul", "y"), ("aug", "ust"), ("sep", "tember"), ("oct", "ober"), ("nov", "ember"),
    ("dec", "ember")]

/-- The weekdays from Monday on: the first three letters of the name and the others. -/
def weekdays : List (String × String) :=
  [("mon", "day"), ("tue", "sday"), ("wed", "nesday"), ("thu", "rsday"), ("fri", "day"),
    ("sat", "urday"), ("sun", "day")]

/-- One of the names of a list: its place in the list and what follows. If `full`, the other
letters of the name are taken too where they follow. -/
def takeOneOf? (full : Bool) (cs : List Char) :
    Nat → List (String × String) → Option (Nat × List Char)
  | _, [] => none
  | i, (short, others) :: names =>
    match takeName? short.toList cs with
    | some rest => some (i, if full then (takeName? others.toList rest).getD rest else rest)
    | none => takeOneOf? full cs (i + 1) names

/-- The nanoseconds of the digits of a fraction. -/
def nanosecondsOf (digits : List Char) : Int :=
  valueOf digits * Nat.pow 10 (9 - digits.length)

/-- Exactly `count` digits of a fraction. -/
def takeFractionDigits? (count : Nat) (cs : List Char) (s : Fields) : Option Progress :=
  let digits := cs.take count
  if digits.length = count ∧ digits.all Char.isDigit then
    (s.put? .nanosecond (nanosecondsOf digits)).map fun s => (s, cs.drop count)
  else none

/-- Two digits: their value and what follows. -/
def takeTwoDigits? : List Char → Option (Nat × List Char)
  | a :: b :: rest => if a.isDigit && b.isDigit then some (valueOf [a, b], rest) else none
  | _ => none

/-- The sign of an offset, which may be a true minus sign: whether it is negative. -/
def takeOffsetSign? : List Char → Option (Bool × List Char)
  | '+' :: cs => some (false, cs)
  | '-' :: cs => some (true, cs)
  | '\u2212' :: cs => some (true, cs)
  | _ => none

/-- An offset in seconds: a sign, two digits of hours, any colons and blanks, and two digits
of minutes. `zulu` allows `Z` for zero, `bare` an offset that ends with its hours. -/
def takeOffset? (zulu bare : Bool) (cs : List Char) : Option (Int × List Char) :=
  match zulu, cs with
  | true, 'Z' :: rest => some (0, rest)
  | true, 'z' :: rest => some (0, rest)
  | _, _ => do
    let (negative, cs) ← takeOffsetSign? cs
    let (hours, cs) ← takeTwoDigits? cs
    let cs := cs.dropWhile fun c => c == ':' || Text.isBlank c
    let (minutes, cs) ← if bare && cs.isEmpty then some (0, []) else takeTwoDigits? cs
    if minutes < 60 then
      let seconds : Int := hours * 3600 + minutes * 60
      some (if negative then -seconds else seconds, cs)
    else none

/-- `UTC` or an offset, after any blanks. -/
def takeZone? (cs : List Char) : Option (Int × List Char) :=
  let cs := Text.trimStart cs
  match takeName? ['u', 't', 'c'] cs with
  | some rest => some (0, rest)
  | none => takeOffset? true false cs

/-- **Matching an item** at the start of a text. -/
def take? (item : Item) (s : Fields) (cs : List Char) : Option Progress :=
  match item with
  | literal c => (Text.dropLead? [c] cs).map fun rest => (s, rest)
  | blanks => some (s, Text.trimStart cs)
  | number n => do
    let (v, rest) ← takeNumber? n cs
    let s ← n.put? v s
    some (s, rest)
  | monthName full => do
    let (i, rest) ← takeOneOf? full cs 0 months
    let s ← s.put? .month (i + 1)
    some (s, rest)
  | weekdayName full => do
    let (i, rest) ← takeOneOf? full cs 0 weekdays
    let s ← s.put? .weekday i
    some (s, rest)
  | halfDay => do
    let (i, rest) ← takeOneOf? false cs 0 [("am", ""), ("pm", "")]
    let s ← s.put? .halfDay i
    some (s, rest)
  | fraction =>
    match cs with
    | '.' :: rest =>
      let digits := rest.takeWhile Char.isDigit
      if digits.isEmpty then none
      else (s.put? .nanosecond (nanosecondsOf (digits.take 9))).map fun s =>
        (s, rest.dropWhile Char.isDigit)
    | _ => some (s, cs)
  | pointDigits count =>
    match cs with
    | '.' :: rest => takeFractionDigits? count rest s
    | _ => some (s, cs)
  | fractionDigits count => takeFractionDigits? count cs s
  | zoneName => some (s, cs.dropWhile fun c => !Text.isBlank c)
  | offset lenient => do
    let (v, rest) ← takeOffset? lenient lenient cs
    let s ← s.put? .offset v
    some (s, rest)
  | dateTimeMark =>
    match cs with
    | c :: rest => if c = 'T' ∨ c = 't' ∨ c = ' ' then some (s, rest) else none
    | [] => none
  | zone => do
    let (v, rest) ← takeZone? cs
    let s ← s.put? .offset v
    some (s, rest)
  | invalid => none

/-- Matching items one after the other. -/
def takeAll? : List Item → Fields → List Char → Option Progress
  | [], s, cs => some (s, cs)
  | item :: items, s, cs => (item.take? s cs).bind fun (s, rest) => takeAll? items s rest

/-- The fields of a text that the items match as a whole. -/
def fields? (items : List Item) (cs : List Char) : Option Fields :=
  match takeAll? items .empty cs with
  | some (s, []) => some s
  | _ => none

end Item

/-- **Matching a pattern** against a whole text. -/
def Pattern.fields? (pattern : String) (cs : List Char) : Option Fields :=
  Item.fields? (Pattern.items pattern) cs

end Colonnade
