/-!
# Records of delimited text

Delimited text is a sequence of records, and a record is a sequence of fields. It is read byte
by byte.

* Fields are separated by the delimiter, records by a carriage return, a line feed, or both.
* A field that begins with a quotation mark goes on to the next one that is not doubled; in
  it delimiters and line ends are bytes like any others. What follows the closing mark up to
  the next delimiter or line end belongs to the field too.
* A quotation mark anywhere else is a byte like any other.
* Lines without a byte are no records.
* A byte order mark at the very start is dropped.

A record knows where it begins: `Origin` counts the bytes and lines before it, blank lines
in front of it not included.
-/

namespace Colonnade.Csv

/-- The bytes of a field. -/
abbrev Field := List UInt8

/-- Where a record begins: the number of bytes before it, and the line, counted from 1. -/
structure Origin where
  byte : Nat
  line : Nat
deriving DecidableEq, Inhabited

/-- **A record.** -/
structure Record where
  origin : Origin
  fields : List Field
deriving DecidableEq, Inhabited

/-- Where in a record the reader is. -/
inductive Position where
  /-- Before the first byte of a record. -/
  | betweenRecords
  /-- After a carriage return, with which a line feed belongs. -/
  | afterReturn
  /-- Before the first byte of a field. -/
  | beforeField
  | inField
  | inQuotes
  /-- After a quotation mark inside quotation marks. -/
  | afterQuote
deriving DecidableEq, Inhabited

/-- **What the reader has read**: finished records and fields, the last one first, and the bytes
of the field at hand, the last one first. -/
structure Reader where
  position : Position := .betweenRecords
  /-- The bytes and lines so far. -/
  here : Origin := ⟨0, 1⟩
  /-- Where the record at hand begins. -/
  origin : Origin := ⟨0, 1⟩
  records : List Record := []
  fields : List Field := []
  field : List UInt8 := []

namespace Reader

/-- The byte that opens and closes quotations. -/
def quote : UInt8 := 0x22
def carriageReturn : UInt8 := 0x0D
def lineFeed : UInt8 := 0x0A

/-- Adds a byte to the field. -/
def add (r : Reader) (b : UInt8) (position : Position) : Reader :=
  { r with field := b :: r.field, position }

/-- Ends the field. -/
def endField (r : Reader) : Reader :=
  { r with fields := r.field.reverse :: r.fields, field := [], position := .beforeField }

/-- Ends the record; the next one begins `here`. -/
def endRecord (r : Reader) (position : Position) : Reader :=
  let r := r.endField
  { r with
    records := ⟨r.origin, r.fields.reverse⟩ :: r.records
    fields := []
    origin := r.here
    position }

/-- A byte that is not in a quotation and does not begin one. -/
def plain (r : Reader) (delimiter b : UInt8) : Reader :=
  if b = delimiter then r.endField
  else if b = carriageReturn then r.endRecord .afterReturn
  else if b = lineFeed then r.endRecord .betweenRecords
  else r.add b .inField

/-- A byte at the start of a field. -/
def first (r : Reader) (delimiter b : UInt8) : Reader :=
  if b = quote then { r with position := .inQuotes } else r.plain delimiter b

/-- A byte at the start of a record. -/
def start (r : Reader) (delimiter b : UInt8) : Reader :=
  if b = carriageReturn ∨ b = lineFeed then { r with position := .betweenRecords }
  else r.first delimiter b

/-- **Reading a byte.** -/
def step (delimiter : UInt8) (r : Reader) (b : UInt8) : Reader :=
  let r := { r with here := ⟨r.here.byte + 1, if b = lineFeed then r.here.line + 1
    else r.here.line⟩ }
  match r.position with
  | .betweenRecords => r.start delimiter b
  | .afterReturn =>
    if b = lineFeed then { r with position := .betweenRecords } else r.start delimiter b
  | .beforeField => r.first delimiter b
  | .inField => r.plain delimiter b
  | .inQuotes =>
    if b = quote then { r with position := .afterQuote } else r.add b .inQuotes
  | .afterQuote => if b = quote then r.add b .inQuotes else r.plain delimiter b

/-- The records, when there are no more bytes. -/
def finish (r : Reader) : List Record :=
  match r.position with
  | .betweenRecords => r.records.reverse
  | .afterReturn => r.records.reverse
  | _ => (r.endRecord .betweenRecords).records.reverse

end Reader

/-- The bytes after a byte order mark, and how many it has. -/
def dropMark : List UInt8 → Nat × List UInt8
  | 0xEF :: 0xBB :: 0xBF :: bytes => (3, bytes)
  | bytes => (0, bytes)

/-- **The records of delimited text.** -/
def records (delimiter : UInt8) (bytes : List UInt8) : List Record :=
  let (dropped, bytes) := dropMark bytes
  (bytes.foldl (Reader.step delimiter) { here := ⟨dropped, 1⟩ }).finish

end Colonnade.Csv
