import Colonnade.Registry

/-!
# Types for columns of texts

`Registry.tryParse` finds the type of a column of texts: it is the type of the first parser
that accepts every cell. The cells are trimmed for the parsers, and nulls and the texts that
mean null are not shown to them. A column that is given no other type stays as it is, white
space and all.

`Registry.parse` reads the column as a given type instead, and reports the first cell that is
refused. `Registry.convert` does the same for a column of texts and otherwise converts value by
value: numbers to wider numbers, between a date-time and its parts, and anything to a text.

`Registry.parseFrame` finds types for all columns of a frame, at every depth.
-/

namespace Colonnade

/-- A cell as parsers see it. -/
inductive Cell where
  | null
  /-- A text that means null. -/
  | nullString
  /-- A text, and the same without white space around it. -/
  | text (whole trimmed : String)
deriving DecidableEq, Inhabited

namespace Cell

/-- The text of a value in a column of texts. -/
def textOf (v : Value) : String :=
  match v.string? with
  | some s => s
  | none => v.text

/-- **A cell as parsers see it.** -/
def ofValue (nullStrings : List String) : Option Value → Cell
  | none => null
  | some v =>
    let whole := textOf v
    let trimmed := Text.trim whole
    if trimmed ∈ nullStrings then nullString else text whole trimmed

/-- What a parser makes of a cell; none if it refuses the text. -/
def convert? (parser : Parser) (context : Parser.Context) : Cell → Option (Option Value)
  | text _ trimmed => (parser.convert context trimmed).map some
  | _ => some none

/-- The cell is a text for parsers. -/
def isText : Cell → Bool
  | text _ _ => true
  | _ => false

end Cell

namespace Registry

/-- The texts that mean null in a call. -/
def nullStringsFor (r : Registry) (o : Options) : List String :=
  o.nullStrings.getD r.nullStrings

/-- **The types that a call considers**: those of the parsers, but for the ones to skip. Texts
cannot be skipped. -/
def considered (r : Registry) (o : Options) : List ColumnType :=
  (r.parsers.map Parser.type).filter fun type => type == .string || !o.skipTypes.contains type

/-- The parser may be tried: its type is considered, and no type that covers it is. -/
def isEligible (considered : List ColumnType) (parser : Parser) : Bool :=
  considered.contains parser.type && parser.coveredBy.all fun type => !considered.contains type

/-- What a parser makes of all cells; none if it refuses one. -/
def attempt? (context : Parser.Context) (cells : List Cell) (parser : Parser) :
    Option (List (Option Value)) :=
  cells.mapM (Cell.convert? parser context)

/-- **The column of an accepted attempt.** A column of texts without null strings stays as it
is, and one in which no cell is a text for parsers is a column of nulls. -/
def settle (source : Column) (cells : List Cell) (parser : Parser)
    (values : List (Option Value)) : Except FrameError Column :=
  if parser.type = .string ∧ .nullString ∉ cells then .ok source
  else if !cells.any Cell.isText then .ok (.ofValues source.name .string values)
  else Column.ofCells source.name parser.type values

/-- **Finding the type of a column.** Only columns of texts are changed. -/
def tryParse (r : Registry) (o : Options) (column : Column) : Except FrameError Column :=
  match column with
  | .value name .string _ values => do
    let context ← r.context o
    let cells := values.map (Cell.ofValue (r.nullStringsFor o))
    let considered := r.considered o
    let attempts := (r.parsers.filter (isEligible considered)).findSome? fun parser =>
      (attempt? context cells parser).map (parser, ·)
    match attempts with
    | some (parser, values) => settle column cells parser values
    | none => .error (.parserCascadeExhausted name)
  | column => .ok column

/-- The value of a cell for a parser that must not refuse it. -/
def convertCell (parser : Parser) (context : Parser.Context) (type : ColumnType) (cell : Cell) :
    Except FrameError (Option Value) :=
  match cell with
  | .text whole trimmed =>
    match parser.convert context trimmed with
    | some v => .ok (some v)
    | none => .error (.typeConversion whole .string type)
  | _ => .ok none

/-- **Reading a column as a given type.** -/
def parse (r : Registry) (o : Options) (column : Column) (type : ColumnType) :
    Except FrameError Column :=
  match r.parserFor? type with
  | none => .error (.noParserForType type)
  | some parser =>
    if column.type = type then .ok column
    else
      match column with
      | .value name .string _ values => do
        let context ← r.context o
        let cells := values.map (Cell.ofValue (r.nullStringsFor o))
        Column.ofCells name type (← cells.mapM (convertCell parser context type))
      | other => .error (.typeConversion other.name other.type type)

end Registry

/-! ### Conversion of values -/

/-- The scalar as one of another type, where that keeps what it says. -/
def Scalar.convert? : Scalar → ColumnType → Option Scalar
  | s, .string => some (.string s.text)
  | .int n, .long => some (.long n.toInt64)
  | .int n, .double => some (.double (.ofInt n.toInt))
  | .int n, .decimal => (Decimal.ofInt? n.toInt).map .decimal
  | .long n, .double => some (.double (.ofInt n.toInt))
  | .long n, .decimal => (Decimal.ofInt? n.toInt).map .decimal
  | .double x, .decimal => (Decimal.ofDouble? x).map .decimal
  | .dateTime t, .date => some (.date t.date)
  | .dateTime t, .time => some (.time t.time)
  | .instant t, .dateTime => some (.dateTime t.utc)
  | .date d, .dateTime => some (.dateTime ⟨d, .midnight⟩)
  | _, _ => none

/-- The value as one of another type. -/
def Value.convert? (v : Value) (type : ColumnType) : Option Value :=
  if type.accepts v then some v
  else
    match v with
    | .scalar s => (s.convert? type).map .scalar
    | nested => if type = .string then some (.ofText nested.text) else none

/-- The cell as one of another type; null stays null. -/
def Value.convertCell (type : ColumnType) : Option Value → Except FrameError (Option Value)
  | none => .ok none
  | some v =>
    match v.convert? type with
    | some w => .ok (some w)
    | none => .error (.typeConversion v.text v.type type)

namespace Registry

/-- **Converting a column** to a type. -/
def convert (r : Registry) (o : Options) (column : Column) (type : ColumnType) :
    Except FrameError Column :=
  if column.type = type then .ok column
  else if column.type = .string then r.parse o column type
  else do
    let cells ← column.cells.mapM (Value.convertCell type)
    Column.ofCells column.name type cells

/-! ### Whole frames -/

mutual

/-- Finds the types in a column. -/
def parseColumn (r : Registry) (o : Options) : Column → Except FrameError Column
  | .value name type nullable cells => r.tryParse o (.value name type nullable cells)
  | .group name f => (parseFrame r o f).map (.group name)
  | .frames name fs => (parseFrames r o fs).map (.frames name)

/-- **Finding the types of all columns** of a frame, in groups and in frames of cells too. -/
def parseFrame (r : Registry) (o : Options) : Frame → Except FrameError Frame
  | ⟨columns, rowCount⟩ => do
    let columns ← parseColumns r o columns
    Frame.withRowCount columns rowCount

/-- Finds the types in columns. -/
def parseColumns (r : Registry) (o : Options) : List Column → Except FrameError (List Column)
  | [] => .ok []
  | c :: cs => do
    let c ← parseColumn r o c
    let cs ← parseColumns r o cs
    return c :: cs

/-- Finds the types in frames. -/
def parseFrames (r : Registry) (o : Options) : List Frame → Except FrameError (List Frame)
  | [] => .ok []
  | f :: fs => do
    let f ← parseFrame r o f
    let fs ← parseFrames r o fs
    return f :: fs

end

end Registry

end Colonnade
