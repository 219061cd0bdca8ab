import Colonnade.CommandLine
import Colonnade.Csv.Sheet
import Colonnade.Inference
import Colonnade.Options.Document
import Colonnade.Schema

/-!
# Probing a file

The program reads a delimited file, finds the types of its columns, and shows the schema as a
table or writes it to a file. On request it shows the first rows too.

What the program needs of the system is `Files`: reading a file, reading the standard input,
and writing a file. It is the same for any monad with these, so that it can be run on files
in memory.

* `Probe.resolveOptions` – the options of a file with those of the arguments on top;
* `Probe.run` – the whole program: an `Outcome` has the messages on the way, and the text to
  print or the failure.
-/

namespace Colonnade

open CommandLine (Arguments)

namespace Probe

/-- Why a file gives no bytes; the system says the rest. -/
inductive ReadFault where
  | opening (reason : String)
  | reading (reason : String)
deriving DecidableEq, Inhabited

/-- **What the program needs of the system.** -/
structure Files (m : Type → Type) where
  /-- The bytes of a file. -/
  read : String → m (Except ReadFault (List UInt8))
  /-- The bytes of the standard input. -/
  readInput : m (Except ReadFault (List UInt8))
  /-- Writes a text to a new file at a path. -/
  write : (path text : String) → m (Except String Unit)

/-- **The outcome of a run.** -/
structure Outcome where
  log : List String
  result : Except Failure String

variable {m : Type → Type} [Monad m]

/-- A step of a run, which may fail; messages stay. -/
abbrev RunM (m : Type → Type) := ExceptT Failure (StateT (List String) m)

/-- A message on the way. -/
def log (message : String) : RunM m Unit :=
  modify fun messages => messages ++ [message]

/-- What need not be a step. -/
def lift {α : Type} (r : Except Failure α) : RunM m α :=
  ExceptT.mk (pure r)

/-- A step of the system. -/
def ask {α : Type} (action : m α) : RunM m α :=
  ExceptT.lift (StateT.lift action)

/-! ### Reading -/

/-- The options of a file. -/
def loadOptions (files : Files m) (path : String) : RunM m Options := do
  match ← ask (files.read path) with
  | .ok bytes => lift (Options.ofBytes bytes)
  | .error (.opening reason) =>
    lift (.error ⟨["Opening parser options " ++ Text.quoted path], .file reason⟩)
  | .error (.reading reason) =>
    lift (.error ⟨["Parsing parser options YAML"], .document reason⟩)

/-- **The options of a run**: those of a file, with those of the arguments on top. -/
def resolveOptions (files : Files m) (a : Arguments) : RunM m Options := do
  let base ←
    match a.optionsFile with
    | some path => loadOptions files path
    | none => pure {}
  return base.overriddenBy (← lift a.overrides)

/-- The bytes of the input. -/
def readBytes (files : Files m) (path : String) : RunM m (List UInt8) := do
  match ← ask (if Csv.Delimiter.isDash path then files.readInput else files.read path) with
  | .ok bytes => return bytes
  | .error (.opening reason) =>
    lift (.error ⟨["Opening input file " ++ Text.quoted path], .file reason⟩)
  | .error (.reading reason) =>
    lift (.error ⟨["Reading CSV from " ++ Text.quoted path], .file reason⟩)

/-- The columns of a frame that are not columns of values. -/
def nestedCount (f : Frame) : Nat :=
  f.columns.countP fun
    | .value _ _ _ _ => false
    | _ => true

/-- The frame of the input with its types. -/
def readFrame (files : Files m) (a : Arguments) : RunM m Frame := do
  let delimiter := Csv.Delimiter.forFile a.input a.delimiter
  log ("Probing '" ++ a.input ++ "' with delimiter '" ++ Csv.Delimiter.shown delimiter ++ "'")
  let encoding ← lift (Encoding.resolve a.encoding)
  let options ← resolveOptions files a
  let bytes ← readBytes files a.input
  let frame ← lift (Frame.ofCsvFile a.input encoding delimiter a.separator bytes)
  lift ((Registry.default.parseFrame options frame).mapError fun e =>
    (Failure.ofFrameError e).within ("Parsing columns of " ++ Text.quoted a.input))

/-! ### Showing -/

/-- Writes a schema to a file. -/
def writeSchema (files : Files m) (path : String) (schema : Schema) : RunM m Unit := do
  match ← ask (files.write path schema.yaml) with
  | .ok () => log ("Schema written to " ++ Text.quoted path)
  | .error reason =>
    lift (.error ⟨["Writing schema to " ++ Text.quoted path,
      "Creating schema file " ++ Text.quoted path], .file reason⟩)

/-- The message of a schema. -/
def summary (f : Frame) (schema : Schema) : String :=
  "Inferred " ++ FrameError.count schema.leaves.length ++ " leaf column(s), " ++
    FrameError.count (nestedCount f) ++ " nested, over " ++ FrameError.count schema.rowCount ++
    " row(s)"

/-- What the program does; gives the text to print. -/
def steps (files : Files m) (a : Arguments) : RunM m String := do
  let frame ← readFrame files a
  let schema := frame.schema
  log (summary frame schema)
  let shown ←
    match a.output with
    | some path => do
      writeSchema files path schema
      pure ""
    | none => pure (Table.render Schema.headers schema.tableRows)
  let preview := (a.preview.map fun limit => "\n" ++ frame.render limit).getD ""
  return shown ++ preview

/-- **Running the program.** -/
def run (files : Files m) (a : Arguments) : m Outcome := do
  let (result, log) ← (steps files a).run.run []
  return { log, result }

end Probe

end Colonnade
