import Colonnade.Csv.Delimiter
import Colonnade.Failure
import Colonnade.Options

/-!
# The command line

The program has one command, `probe`, whose options all have a value. `CommandLine.read` makes
`Arguments` of the words on the command line, or tells what is wrong with them.

* An option is `--name value` or `--name=value`; one with a letter may also be `-l value`,
  `-lvalue` or `-l=value`.
* A word that begins with a dash and has more to it is an option, never the value of one.
* A value is looked at when the next known option begins or when the words end. So an unknown
  word is reported before a bad value right in front of it.
* An option may be given once, unless it is `Flag.isRepeatable`.

`Arguments.overrides` are the parser options that the arguments ask for.
-/

namespace Colonnade

namespace CommandLine

/-! ### Options -/

/-- **The options** of the command. -/
inductive Flag where
  | input
  | output
  | preview
  | options
  | nullString
  | locale
  | pattern
  | skipType
  | separator
  | delimiter
  | encoding
deriving DecidableEq, Inhabited

namespace Flag

/-- All options, in the order in which the help shows them. -/
def all : List Flag :=
  [input, output, preview, options, nullString, locale, pattern, skipType, separator, delimiter,
    encoding]

/-- The name of an option. -/
def name : Flag → String
  | input => "input"
  | output => "output"
  | preview => "preview"
  | options => "options"
  | nullString => "null-string"
  | locale => "locale"
  | pattern => "date-time-pattern"
  | skipType => "skip-type"
  | separator => "nest-separator"
  | delimiter => "delimiter"
  | encoding => "input-encoding"

/-- The letter of an option. -/
def letter? : Flag → Option Char
  | input => some 'i'
  | output => some 'o'
  | _ => none

/-- What messages call the value. -/
def valueName : Flag → String
  | input => "INPUT"
  | output => "OUTPUT"
  | preview => "PREVIEW"
  | options => "OPTIONS"
  | nullString => "NULL_STRINGS"
  | locale => "LOCALE"
  | pattern => "DATE_TIME_PATTERN"
  | skipType => "SKIP_TYPES"
  | separator => "NEST_SEPARATOR"
  | delimiter => "DELIMITER"
  | encoding => "INPUT_ENCODING"

/-- What the help says of an option. -/
def about : Flag → String
  | input => "Input CSV file to inspect (\x60-\x60 reads stdin)"
  | output => "Write the inferred schema as YAML instead of printing a table"
  | preview => "Render the first N parsed rows after the schema"
  | options => "YAML file with parser options; flags below override it"
  | nullString => "Cell value treated as null (repeatable, replaces the defaults)"
  | locale => "Locale tag for number parsing, e.g. \x60de-DE\x60"
  | pattern => "chrono pattern used for date-time, date and time values"
  | skipType => "Type the inference must not produce (repeatable)"
  | separator => "Split headers on this character into nested column paths"
  | delimiter => "CSV delimiter character (supports ',', 'tab', ';', '|')"
  | encoding => "Character encoding of the input file (defaults to utf-8)"

/-- The option may be given more than once. -/
def isRepeatable (f : Flag) : Bool :=
  f == nullString || f == skipType

/-- The option with this name. -/
def ofName? (name : String) : Option Flag :=
  all.find? fun f => f.name == name

/-- The option with this letter. -/
def ofLetter? (c : Char) : Option Flag :=
  all.find? fun f => f.letter? == some c

/-- An option as messages show it. -/
def shown (f : Flag) : String :=
  "--" ++ f.name ++ " <" ++ f.valueName ++ ">"

end Flag

/-! ### What may be wrong -/

/-- The texts that explain the program and the command. -/
inductive HelpTopic where
  | program
  | probe
  | help
deriving DecidableEq, Inhabited

/-- **Why words are no arguments**; asking for help is one reason. -/
inductive Refusal where
  | missingInput
  | unknownWord (word : String)
  | unknownCommand (name : String)
  | missingValue (flag : Flag)
  | badValue (flag : Flag) (value reason : String)
  | repeated (flag : Flag)
  /-- A value for an option that has none. -/
  | needlessValue (name value : String)
  | help (topic : HelpTopic)
  /-- The words are not enough to know what to do. -/
  | nothingToDo
  | version
deriving DecidableEq, Inhabited

/-- The message of a refusal. -/
def Refusal.message : Refusal → String
  | missingInput => "the following required arguments were not provided:"
  | unknownWord word => "unexpected argument '" ++ word ++ "' found"
  | unknownCommand name => "unrecognized subcommand '" ++ name ++ "'"
  | missingValue flag => "a value is required for '" ++ flag.shown ++ "' but none was supplied"
  | badValue flag value reason =>
    "invalid value '" ++ value ++ "' for '" ++ flag.shown ++ "': " ++ reason
  | repeated flag => "the argument '" ++ flag.shown ++ "' cannot be used multiple times"
  | needlessValue name value =>
    "unexpected value '" ++ value ++ "' for '--" ++ name ++ "' found; no more were expected"
  | help _ => ""
  | nothingToDo => ""
  | version => ""

/-! ### Arguments -/

/-- **The arguments of the command.** -/
structure Arguments where
  input : String
  output : Option String := none
  preview : Option Nat := none
  optionsFile : Option String := none
  nullStrings : List String := []
  locale : Option String := none
  pattern : Option String := none
  skipTypes : List ColumnType := []
  separator : Option Char := none
  delimiter : Option UInt8 := none
  encoding : Option String := none
deriving DecidableEq, Inhabited

/-- The first number that is too large. -/
def sizeLimit : Nat := Nat.pow 2 64

/-- Reads digits after the value of those before. -/
def readDigits (value : Nat) : List Char → Except String Nat
  | [] => .ok value
  | c :: cs =>
    if !c.isDigit then .error "invalid digit found in string"
    else
      let value := 10 * value + (c.toNat - '0'.toNat)
      if sizeLimit ≤ value then .error "number too large to fit in target type"
      else readDigits value cs

/-- A number of rows. -/
def readSize (s : String) : Except String Nat :=
  match s.toList with
  | [] => .error "cannot parse integer from empty string"
  | '+' :: c :: cs => readDigits 0 (c :: cs)
  | cs => readDigits 0 cs

/-- A single character. -/
def readChar (s : String) : Except String Char :=
  match s.toList with
  | [] => .error "cannot parse char from empty string"
  | [c] => .ok c
  | _ => .error "too many characters in string"

/-- What the words so far say; the input may come later. -/
structure Given where
  arguments : Arguments := { input := "" }
  flags : List Flag := []

/-- A value for an option, after those before. -/
def Arguments.set (a : Arguments) (flag : Flag) (value : String) : Except Refusal Arguments :=
  let refuse (reason : String) : Refusal := .badValue flag value reason
  match flag with
  | .input => if value = "" then .error (.missingValue flag) else .ok { a with input := value }
  | .output =>
    if value = "" then .error (.missingValue flag) else .ok { a with output := some value }
  | .preview => do
    let n ← (readSize value).mapError refuse
    return { a with preview := some n }
  | .options =>
    if value = "" then .error (.missingValue flag) else .ok { a with optionsFile := some value }
  | .nullString => .ok { a with nullStrings := a.nullStrings ++ [value] }
  | .locale => .ok { a with locale := some value }
  | .pattern => .ok { a with pattern := some value }
  | .skipType => do
    let type ← (ColumnType.ofText? value).mapError fun e => refuse e.message
    return { a with skipTypes := a.skipTypes ++ [type] }
  | .separator => do
    let c ← (readChar value).mapError refuse
    return { a with separator := some c }
  | .delimiter => do
    let b ← (Csv.Delimiter.ofText? value).mapError fun e => refuse e.message
    return { a with delimiter := some b }
  | .encoding => .ok { a with encoding := some value }

namespace Given

/-- **Takes a value for an option.** -/
def accept (g : Given) (flag : Flag) (value : String) : Except Refusal Given :=
  if flag ∈ g.flags ∧ !flag.isRepeatable then .error (.repeated flag)
  else do
    let arguments ← g.arguments.set flag value
    return ⟨arguments, flag :: g.flags⟩

/-- The arguments, if the input is among them. -/
def finish (g : Given) : Except Refusal Arguments :=
  if .input ∈ g.flags then .ok g.arguments else .error .missingInput

end Given

/-! ### Words -/

/-- What a word is. -/
inductive Word where
  /-- Two dashes: no options follow. -/
  | dashes
  /-- A name after two dashes, and what follows an equals sign. -/
  | long (name : String) (value : Option String)
  /-- A letter after a dash, and what follows it. -/
  | short (letter : Char) (rest : List Char)
  | plain (text : String)
deriving DecidableEq, Inhabited

/-- **What a word is.** -/
def Word.ofText (s : String) : Word :=
  match s.toList with
  | ['-', '-'] => dashes
  | '-' :: '-' :: cs =>
    let name := cs.takeWhile (· ≠ '=')
    let rest := cs.drop (name.length + 1)
    long (String.ofList name) (if name.length = cs.length then none else some (String.ofList rest))
  | '-' :: c :: cs => short c cs
  | _ => plain s

/-- What follows a letter, as the value of its option. -/
def attached? : List Char → Option String
  | [] => none
  | '=' :: cs => some (String.ofList cs)
  | cs => some (String.ofList cs)

/-- An option whose value is not looked at yet, or has not come yet. -/
structure Pending where
  flag : Flag
  value : Option String := none

/-- What the words so far say, and the last option. -/
structure Progress where
  given : Given := {}
  pending : Option Pending := none

namespace Progress

/-- Looks at the value of the last option. -/
def settle (p : Progress) : Except Refusal Given :=
  match p.pending with
  | none => .ok p.given
  | some ⟨flag, none⟩ => .error (.missingValue flag)
  | some ⟨flag, some value⟩ => p.given.accept flag value

/-- Begins an option, perhaps with its value. -/
def beginFlag (p : Progress) (flag : Flag) (value : Option String) : Except Refusal Progress := do
  let given ← p.settle
  match value with
  | some value => return { given := ← given.accept flag value }
  | none => return { given, pending := some { flag } }

/-- Asks for help. -/
def askHelp (p : Progress) : Except Refusal Progress :=
  match p.settle with
  | .ok _ => .error (.help .probe)
  | .error e => .error e

/-- **Takes a word.** -/
def step (p : Progress) : Word → Except Refusal Progress
  | .dashes => .ok p
  | .long name value =>
    match Flag.ofName? name with
    | some flag => p.beginFlag flag value
    | none =>
      if name = "help" then
        match value with
        | some value => .error (.needlessValue name value)
        | none => p.askHelp
      else .error (.unknownWord ("--" ++ name))
  | .short c rest =>
    match Flag.ofLetter? c with
    | some flag => p.beginFlag flag (attached? rest)
    | none => if c = 'h' then p.askHelp else .error (.unknownWord (String.ofList ['-', c]))
  | .plain text =>
    match p.pending with
    | some ⟨flag, none⟩ => .ok { p with pending := some ⟨flag, some text⟩ }
    | _ => .error (.unknownWord text)

/-- **Takes all words**; after two dashes there may be no more. -/
def run (p : Progress) : List String → Except Refusal Arguments
  | [] => do (← p.settle).finish
  | s :: ss =>
    match Word.ofText s, ss with
    | .dashes, next :: _ => .error (.unknownWord next)
    | word, _ =>
      match p.step word with
      | .ok p => run p ss
      | .error e => .error e

end Progress

/-! ### Commands -/

/-- The commands. -/
def commands : List String := ["probe", "help"]

/-- What the words after `help` ask for. -/
def readHelp : List String → Refusal
  | [] => .help .program
  | ["probe"] => .help .probe
  | ["help"] => .help .help
  | "probe" :: name :: _ => .unknownCommand name
  | "help" :: name :: _ => .unknownCommand name
  | name :: _ => .unknownCommand name

/-- What the words after two dashes in place of a command ask for. -/
def readAfterDashes : List String → Refusal
  | [] => .nothingToDo
  | word :: _ => if commands.contains word then .unknownWord word else .unknownCommand word

/-- An option in place of a command. -/
def readFlagOnly : Word → Refusal
  | .long name value =>
    if name = "help" ∨ name = "version" then
      match value with
      | some value => .needlessValue name value
      | none => if name = "help" then .help .program else .version
    else .unknownWord ("--" ++ name)
  | .short c _ =>
    if c = 'h' then .help .program
    else if c = 'V' then .version
    else .unknownWord (String.ofList ['-', c])
  | .plain text => .unknownCommand text
  | .dashes => .nothingToDo

/-- **Reading the words on the command line.** -/
def read : List String → Except Refusal Arguments
  | [] => .error .nothingToDo
  | "probe" :: words => Progress.run {} words
  | "help" :: words => .error (readHelp words)
  | "--" :: words => .error (readAfterDashes words)
  | word :: _ => .error (readFlagOnly (Word.ofText word))

/-! ### Help -/

/-- The name of the program. -/
def programName : String := "nested-frame"

/-- The version of the program. -/
def versionText : String := programName ++ " 0.1.0\n"

/-- Lines with a term and what it means, aligned. -/
def glossary (entries : List (String × String)) : String :=
  let width := (entries.map fun (term, _) => term.length).foldl max 0
  String.join (entries.map fun (term, meaning) =>
    "  " ++ term ++ String.ofList (List.replicate (width + 2 - term.length) ' ') ++ meaning ++ "\n")

/-- An option as the help shows it. -/
def Flag.helpTerm (f : Flag) : String :=
  match f.letter? with
  | some c => String.ofList ['-', c, ',', ' '] ++ f.shown
  | none => "    " ++ f.shown

/-- **What the help says.** -/
def helpText : HelpTopic → String
  | .program =>
    "Infer column types of nested tabular data\n\nUsage: " ++ programName ++
      " <COMMAND>\n\nCommands:\n" ++
      glossary [("probe", "Parse every column of a CSV file and report the inferred types"),
        ("help", "Print this message or the help of the given subcommand(s)")] ++
      "\nOptions:\n" ++ glossary [("-h, --help", "Print help"), ("-V, --version", "Print version")]
  | .probe =>
    "Parse every column of a CSV file and report the inferred types\n\nUsage: " ++ programName ++
      " probe [OPTIONS] --input <INPUT>\n\nOptions:\n" ++
      glossary ((Flag.all.map fun f => (f.helpTerm, f.about)) ++ [("-h, --help", "Print help")])
  | .help =>
    "Print this message or the help of the given subcommand(s)\n\nUsage: " ++ programName ++
      " help [COMMAND]...\n\nArguments:\n" ++
      glossary [("[COMMAND]...", "Print help for the subcommand(s)")]

/-- **What a refusal prints**: the exit code, and the texts of the two outputs. -/
def Refusal.report : Refusal → Nat × String × String
  | help topic => (0, helpText topic, "")
  | version => (0, versionText, "")
  | nothingToDo => (2, "", helpText .program)
  | refusal =>
    (2, "", "error: " ++ refusal.message ++ "\n\nFor more information, try '--help'.\n")

/-! ### Options for parsers -/

/-- **What the arguments ask of parsers.** -/
def Arguments.overrides (a : Arguments) : Except Failure Options := do
  let locale ← a.locale.mapM fun tag =>
    match Locale.ofTag? tag with
    | some locale => .ok locale
    | none => .error (.ofMessage (Locale.unsupportedMessage tag))
  return {
    locale
    pattern := a.pattern
    nullStrings := if a.nullStrings.isEmpty then none else some (inOrder a.nullStrings)
    skipTypes := inOrder a.skipTypes }

end CommandLine

end Colonnade
