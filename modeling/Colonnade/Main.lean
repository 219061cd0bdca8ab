import Colonnade.Probe

/-!
# The program

Reads the words on the command line, runs the command on the files of the system, and prints
what it says: messages and failures to the error output, everything else to the standard
output. The exit code is 0 if all went well, 1 for a failure, and 2 for words that make no
sense.
-/

namespace Colonnade.Program

open Probe (Files ReadFault)

/-- What the system says went wrong. -/
def reason : IO.Error → String
  | .noFileOrDirectory _ code _ => s!"No such file or directory (os error {code})"
  | .permissionDenied _ code _ => s!"Permission denied (os error {code})"
  | .inappropriateType _ code _ => s!"Is a directory (os error {code})"
  | e => toString e

/-- Reads bytes to the end. -/
partial def readAll (read : USize → IO ByteArray) (bytes : ByteArray) : IO ByteArray := do
  let chunk ← read 65536
  if chunk.isEmpty then return bytes else readAll read (bytes ++ chunk)

/-- The result of reading to the end. -/
def readBytes (read : USize → IO ByteArray) : IO (Except ReadFault (List UInt8)) := do
  try
    return .ok (← readAll read .empty).toList
  catch e => return .error (.reading (reason e))

/-- The bytes of a file. -/
def readFile (path : String) : IO (Except ReadFault (List UInt8)) := do
  match ← (IO.FS.Handle.mk path .read).toBaseIO with
  | .ok handle => readBytes handle.read
  | .error e => return .error (.opening (reason e))

/-- Writes a text to a new file. -/
def writeFile (path text : String) : IO (Except String Unit) := do
  try
    IO.FS.writeFile path text
    return .ok ()
  catch e => return .error (reason e)

/-- The files of the system. -/
def files : Files IO where
  read := readFile
  readInput := do
    let input ← IO.getStdin
    readBytes input.read
  write := writeFile

/-- Runs the program on the words of the command line; gives the exit code. -/
def run (words : List String) : IO UInt32 := do
  match CommandLine.read words with
  | .error refusal =>
    let (code, output, errors) := refusal.report
    IO.print output
    IO.eprint errors
    return UInt32.ofNat code
  | .ok arguments =>
    let outcome ← Probe.run files arguments
    for message in outcome.log do IO.eprintln message
    match outcome.result with
    | .ok text =>
      IO.print text
      return 0
    | .error failure =>
      IO.eprintln ("error: " ++ failure.message)
      return 1

end Colonnade.Program

/-- The program. -/
def main (words : List String) : IO UInt32 :=
  Colonnade.Program.run words
