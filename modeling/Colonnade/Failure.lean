import Colonnade.Error

/-!
# Failures with a context

Reading a file may fail deep inside, and then the message tells from the outside in what was
being done: each step that passes a failure on adds a line of context in front of it.

A `Failure` keeps the lines, the outermost first, apart from the cause, so that the cause can
still be told.
-/

namespace Colonnade

/-- **What went wrong** in the end. -/
inductive Cause where
  /-- A failure that its message says all about. -/
  | other (message : String)
  /-- The columns do not make a frame. -/
  | frame (error : FrameError)
  /-- A record has not as many fields as the one before: the number of the record, counted from
  the header, where it begins, and the numbers of fields. -/
  | unequal (record line byte expected actual : Nat)
  /-- A file cannot be opened; the system says why. -/
  | file (reason : String)
  /-- A text is not a document of options. -/
  | document (reason : String)
deriving DecidableEq, Inhabited

open FrameError in
/-- The message of a cause. -/
def Cause.message : Cause → String
  | other message => message
  | frame error => error.message
  | unequal record line byte expected actual =>
    "CSV error: record " ++ count record ++ " (line: " ++ count line ++ ", byte: " ++
      count byte ++ "): found record with " ++ count actual ++
      " fields, but the previous record has " ++ count expected ++ " fields"
  | file reason => reason
  | document reason => reason

/-- **A failure**: its cause, and what was being done, the outermost first. -/
structure Failure where
  context : List String := []
  cause : Cause
deriving DecidableEq, Inhabited

namespace Failure

/-- A failure with nothing but a message. -/
def ofMessage (message : String) : Failure :=
  { cause := .other message }

/-- A failure of frames. -/
def ofFrameError (error : FrameError) : Failure :=
  { cause := .frame error }

/-- The failure of a step inside another one. -/
def within (context : String) (f : Failure) : Failure :=
  { f with context := context :: f.context }

/-- **The message of a failure**, from the outside in. -/
def message (f : Failure) : String :=
  ": ".intercalate (f.context ++ [f.cause.message])

end Failure

end Colonnade
