/-!
# Failures of input and output

The causes of `InputUnavailable` in `SPEC_FULL.md`, Section 7 (Error handling design).

A failure has a kind, which the program distinguishes, and a wording, which it repeats.
-/

namespace SyscallCensus

/-- What sort of failure it is. -/
inductive IoErrorKind where
  /-- There is nothing under that name. -/
  | notFound
  /-- Access is not allowed. -/
  | permissionDenied
  /-- The input ended too early. -/
  | unexpectedEof
  /-- The input is not what it should be. -/
  | invalidData
  /-- It took too long. -/
  | timedOut
  /-- The other side has gone. -/
  | brokenPipe
  /-- The operation was interrupted and can be tried again. -/
  | interrupted
  /-- Anything else. -/
  | other
  deriving DecidableEq, Repr, Inhabited

/-- A failure of an input or output operation. -/
structure IoError where
  /-- What sort of failure it is. -/
  kind : IoErrorKind
  /-- How it is worded. -/
  text : String
  deriving DecidableEq, Repr, Inhabited

namespace IoError

/-- There is no such file. -/
def noSuchFile : IoError := ⟨.notFound, "No such file or directory (os error 2)"⟩

/-- A file that is not a program cannot be run. -/
def accessDenied : IoError := ⟨.permissionDenied, "Permission denied (os error 13)"⟩

/-- A path goes on below something that is not a directory. -/
def notADirectory : IoError := ⟨.other, "Not a directory (os error 20)"⟩

/-- A directory cannot be read like a file. -/
def isADirectory : IoError := ⟨.other, "Is a directory (os error 21)"⟩

/-- A name has more bytes than a directory can hold, or a path has more than the host takes. -/
def nameTooLong : IoError := ⟨.other, "File name too long (os error 36)"⟩

/-- A path holds a zero character, which would end it. -/
def zeroInPath : IoError := ⟨.other, "file name contained an unexpected NUL byte"⟩

/-- The name of a program or one of its arguments holds a zero character, which would end it. -/
def zeroInCommand : IoError := ⟨.other, "nul byte found in provided data"⟩

/-- The host cannot do this at all. -/
def notImplemented : IoError := ⟨.other, "Function not implemented (os error 38)"⟩

end IoError

end SyscallCensus
