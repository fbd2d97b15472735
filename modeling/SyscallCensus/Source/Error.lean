import SyscallCensus.Host.IoError
import SyscallCensus.Host.Path

/-!
# Why a listing cannot be had

This module formalizes why a source cannot be opened, from `SPEC_FULL.md`, Section 10.5 (Error
handling).
-/

namespace SyscallCensus

/-- Why a source gives no listing. -/
inductive SourceError where
  /-- There is no such input. -/
  | notFound (path : Path)
  /-- The input must not be read. -/
  | permissionDenied (path : Path)
  /-- Reading the input failed. -/
  | io (path : Path) (error : IoError)
  /-- The disassembler did not do its work, for the reason given. -/
  | disassembler (reason : String)
  /-- The executable is linked dynamically, so its listing would not be the whole program. -/
  | dynamicallyLinked (path : Path)
  deriving DecidableEq, Repr

namespace SourceError

/-- The failure to read an input. -/
def ofIo (path : Path) (error : IoError) : SourceError :=
  match error.kind with
  | .notFound => .notFound path
  | .permissionDenied => .permissionDenied path
  | _ => .io path error

/-- The wording of a failure. -/
def message : SourceError → String
  | .notFound path => "Input not found at " ++ path.text
  | .permissionDenied path => "Permission denied reading " ++ path.text
  | .io path error => "Failed to read " ++ path.text ++ ": " ++ error.text
  | .disassembler reason => "Disassembler error: " ++ reason
  | .dynamicallyLinked path => path.text ++ " is dynamically linked"

/-- What a failure says and, behind it, what caused it. -/
def chain : SourceError → List String
  | .io path error => [message (.io path error), error.text]
  | e => [e.message]

end SourceError

end SyscallCensus
