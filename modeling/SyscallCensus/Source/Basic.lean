import SyscallCensus.Elf.Dynamic
import SyscallCensus.Host.Basic
import SyscallCensus.Log.Event
import SyscallCensus.Source.Error
import SyscallCensus.Text.Blank

/-!
# Sources

This module formalizes the text source of `SPEC_FULL.md`, Section 6 (External interfaces): "one
reads a previously produced dump file verbatim, the other first invokes an external disassembler".

A source gives a listing: it is opened, which may fail, and then read, which may fail later, after
some bytes. A dump file is read as it is. An executable is handed to the disassembler of the Go
toolchain, unless it is linked dynamically, and the listing is what the disassembler writes.
-/

namespace SyscallCensus

open Log (Event)

/-- A source of a listing. -/
structure Source where
  /-- The input that the listing comes from. -/
  path : Path
  /-- How the listing comes from it. -/
  kind : SourceKind
  /-- What opening the source gives. -/
  opened : Except SourceError Stream
  /-- What opening the source is worth in the log. -/
  log : List Event

namespace Source

/-- A file that holds a listing. A directory can be opened, and fails to be read. -/
def dump (host : Host) (path : Path) : Source where
  path
  kind := .dump
  opened :=
    match host.lookUp path with
    | .ok node => .ok node.stream
    | .error e => .error (.ofIo path e)
  log := []

/-- The reason that is given when the disassembler cannot be started. -/
def notStarted (go : Path) (error : IoError) : String :=
  "failed to spawn " ++ go.text ++ ": " ++ error.text

/-- The reason that is given when the disassembler fails: how it ended, and the first line of its
complaint. -/
def notDisassembled (completed : Completed) : String :=
  let complaint := Text.trim ((Text.Utf8.decode completed.stderr).takeWhile (· ≠ '\n'))
  "go tool objdump exited with " ++ completed.status.text ++ ": " ++ String.ofList complaint

/-- The arguments that the disassembler is run with. -/
def disassemblerArguments (path : Path) : List (List UInt8) :=
  [Text.Utf8.encode "tool", Text.Utf8.encode "objdump", path.bytes]

/-- The listing that the disassembler writes for an executable. -/
def disassemble (host : Host) (path go : Path) : Except SourceError (List UInt8) :=
  match host.run go (disassemblerArguments path) with
  | .error e => .error (.disassembler (notStarted go e))
  | .ok completed =>
    if completed.status.isSuccess then .ok completed.stdout
    else .error (.disassembler (notDisassembled completed))

/-- The listing of an executable. Anything else than a file counts as missing. What tells that a
file is linked dynamically is `isDynamic`. -/
def openExecutableBy (isDynamic : List UInt8 → Bool) (host : Host) (path go : Path) :
    Except SourceError (List UInt8) :=
  match host.lookUp path with
  | .error e => .error (.ofIo path e)
  | .ok .directory => .error (.notFound path)
  | .ok (.file (.broken _ e)) => .error (.ofIo path e)
  | .ok (.file (.complete content)) =>
    if isDynamic content then .error (.dynamicallyLinked path) else disassemble host path go

/-- An executable that is disassembled by the Go toolchain, where `isDynamic` tells that a file is
linked dynamically. -/
def executableBy (isDynamic : List UInt8 → Bool) (host : Host) (path go : Path) : Source :=
  match openExecutableBy isDynamic host path go with
  | .ok listing =>
    ⟨path, .executable, .ok (.complete listing), [.disassembled listing.length path]⟩
  | .error e => ⟨path, .executable, .error e, []⟩

/-- An executable that is disassembled by the Go toolchain. -/
def executable (host : Host) (path go : Path) : Source :=
  executableBy Elf.isDynamicallyLinked host path go

/-- All bytes of a source. -/
def readAll (source : Source) : Except SourceError (List UInt8) := do
  match (← source.opened).toExcept with
  | .ok bytes => .ok bytes
  | .error e => .error (.ofIo source.path e)

end Source

end SyscallCensus
