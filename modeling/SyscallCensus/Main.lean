import Std.Time.DateTime.Timestamp
import SyscallCensus.CommandLine.Run
import SyscallCensus.Report.Moment

/-!
# The executable

The binary of `SPEC_FULL.md`, Section 10.8 (CLI).

Asks the machine for what the command line needs, runs the program on the answers, and writes what
it leaves behind. Programs cannot be started from here, so executables are refused; listings are
read.
-/

namespace SyscallCensus.CommandLine

/-- The failure of the machine as a failure of the program. A wrong type shows with the path where
the path cannot be opened, and without it where it can be opened but not read. -/
def ioError : IO.Error → IoError
  | .noFileOrDirectory .. | .noSuchThing .. => .noSuchFile
  | .permissionDenied .. => .accessDenied
  | .inappropriateType (some _) _ _ => .notADirectory
  | .inappropriateType none _ _ => .isADirectory
  | .invalidArgument _ 36 _ => .nameTooLong
  | e => ⟨.other, e.toString⟩

/-- What stands at a path of the machine. -/
def lookUp (path : Path) : IO (Except IoError FileNode) := do
  try
    return .ok (.file (.complete (← IO.FS.readBinFile path.text).toList))
  catch e =>
    let failure := ioError e
    return if failure = .isADirectory then .ok .directory else .error failure

/-- The files that a command line needs. -/
def neededPaths (arguments : List String) : List Path :=
  match Invocation.parse arguments with
  | .ok (.extract _ options) => options.path :: options.config.toList
  | _ => []

/-- The answers of the machine to all that a command line needs. -/
def machine (arguments : List String) : IO Host := do
  let files ← (neededPaths arguments).mapM fun path => do return (path, ← lookUp path)
  let values ← ["GO_BIN", "RUST_LOG"].mapM fun name => do return (name, ← IO.getEnv name)
  return {
    lookUp := fun path => (files.lookup path).getD (.error .noSuchFile)
    run := fun _ _ => .error .notImplemented
    environment := fun name => (values.lookup name).join.map Text.Utf8.encode }

end SyscallCensus.CommandLine

open SyscallCensus in
/-- Runs the program. -/
def main (arguments : List String) : IO UInt32 := do
  let now := Moment.mk (← Std.Time.Timestamp.now).toNanosecondsSinceUnixEpoch.val.toNat
  let finished := CommandLine.run (← CommandLine.machine arguments) now.text arguments
  (← IO.getStderr).putStr finished.stderr
  (← IO.getStdout).putStr finished.stdout
  (← IO.getStdout).flush
  return finished.exitCode.toUInt32
