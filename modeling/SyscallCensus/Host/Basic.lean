import SyscallCensus.Host.IoError
import SyscallCensus.Host.Path

/-!
# The host

What `SPEC_FULL.md`, Section 6 (External interfaces), keeps outside of the engine is asked of a
host.

What the program asks of the machine that it runs on: what stands at a path, what a program answers
when it is run, and the environment variables. A `Host` is the record of the answers, so everything
that is computed from a host is a function.
-/

namespace SyscallCensus

/-- What reading gives: bytes up to the end, or bytes up to a failure. -/
inductive Stream where
  /-- The input was read to its end. -/
  | complete (bytes : List UInt8)
  /-- After these bytes reading failed. -/
  | broken (bytes : List UInt8) (error : IoError)
  deriving DecidableEq, Repr

namespace Stream

/-- Reading of bytes that fails once, after `after` bytes. An interruption is no failure: reading
goes on. -/
def failingAfter (bytes : List UInt8) (after : Nat) (error : IoError) : Stream :=
  if error.kind = .interrupted ∨ bytes.length < after then .complete bytes
  else .broken (bytes.take after) error

/-- All bytes, if reading does not fail. -/
def toExcept : Stream → Except IoError (List UInt8)
  | .complete bytes => .ok bytes
  | .broken _ error => .error error

end Stream

/-- What stands at a path. -/
inductive FileNode where
  /-- A file, with what reading it gives. -/
  | file (content : Stream)
  /-- A directory. It can be opened like a file, but not read. -/
  | directory
  deriving DecidableEq, Repr

/-- What reading the file at a path gives, once it is opened. -/
def FileNode.stream : FileNode → Stream
  | .file content => content
  | .directory => .broken [] .isADirectory

/-- How a program ended. -/
inductive ExitStatus where
  /-- By itself, with an exit code. -/
  | code (n : Nat)
  /-- By a signal. -/
  | signal (n : Nat)
  deriving DecidableEq, Repr

namespace ExitStatus

/-- The names of the signals from 1 up. -/
def signalNames : List String :=
  ["SIGHUP", "SIGINT", "SIGQUIT", "SIGILL", "SIGTRAP", "SIGABRT", "SIGBUS", "SIGFPE", "SIGKILL",
    "SIGUSR1", "SIGSEGV", "SIGUSR2", "SIGPIPE", "SIGALRM", "SIGTERM", "SIGSTKFLT", "SIGCHLD",
    "SIGCONT", "SIGSTOP", "SIGTSTP", "SIGTTIN", "SIGTTOU", "SIGURG", "SIGXCPU", "SIGXFSZ",
    "SIGVTALRM", "SIGPROF", "SIGWINCH", "SIGIO", "SIGPWR", "SIGSYS"]

/-- The name of a signal. -/
def signalName? : Nat → Option String
  | 0 => none
  | n + 1 => signalNames[n]?

/-- Whether a signal ends a program that takes no care of it. Signal 0 is none, and those for an
ended child, for going on, for urgent data and for a new size of the window are passed over. -/
def endsProgram (signal : Nat) : Bool := !([0, 17, 18, 23, 28].contains signal)

/-- Whether the program succeeded. -/
def isSuccess : ExitStatus → Bool
  | .code n => n == 0
  | .signal _ => false

/-- The wording of a status. -/
def text : ExitStatus → String
  | .code n => "exit status: " ++ toString n
  | .signal n =>
    match signalName? n with
    | some name => "signal: " ++ toString n ++ " (" ++ name ++ ")"
    | none => "signal: " ++ toString n

end ExitStatus

/-- What a program left behind. -/
structure Completed where
  /-- How it ended. -/
  status : ExitStatus
  /-- Its standard output. -/
  stdout : List UInt8
  /-- Its standard error. -/
  stderr : List UInt8
  deriving DecidableEq, Repr

/-- The answers of the machine. -/
structure Host where
  /-- What stands at a path. -/
  lookUp : Path → Except IoError FileNode
  /-- What comes of running a program with arguments. -/
  run : Path → List (List UInt8) → Except IoError Completed
  /-- The value of an environment variable, if it is set. -/
  environment : String → Option (List UInt8)

/-- The content of a file. -/
def Host.read (host : Host) (path : Path) : Except IoError (List UInt8) :=
  match host.lookUp path with
  | .ok node => node.stream.toExcept
  | .error e => .error e

end SyscallCensus
