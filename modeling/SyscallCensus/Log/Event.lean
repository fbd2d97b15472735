import SyscallCensus.Host.Path
import SyscallCensus.Source.Kind
import SyscallCensus.Syscall
import SyscallCensus.Walk.Stats

/-!
# Events

This module formalizes what the library logs according to `SPEC_FULL.md`, Section 10.6 (Logging).

What is worth a line in the log. An event is a value that names what happened; its level, its
wording and the component that it comes from are functions of it.
-/

namespace SyscallCensus.Log

/-- How important an event is. -/
inductive Level where
  /-- Something went wrong. -/
  | error
  /-- Something is odd. -/
  | warn
  /-- A step of the work is done. -/
  | info
  /-- A detail of the work. -/
  | debug
  /-- A detail of a detail. -/
  | trace
  deriving DecidableEq, Repr, Inhabited

namespace Level

/-- The name of a level. -/
def name : Level → String
  | .error => "ERROR"
  | .warn => "WARN"
  | .info => "INFO"
  | .debug => "DEBUG"
  | .trace => "TRACE"

/-- Levels in order: the more detailed, the higher. -/
def detail : Level → Nat
  | .error => 1
  | .warn => 2
  | .info => 3
  | .debug => 4
  | .trace => 5

end Level

/-- The part of the program that logs an event. -/
inductive Component where
  /-- The construction of symbol tables. -/
  | symbols
  /-- The walk through the calls. -/
  | reachability
  /-- The disassembly of executables. -/
  | disassembly
  /-- The extraction as a whole. -/
  | extraction
  /-- The command line. -/
  | command
  deriving DecidableEq, Repr, Inhabited

/-- Something that happened. -/
inductive Event where
  /-- A function invokes the system while no loaded number waits. -/
  | unmatchedInvocation (function : String)
  /-- A function without calls and system calls is left out of the table. -/
  | emptyFunction (name : String)
  /-- A function is put into the table. -/
  | functionRead (name : String) (calls : Nat) (syscalls : List SyscallId)
  /-- A function takes the place of an earlier one of the same symbol. -/
  | duplicateFunction (name : String)
  /-- A listing was read to its end. -/
  | tableBuilt (lines blocks kept : Nat)
  /-- The walk follows a function. -/
  | expanding (name : String)
  /-- A walk is over. -/
  | walkFinished (stats : Walk.Stats)
  /-- The disassembler wrote a listing. -/
  | disassembled (bytes : Nat) (path : Path)
  /-- The table of an input is ready. -/
  | tableReady (path : Path) (functions : Nat)
  /-- An extraction succeeded. -/
  | extracted (delivered expanded : Nat)
  /-- An extraction begins. -/
  | extracting (path : Path) (kind : SourceKind)
  deriving DecidableEq, Repr

/-- Numbers between braces, with a comma between two of them. -/
def idSetText (ids : List SyscallId) : String :=
  "\x7b" ++ String.intercalate ", " (ids.map fun id => toString id.toNat) ++ "\x7d"

/-- A truth value as a word. -/
def boolText : Bool → String
  | true => "true"
  | false => "false"

/-- Counters with their names, between braces. -/
def statsText (stats : Walk.Stats) : String :=
  "WalkStats \x7b visited: " ++ toString stats.visited ++
    ", expanded: " ++ toString stats.expanded ++ ", delivered: " ++ toString stats.delivered ++
    ", cancelled: " ++ boolText stats.cancelled ++ " \x7d"

/-- The word for a kind of source in the log. -/
def kindText : SourceKind → String
  | .dump => "Dump"
  | .executable => "Executable"

namespace Event

/-- How important an event is. -/
def level : Event → Level
  | .unmatchedInvocation _ | .emptyFunction _ => .trace
  | .functionRead .. | .tableBuilt .. | .expanding _ | .walkFinished _ | .disassembled .. |
    .extracting .. => .debug
  | .duplicateFunction _ => .warn
  | .tableReady .. | .extracted .. => .info

/-- The part of the program that an event comes from. -/
def component : Event → Component
  | .unmatchedInvocation _ | .emptyFunction _ | .functionRead .. | .duplicateFunction _
  | .tableBuilt .. => .symbols
  | .expanding _ | .walkFinished _ => .reachability
  | .disassembled .. => .disassembly
  | .tableReady .. | .extracted .. => .extraction
  | .extracting .. => .command

/-- The wording of an event. -/
def message : Event → String
  | .unmatchedInvocation f => "[" ++ f ++ "] invocation without a pending id"
  | .emptyFunction name => "[" ++ name ++ "] skipping empty symbol"
  | .functionRead name calls ids =>
    "[" ++ name ++ "] " ++ toString calls ++ " call(s), syscalls " ++ idSetText ids
  | .duplicateFunction name => "duplicate definition of " ++ name ++ "; keeping the later one"
  | .tableBuilt lines blocks kept =>
    "symbol table built: " ++ toString lines ++ " lines, " ++ toString blocks ++ " functions, " ++
      toString kept ++ " kept"
  | .expanding name => "expanding " ++ name
  | .walkFinished stats => "walk finished: " ++ statsText stats
  | .disassembled bytes path =>
    "go tool objdump produced " ++ toString bytes ++ " bytes for " ++ path.text
  | .tableReady path functions =>
    path.text ++ ": " ++ toString functions ++ " function(s) with calls or syscalls"
  | .extracted delivered expanded =>
    toString delivered ++ " system call(s) across " ++ toString expanded ++ " expanded function(s)"
  | .extracting path kind => "extracting from " ++ path.text ++ " (" ++ kindText kind ++ ")"

end Event

end SyscallCensus.Log
