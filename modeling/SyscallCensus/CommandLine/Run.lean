import SyscallCensus.CommandLine.Arguments
import SyscallCensus.CommandLine.Logging

/-!
# The program

This module formalizes the program as `SPEC_FULL.md`, Section 10.8 (CLI), describes it: "exit code
non-zero on any error", and errors on the error stream.

What the program writes and how it ends, given its arguments. The log comes before the failure, and
where a document is written nothing is logged. The program ends with 0 if all went well, with 1 if
the command failed and with 2 if the arguments make no sense.
-/

namespace SyscallCensus.CommandLine

/-- What a run of the program leaves behind. -/
structure Finished where
  /-- How the program ended. -/
  exitCode : UInt8
  /-- Its standard output. -/
  stdout : String
  /-- Its standard error. -/
  stderr : String
  deriving DecidableEq, Repr

/-! ### Failures -/

/-- A text with `first` in front of it and `others` in front of each of its further lines. -/
def indented (first others text : String) : String :=
  first ++ String.intercalate ("\n" ++ others) (text.splitOn "\n")

/-- A number with blanks in front, five characters wide, and a colon behind it. -/
def causeNumber (n : Nat) : String :=
  let digits := toString n
  String.ofList (List.replicate (5 - digits.length) ' ') ++ digits ++ ": "

/-- The causes of a failure, each on a line of its own. Several causes are numbered. -/
def causesText : List String → List String
  | [cause] => [indented "    " "    " cause]
  | causes => causes.zipIdx.map fun (cause, n) => indented (causeNumber n) "       " cause

/-- A failure with its causes. -/
def failureText : List String → String
  | [] => "Error: \n"
  | [failure] => "Error: " ++ failure ++ "\n"
  | failure :: causes =>
    "Error: " ++ failure ++ "\n\nCaused by:\n" ++
      String.intercalate "\n" (causesText causes) ++ "\n"

/-! ### Texts -/

/-- The name of the program. -/
def programName : String := "systract"

/-- The version of the program. -/
def versionText : String := programName ++ " 0.1.0\n"

/-- The help on a command. -/
def helpText : Scope → String
  | .program =>
    "List the system calls a Go executable may invoke\n\n" ++
    "Usage: " ++ programName ++ " [OPTIONS] <COMMAND>\n\n" ++
    "Commands:\n" ++
    "  extract   Extract the system calls reachable from the program entry points\n" ++
    "  syscalls  List the system call table used to label results\n" ++
    "  help      Print this message or the help of the given subcommand(s)\n\n" ++
    "Options:\n" ++
    "  -v, --verbose  Log analysis progress at debug level on stderr\n" ++
    "  -h, --help     Print help\n" ++
    "  -V, --version  Print version\n"
  | .extract =>
    "Extract the system calls reachable from the program entry points\n\n" ++
    "Usage: " ++ programName ++ " extract [OPTIONS] <PATH>\n\n" ++
    "Arguments:\n" ++
    "  <PATH>  Executable (or dump file with --dumpfile) to analyze\n\n" ++
    "Options:\n" ++
    "  -d, --dumpfile                   Handle a dump file instead of a Go executable\n" ++
    "      --template <TEMPLATE>        Output template for each result\n" ++
    "      --json                       Emit a JSON report instead of human-readable text\n" ++
    "      --config <CONFIG>            Engine config file " ++
      "(YAML, or JSON with a .json extension)\n" ++
    "      --jobs <JOBS>                Worker threads for the call graph walk\n" ++
    "      --entry-point <ENTRY_POINT>  Entry point symbol; repeat to seed several\n" ++
    "      --go <GO>                    Path to the go toolchain binary\n" ++
    "  -v, --verbose                    Log analysis progress at debug level on stderr\n" ++
    "  -h, --help                       Print help\n"
  | .syscalls =>
    "List the system call table used to label results\n\n" ++
    "Usage: " ++ programName ++ " syscalls [OPTIONS]\n\n" ++
    "Options:\n" ++
    "      --json     Emit JSON instead of human-readable text\n" ++
    "  -v, --verbose  Log analysis progress at debug level on stderr\n" ++
    "  -h, --help     Print help\n"

/-! ### Runs -/

/-- What is shown of the log, and what is to be said about the specification in the environment. -/
def logFilter (host : Host) (verbose json : Bool) : Log.Filter × String :=
  if json then (.silent, "")
  else
    let filter := Log.Filter.uniform (some (if verbose then .debug else .warn))
    match (host.environment "RUST_LOG").bind Text.Utf8.decode? with
    | some spec => filter.readSpec spec
    | none => (filter, "")

/-- A run of a command. -/
def Invocation.run (host : Host) (now : String) : Invocation → Finished
  | .syscalls verbose json =>
    ⟨0, listCommand .linuxX64 json, (logFilter host verbose json).2⟩
  | .extract verbose options =>
    let outcome := extractCommand options host now false
    let (filter, said) := logFilter host verbose options.json
    let log := said ++ filter.lines outcome.log.toList
    match outcome.result with
    | .ok () => ⟨0, outcome.written, log⟩
    | .error e => ⟨1, outcome.written, log ++ failureText e.chain⟩

/-- A run of the program with its arguments, at the time `now`. -/
def run (host : Host) (now : String) (arguments : List String) : Finished :=
  match Invocation.parse arguments with
  | .ok invocation => invocation.run host now
  | .error (.usage e) => ⟨2, "", "error: " ++ e.message ++ "\n"⟩
  | .error (.help topic) => ⟨0, helpText topic, ""⟩
  | .error .version => ⟨0, versionText, ""⟩

end SyscallCensus.CommandLine
