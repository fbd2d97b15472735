import SyscallCensus.Command.Extract

/-!
# Arguments

This module formalizes the arguments of the two commands of `SPEC_FULL.md`, Section 10.8 (CLI).

The words of a command line, read from left to right. An argument that begins with a dash is an
option, two dashes end the options, and a single dash is a word like any other. A flag stands alone;
any other option has a value, behind an equals sign or in the next argument. Short flags may be
joined. What is wrong first, or asks for help or for the version first, decides what the command
line means.
-/

namespace SyscallCensus.CommandLine

/-! ### Vocabulary -/

/-- A command, or what stands before it. -/
inductive Scope where
  /-- Before the command. -/
  | program
  /-- The command that extracts. -/
  | extract
  /-- The command that lists the registry. -/
  | syscalls
  deriving DecidableEq, Repr

/-- An option without a value. -/
inductive Flag where
  /-- Log details. -/
  | verbose
  /-- The input is a listing. -/
  | dumpfile
  /-- Write a document. -/
  | json
  /-- Show help. -/
  | help
  /-- Show the version. -/
  | version
  deriving DecidableEq, Repr

/-- An option with a value. -/
inductive Setting where
  /-- The template for the result. -/
  | template
  /-- The settings file. -/
  | config
  /-- The number of tasks. -/
  | jobs
  /-- An entry point. -/
  | entryPoint
  /-- The Go toolchain. -/
  | go
  deriving DecidableEq, Repr

/-- The flags that may stand in a scope. -/
def Scope.allows : Scope → Flag → Bool
  | _, .verbose | _, .help => true
  | .program, .version => true
  | .extract, .dumpfile | .extract, .json | .syscalls, .json => true
  | _, _ => false

/-- The flag with a long name. -/
def Flag.ofName? : String → Option Flag
  | "verbose" => some .verbose
  | "dumpfile" => some .dumpfile
  | "json" => some .json
  | "help" => some .help
  | "version" => some .version
  | _ => none

/-- The flag with a short name. -/
def Flag.ofLetter? : Char → Option Flag
  | 'v' => some .verbose
  | 'd' => some .dumpfile
  | 'h' => some .help
  | 'V' => some .version
  | _ => none

/-- The option with a value and a long name. -/
def Setting.ofName? : String → Option Setting
  | "template" => some .template
  | "config" => some .config
  | "jobs" => some .jobs
  | "entry-point" => some .entryPoint
  | "go" => some .go
  | _ => none

/-- The flag with a long name, where it may stand. -/
def Scope.flag? (scope : Scope) (name : String) : Option Flag :=
  (Flag.ofName? name).filter scope.allows

/-- The flag with a short name, where it may stand. -/
def Scope.shortFlag? (scope : Scope) (letter : Char) : Option Flag :=
  (Flag.ofLetter? letter).filter scope.allows

/-- The option with a value, where it may stand. -/
def Scope.setting? (scope : Scope) (name : String) : Option Setting :=
  if scope = .extract then Setting.ofName? name else none

/-! ### Single arguments -/

/-- The form of an argument. -/
inductive Form where
  /-- Two dashes. -/
  | ending
  /-- Two dashes and a name, maybe with a value. -/
  | long (name : String) (value : Option String)
  /-- A dash and letters. -/
  | short (letters : List Char)
  /-- Anything else. -/
  | word
  deriving DecidableEq, Repr

/-- The name of a long option, and its value behind an equals sign. -/
def Form.ofLong (chars : List Char) : Form :=
  let name := String.ofList (chars.takeWhile (· ≠ '='))
  match chars.dropWhile (· ≠ '=') with
  | [] => .long name none
  | _ :: value => .long name (some (String.ofList value))

/-- The form of an argument. -/
def Form.of (argument : String) : Form :=
  match argument.toList with
  | ['-', '-'] => .ending
  | '-' :: '-' :: chars => .ofLong chars
  | '-' :: c :: chars => .short (c :: chars)
  | _ => .word

/-! ### What is given -/

/-- What is wrong with a command line. -/
inductive UsageError where
  /-- There is no command. -/
  | missingCommand
  /-- There is no such command. -/
  | unknownCommand (name : String)
  /-- There is no such option here. -/
  | unknownOption (option : String)
  /-- An option stands there twice. -/
  | repeatedOption (option : String)
  /-- A flag has a value. -/
  | unexpectedValue (option : String)
  /-- An option lacks its value. -/
  | missingValue (option : String)
  /-- A value is not what it should be. -/
  | invalidValue (value : String)
  /-- Two options exclude each other. -/
  | conflict (first second : String)
  /-- There is no input. -/
  | missingPath
  /-- There is a word too many. -/
  | unexpectedWord (word : String)
  deriving DecidableEq, Repr

/-- The wording of a failure. -/
def UsageError.message : UsageError → String
  | .missingCommand => "a command is missing"
  | .unknownCommand name => "unknown command '" ++ name ++ "'"
  | .unknownOption option => "unexpected option '" ++ option ++ "'"
  | .repeatedOption option => "option '" ++ option ++ "' is given twice"
  | .unexpectedValue option => "option '" ++ option ++ "' takes no value"
  | .missingValue option => "option '" ++ option ++ "' needs a value"
  | .invalidValue value => "invalid value '" ++ value ++ "'"
  | .conflict first second => "options '" ++ first ++ "' and '" ++ second ++ "' exclude each other"
  | .missingPath => "a path is missing"
  | .unexpectedWord word => "unexpected argument '" ++ word ++ "'"

/-- Why the reading of a command line ends early. -/
inductive Stop where
  /-- Something is wrong. -/
  | usage (error : UsageError)
  /-- Help is asked for. -/
  | help (topic : Scope)
  /-- The version is asked for. -/
  | version
  deriving DecidableEq, Repr

/-- What the arguments so far have given. -/
structure Given where
  /-- Whether details are logged. -/
  verbose : Bool
  /-- Whether the input is a listing. -/
  dumpfile : Bool
  /-- Whether a document is written. -/
  json : Bool
  /-- The template. -/
  template : Option String
  /-- The settings file. -/
  config : Option String
  /-- The number of tasks. -/
  jobs : Option Nat
  /-- The entry points. -/
  entryPoints : List String
  /-- The Go toolchain. -/
  goPath : Option String
  /-- The input. -/
  path : Option String
  deriving DecidableEq, Repr

/-- The number that a text of decimal digits is, if a word of 64 bits holds it. A plus sign may
stand in front. -/
def jobCount? (text : String) : Option Nat :=
  let digits := match text.toList with
    | '+' :: rest => rest
    | chars => chars
  let value := digits.foldl (fun n c => n * 10 + (c.toNat - '0'.toNat)) 0
  if !digits.isEmpty && digits.all (fun c => '0' ≤ c && c ≤ '9') && value < UInt64.size then
    some value
  else none

namespace Given

/-- Nothing. -/
def nothing : Given := ⟨false, false, false, none, none, none, [], none, none⟩

/-- Adds a flag. -/
def raise (given : Given) (scope : Scope) (option : String) : Flag → Except Stop Given
  | .verbose => if given.verbose then twice else .ok { given with verbose := true }
  | .dumpfile => if given.dumpfile then twice else .ok { given with dumpfile := true }
  | .json => if given.json then twice else .ok { given with json := true }
  | .help => .error (.help scope)
  | .version => .error .version
where
  /-- The flag is there already. -/
  twice : Except Stop Given := .error (.usage (.repeatedOption option))

/-- Adds a value to what an option has so far. -/
def fill (option value : String) (isValid : Bool) : Option String → Except Stop (Option String)
  | some _ => .error (.usage (.repeatedOption option))
  | none => if isValid then .ok (some value) else .error (.usage (.invalidValue value))

/-- Adds an option and its value. -/
def set (given : Given) (option value : String) : Setting → Except Stop Given
  | .template => (fill option value true given.template).map fun v => { given with template := v }
  | .config => (fill option value (value != "") given.config).map fun v =>
    { given with config := v }
  | .go => (fill option value (value != "") given.goPath).map fun v => { given with goPath := v }
  | .entryPoint => .ok { given with entryPoints := given.entryPoints ++ [value] }
  | .jobs =>
    match given.jobs, jobCount? value with
    | some _, _ => .error (.usage (.repeatedOption option))
    | none, some n => .ok { given with jobs := some n }
    | none, none => .error (.usage (.invalidValue value))

/-- Adds a word. Only the command that extracts takes one, and it has to name something. -/
def addWord (given : Given) (scope : Scope) (word : String) : Except Stop Given :=
  if scope = .extract && given.path.isNone then
    if word == "" then .error (.usage (.invalidValue word))
    else .ok { given with path := some word }
  else .error (.usage (.unexpectedWord word))

/-- Adds joined short flags. -/
def raiseLetters (given : Given) (scope : Scope) (letters : List Char) : Except Stop Given :=
  letters.foldlM (fun given letter =>
    let option := String.ofList ['-', letter]
    match scope.shortFlag? letter with
    | some flag => given.raise scope option flag
    | none => .error (.usage (.unknownOption option))) given

/-- Adds a long option that has its value with it, or none. -/
def addLong (given : Given) (scope : Scope) (name : String) (value : Option String) :
    Except Stop Given :=
  let option := "--" ++ name
  match scope.flag? name, scope.setting? name, value with
  | some flag, _, none => given.raise scope option flag
  | some _, _, some _ => .error (.usage (.unexpectedValue option))
  | none, some setting, some value => given.set option value setting
  | none, some _, none => .error (.usage (.missingValue option))
  | none, none, _ => .error (.usage (.unknownOption option))

/-- Adds the arguments of a command. -/
def read (scope : Scope) : Given → List String → Except Stop Given
  | given, [] => .ok given
  | given, argument :: rest =>
    match Form.of argument with
    | .ending => rest.foldlM (fun given word => given.addWord scope word) given
    | .word => do read scope (← given.addWord scope argument) rest
    | .short letters => do read scope (← given.raiseLetters scope letters) rest
    | .long name (some value) => do read scope (← given.addLong scope name (some value)) rest
    | .long name none =>
      match scope.setting? name, rest with
      | some _, value :: others =>
        if Form.of value = .word then do read scope (← given.addLong scope name (some value)) others
        else .error (.usage (.missingValue argument))
      | _, rest => do read scope (← given.addLong scope name none) rest
termination_by _ arguments => arguments.length

end Given

/-! ### Whole command lines -/

/-- What a command line asks for. -/
inductive Invocation where
  /-- To extract. -/
  | extract (verbose : Bool) (options : ExtractOptions)
  /-- To list the registry. -/
  | syscalls (verbose json : Bool)
  deriving DecidableEq, Repr

/-- The command with a name. -/
def Scope.ofName? : String → Option Scope
  | "extract" => some .extract
  | "syscalls" => some .syscalls
  | _ => none

namespace Invocation

/-- What is asked of the command that extracts. -/
def ofGiven (verbose : Bool) (given : Given) : Except Stop Invocation :=
  match given.path with
  | none => .error (.usage .missingPath)
  | some path =>
    if given.json && given.template.isSome then .error (.usage (.conflict "--template" "--json"))
    else .ok (.extract (verbose || given.verbose)
      { path, dumpfile := given.dumpfile, template := given.template, json := given.json,
        config := given.config.map Path.ofText, jobs := given.jobs,
        entryPoints := given.entryPoints, goPath := given.goPath.map Path.ofText })

/-- What a command with its arguments asks for. -/
def ofCommand (verbose : Bool) (scope : Scope) (arguments : List String) :
    Except Stop Invocation := do
  let given ← Given.nothing.read scope arguments
  match scope with
  | .extract => ofGiven verbose given
  | .syscalls | .program => .ok (.syscalls (verbose || given.verbose) given.json)

/-- What the words behind `help` ask for. -/
def helpTopic : List String → Stop
  | [] | ["help"] => .help .program
  | [name] =>
    match Scope.ofName? name with
    | some topic => .help topic
    | none => .usage (.unknownCommand name)
  | _ :: name :: _ => .usage (.unknownCommand name)

/-- What a command line asks for, given what stands before its command. -/
def readCommand : Given → List String → Except Stop Invocation
  | _, [] => .error (.usage .missingCommand)
  | given, argument :: rest =>
    match Scope.ofName? argument, Form.of argument with
    | some scope, _ => ofCommand given.verbose scope rest
    | none, .ending => .error (.usage .missingCommand)
    | none, .word =>
      .error (if argument == "help" then helpTopic rest else .usage (.unknownCommand argument))
    | none, .short letters => do readCommand (← given.raiseLetters .program letters) rest
    | none, .long name value => do readCommand (← given.addLong .program name value) rest

/-- What a command line asks for. -/
def parse (arguments : List String) : Except Stop Invocation := readCommand .nothing arguments

end Invocation

end SyscallCensus.CommandLine
