import SyscallCensus.Digest.Sha256
import SyscallCensus.Extraction
import SyscallCensus.Report.Document
import SyscallCensus.Report.Template
import SyscallCensus.Report.Text
import SyscallCensus.Settings.File

/-!
# The command that extracts

This module formalizes the command `extract` of `SPEC_FULL.md`, Section 10.8 (CLI), and what Section
10.5 (Error handling) says of it: "a failed extraction writes nothing to stdout".

The command works in stages: settings, template, extraction, and for a document the digest of the
input. The first stage that fails decides how the command fails; nothing is written unless all
succeed. A template is read even where the document takes its place.
-/

namespace SyscallCensus

open Log (Event)

/-- What the command is asked to do. -/
structure ExtractOptions where
  /-- The input. -/
  path : Path
  /-- Whether the input is a listing, not an executable. -/
  dumpfile : Bool
  /-- The template for the result. -/
  template : Option String
  /-- Whether the result is wanted as a document. -/
  json : Bool
  /-- The settings file. -/
  config : Option Path
  /-- A number of tasks in place of that of the settings. -/
  jobs : Option Nat
  /-- Entry points in place of those of the settings, if there are any. -/
  entryPoints : List String
  /-- A Go toolchain in place of that of the settings. -/
  goPath : Option Path
  deriving DecidableEq, Repr

/-- Why the command failed. -/
inductive CommandError where
  /-- The settings cannot be had. -/
  | settings (error : Settings.LoadError)
  /-- The template is none. -/
  | template (error : TemplateError)
  /-- The extraction failed. -/
  | extraction (path : Path) (error : ExtractError)
  /-- The digest of the input cannot be had. -/
  | hashing (path : Path) (error : IoError)
  deriving DecidableEq, Repr

/-- What a failure says and, behind it, what caused it. -/
def CommandError.chain : CommandError → List String
  | .settings error => error.chain
  | .template error => [error.message]
  | .extraction path error => ("Failed to extract system calls from " ++ path.text) :: error.chain
  | .hashing path error => ["Cannot hash input " ++ path.text, error.text]

/-- What comes of the command. -/
structure CommandOutcome where
  /-- Why the command failed, if it did. -/
  result : Except CommandError Unit
  /-- What the command has written. -/
  written : String
  /-- The log. -/
  log : Array Event

/-- A command that has failed before it wrote anything. -/
def CommandOutcome.failed (error : CommandError) (log : Array Event) : CommandOutcome :=
  ⟨.error error, "", log⟩

/-- What the command leaves to others: reading settings files, telling executables apart,
digesting. -/
structure Libraries where
  /-- The settings that a file of a format holds. -/
  parseSettings? : Settings.Format → List UInt8 → Option Settings
  /-- Whether an executable is linked dynamically. -/
  isDynamic : List UInt8 → Bool
  /-- The digest of a content. -/
  digest : List UInt8 → String

/-- What the program works with. -/
def Libraries.standard : Libraries where
  parseSettings? := Settings.parse?
  isDynamic := Elf.isDynamicallyLinked
  digest := Sha256.hexDigest

namespace ExtractOptions

/-- Settings with what the options put in their place. -/
def override (options : ExtractOptions) (settings : Settings) : Settings where
  entryPoints := if options.entryPoints.isEmpty then settings.entryPoints else options.entryPoints
  wrappers := settings.wrappers
  jobs := options.jobs.or settings.jobs
  goPath := options.goPath.or settings.goPath

/-- The settings that the command works with. -/
def settings (libraries : Libraries) (options : ExtractOptions) (host : Host) :
    Except Settings.LoadError Settings :=
  match options.config with
  | some path => (Settings.loadBy libraries.parseSettings? host path).map options.override
  | none => .ok (options.override .default)

/-- The source that the command reads. -/
def source (libraries : Libraries) (options : ExtractOptions) (host : Host) (settings : Settings) :
    Source :=
  if options.dumpfile then .dump host options.path
  else .executableBy libraries.isDynamic host options.path (settings.goProgram host)

/-- The template that the command writes with. -/
def parsedTemplate (options : ExtractOptions) : Except TemplateError (Option Template) :=
  match options.template with
  | some text => (Template.parse text.toList).map some
  | none => .ok none

end ExtractOptions

/-- The digest of a file. -/
def digestFile (libraries : Libraries) (host : Host) (path : Path) : Except CommandError String :=
  match host.read path with
  | .ok content => .ok (libraries.digest content)
  | .error e => .error (.hashing path e)

/-- The result of an extraction in the form that the options ask for. -/
def renderResult (libraries : Libraries) (options : ExtractOptions) (host : Host) (now : String)
    (template : Option Template) (kind : SourceKind) (calls : List SystemCall) :
    Except CommandError String :=
  if options.json then
    (digestFile libraries host options.path).map fun sha256 =>
      Report.lines (Report.document ⟨options.path.text, kind, sha256, now, calls⟩)
  else
    match template with
    | some template => .ok (template.render calls)
    | none => .ok (Report.text calls)

/-- The command, at the time `now`. The calls are extracted by `extract`. By the time that the input
is read once more, for its digest, the host has become `later`. -/
def extractCommandBy (libraries : Libraries) (extract : Settings → Source → Extraction)
    (options : ExtractOptions) (host later : Host) (now : String) : CommandOutcome :=
  match options.settings libraries host with
  | .error e => .failed (.settings e) #[]
  | .ok settings =>
    match options.parsedTemplate with
    | .error e => .failed (.template e) #[]
    | .ok template =>
      let source := options.source libraries host settings
      let extraction := extract settings source
      let log := #[Event.extracting options.path source.kind] ++ extraction.log
      match extraction.calls with
      | .error e => .failed (.extraction options.path e) log
      | .ok calls =>
        match renderResult libraries options later now template source.kind calls with
        | .error e => .failed e log
        | .ok text => ⟨.ok (), text, log⟩

/-- The command, at the time `now`, on a host that stays as it is. The walk is asked to stop from
the beginning where `stop` says so. -/
def extractCommand (options : ExtractOptions) (host : Host) (now : String) (stop : Bool) :
    CommandOutcome :=
  extractCommandBy .standard (fun settings source => .ofSource settings source stop) options
    host host now

/-- The command that lists the registry. -/
def listCommand (registry : Registry) (json : Bool) : String :=
  if json then Report.registryDocument registry else Report.registryText registry

end SyscallCensus
