import SyscallCensus.Command.Extract

/-!
# What the command gets from the host

About `SPEC_FULL.md`, Sections 6 and 10.3 (the text source) and 10.7 (Configuration).

Before anything is extracted the command asks the host for a settings file and for a listing. What
it makes of the answers is said here by rules, one for each answer that the host may give:

* `Host.Holds`, `Host.Unreadable` — a file is read to its end, or not;
* `Settings.Loads` — settings come from a file, or do not;
* `ExtractOptions.InForce` — the options put some settings in the place of others;
* `Settings.Toolchain` — which toolchain the settings and the environment name;
* `ExtractOptions.Opens` — a listing comes from a file or from the disassembler, or does not.

The rules speak of the answers of the host alone. What reads a settings file, and what tells that an
executable is linked dynamically, is any `Libraries`. For each relation a theorem says that the
program computes what the rules give (`loads_iff`, `inForce_iff`, `toolchain_iff`, `opens_iff`).
-/

namespace SyscallCensus

/-! ### Files -/

namespace Host

variable {host : Host} {path : Path}

/-- A file is there and can be read to its end. -/
def Holds (host : Host) (path : Path) (content : List UInt8) : Prop :=
  host.lookUp path = .ok (.file (.complete content))

/-- **Why a file cannot be read.** -/
inductive Unreadable (host : Host) (path : Path) : IoError → Prop
  /-- It cannot be opened. -/
  | unopened {error : IoError} (answer : host.lookUp path = .error error) :
      Unreadable host path error
  /-- It is a directory. -/
  | directory (answer : host.lookUp path = .ok .directory) : Unreadable host path .isADirectory
  /-- Reading it fails before its end. -/
  | broken {bytes : List UInt8} {error : IoError}
      (answer : host.lookUp path = .ok (.file (.broken bytes error))) : Unreadable host path error

theorem read_eq_ok_iff {content : List UInt8} :
    host.read path = .ok content ↔ host.Holds path content := by
  unfold read Holds
  rcases host.lookUp path with error | (⟨bytes⟩ | ⟨bytes, error⟩) | _ <;>
    simp [FileNode.stream, Stream.toExcept]

theorem read_eq_error_iff {error : IoError} :
    host.read path = .error error ↔ host.Unreadable path error := by
  constructor
  · intro h
    unfold read at h
    rcases hanswer : host.lookUp path with unopened | (⟨bytes⟩ | ⟨bytes, broken⟩) | _ <;>
      rw [hanswer] at h <;> cases h
    · exact .unopened hanswer
    · exact .broken hanswer
    · exact .directory hanswer
  · intro h
    cases h with
    | unopened answer => rw [read, answer]
    | directory answer => rw [read, answer]; rfl
    | broken answer => rw [read, answer]; rfl

end Host

/-- **How a failure to read an input is reported**: a missing input and one that must not be read
are told apart from all other failures. -/
inductive Unavailable (path : Path) (error : IoError) : SourceError → Prop
  /-- The input is missing. -/
  | missing (kind : error.kind = .notFound) : Unavailable path error (.notFound path)
  /-- The input must not be read. -/
  | denied (kind : error.kind = .permissionDenied) : Unavailable path error (.permissionDenied path)
  /-- Reading the input failed. -/
  | other (present : error.kind ≠ .notFound) (allowed : error.kind ≠ .permissionDenied) :
      Unavailable path error (.io path error)

theorem unavailable_iff {path : Path} {error : IoError} {reported : SourceError} :
    Unavailable path error reported ↔ SourceError.ofIo path error = reported := by
  obtain ⟨kind, text⟩ := error
  constructor
  · intro h
    cases h with
    | missing h => cases h; rfl
    | denied h => cases h; rfl
    | other hpresent hallowed => cases kind <;> first | rfl | contradiction
  · rintro rfl
    cases kind with
    | notFound => exact .missing rfl
    | permissionDenied => exact .denied rfl
    | _ => exact .other (by simp) (by simp)

/-! ### Settings -/

namespace Settings

/-- A path whose last name is one for JSON: something, and `.json` behind it. -/
def NamesJson (path : Path) : Prop :=
  ∃ stem, stem ≠ [] ∧ path.steps.getLast? = some (stem ++ Text.Utf8.encode ".json")

/-- **What a settings file gives.** -/
inductive Loads (libraries : Libraries) (host : Host) (path : Path) :
    Except LoadError Settings → Prop
  /-- It cannot be read. -/
  | unreadable {error : IoError} (answer : host.Unreadable path error) :
      Loads libraries host path (.error (.unreadable path error))
  /-- It holds no settings of its format. -/
  | malformed {content : List UInt8} {format : Format} (answer : host.Holds path content)
      (named : format = .json ↔ NamesJson path)
      (unread : libraries.parseSettings? format content = none) :
      Loads libraries host path (.error (.malformed format))
  /-- It holds settings. -/
  | loaded {content : List UInt8} {format : Format} {settings : Settings}
      (answer : host.Holds path content) (named : format = .json ↔ NamesJson path)
      (read : libraries.parseSettings? format content = some settings) :
      Loads libraries host path (.ok settings)

theorem encode_dotJson :
    Text.Utf8.encode ".json" = Path.dot :: Text.Utf8.encode "json" := rfl

/-- A name is cut at its last dot, if what stands behind the dot is not the whole name. -/
theorem exists_eq_append_dot {name behind : List UInt8}
    (h : (name.reverse.takeWhile (· ≠ Path.dot)).reverse = behind)
    (hlength : behind.length < name.length) : ∃ stem, name = stem ++ Path.dot :: behind := by
  rw [List.reverse_eq_iff] at h
  have hcut := List.takeWhile_append_dropWhile (p := (· ≠ Path.dot)) (l := name.reverse)
  rw [h] at hcut
  cases hrest : name.reverse.dropWhile (· ≠ Path.dot) with
  | nil =>
    rw [hrest, List.append_nil] at hcut
    have hsame := congrArg List.length hcut
    simp only [List.length_reverse] at hsame
    omega
  | cons b more =>
    have hdot : b = Path.dot := by
      have hhead := List.head?_dropWhile_not (· ≠ Path.dot) name.reverse
      rw [hrest] at hhead
      simpa using hhead
    rw [hrest, hdot] at hcut
    have hreversed := congrArg List.reverse hcut
    exact ⟨more.reverse, by simpa using hreversed.symm⟩

theorem takeWhile_append_dot (stem : List UInt8) {behind : List UInt8}
    (h : ∀ b ∈ behind.reverse, decide (b ≠ Path.dot) = true) :
    ((stem ++ Path.dot :: behind).reverse.takeWhile (· ≠ Path.dot)).reverse = behind := by
  rw [List.reverse_append, List.reverse_cons, List.append_assoc, List.takeWhile_append_of_pos h]
  simp

theorem extension?_eq_json_iff {path : Path} :
    path.extension? = some (Text.Utf8.encode "json") ↔ NamesJson path := by
  rw [Path.extension?, NamesJson, encode_dotJson, List.getLastD_eq_getLast?]
  constructor
  · intro h
    simp only [Option.ite_none_right_eq_some, Option.some.injEq] at h
    obtain ⟨⟨-, hlength⟩, hbehind⟩ := h
    rw [hbehind] at hlength
    cases hname : path.steps.getLast? with
    | none =>
      rw [hname] at hlength
      cases hlength
    | some name =>
      rw [hname, Option.getD_some] at hlength hbehind
      obtain ⟨stem, rfl⟩ := exists_eq_append_dot hbehind (Nat.lt_of_succ_lt hlength)
      refine ⟨stem, ?_, rfl⟩
      rintro rfl
      exact absurd hlength (by decide)
  · rintro ⟨stem, hstem, hname⟩
    have hlength : 0 < stem.length := List.length_pos_iff.2 hstem
    have hjson : (Text.Utf8.encode "json").length = 4 := rfl
    have hplain : ∀ b ∈ (Text.Utf8.encode "json").reverse, decide (b ≠ Path.dot) = true :=
      List.all_eq_true.1 (by decide)
    rw [hname, Option.getD_some]
    simp only [takeWhile_append_dot stem hplain]
    rw [if_pos]
    refine ⟨fun h => ?_, by rw [List.length_append, List.length_cons]; omega⟩
    have hsame := congrArg List.length h
    simp only [List.length_append, List.length_cons, List.length_nil, hjson] at hsame
    omega

theorem ofPath_eq_json_iff {path : Path} : Format.ofPath path = .json ↔ NamesJson path := by
  rw [← extension?_eq_json_iff, Format.ofPath]
  split <;> simp_all

theorem eq_ofPath {path : Path} {format : Format} (named : format = .json ↔ NamesJson path) :
    format = .ofPath path := by
  rw [← ofPath_eq_json_iff] at named
  cases format <;> cases hformat : Format.ofPath path <;> simp_all

/-- **Settings are loaded by the rules.** -/
theorem loads_iff {libraries : Libraries} {host : Host} {path : Path}
    {result : Except LoadError Settings} :
    Loads libraries host path result ↔ loadBy libraries.parseSettings? host path = result := by
  constructor
  · intro h
    cases h with
    | unreadable answer => rw [loadBy, Host.read_eq_error_iff.2 answer]
    | malformed answer named unread =>
      obtain rfl := eq_ofPath named
      simp only [loadBy, Host.read_eq_ok_iff.2 answer, unread]
    | loaded answer named read =>
      obtain rfl := eq_ofPath named
      simp only [loadBy, Host.read_eq_ok_iff.2 answer, read]
  · rintro rfl
    cases hread : host.read path with
    | error error =>
      rw [loadBy, hread]
      exact .unreadable (Host.read_eq_error_iff.1 hread)
    | ok content =>
      have hholds := Host.read_eq_ok_iff.1 hread
      cases hparse : libraries.parseSettings? (.ofPath path) content with
      | none =>
        simp only [loadBy, hread, hparse]
        exact .malformed hholds ofPath_eq_json_iff hparse
      | some settings =>
        simp only [loadBy, hread, hparse]
        exact .loaded hholds ofPath_eq_json_iff hparse

/-- What `load` gives is what the rules give for the formats that the program reads. -/
theorem load_eq_iff {host : Host} {path : Path} {result : Except LoadError Settings} :
    load host path = result ↔ Loads .standard host path result := by
  rw [loads_iff]
  rfl

/-- **Which toolchain is run**: the chosen one; else the one that the environment names; else
`go`. -/
inductive Toolchain (settings : Settings) (host : Host) : Path → Prop
  /-- The settings name one. -/
  | chosen {go : Path} (named : settings.goPath = some go) : Toolchain settings host go
  /-- The environment names one. -/
  | environment {value : List UInt8} (unnamed : settings.goPath = none)
      (named : host.environment "GO_BIN" = some value) : Toolchain settings host ⟨value⟩
  /-- Nothing names one. -/
  | found (unnamed : settings.goPath = none) (unset : host.environment "GO_BIN" = none) :
      Toolchain settings host "go"

theorem toolchain_iff {settings : Settings} {host : Host} {go : Path} :
    Toolchain settings host go ↔ settings.goProgram host = go := by
  constructor
  · intro h
    cases h with
    | chosen named => simp [goProgram, named]
    | environment unnamed named => simp [goProgram, unnamed, named]
    | found unnamed unset => simp [goProgram, unnamed, unset]
  · rintro rfl
    unfold goProgram
    cases hchosen : settings.goPath with
    | some go => exact .chosen hchosen
    | none =>
      cases hvalue : host.environment "GO_BIN" with
      | some value => exact .environment hchosen hvalue
      | none => exact .found hchosen hvalue

end Settings

namespace ExtractOptions

variable {libraries : Libraries} {options : ExtractOptions} {host : Host} {settings : Settings}

/-- **The settings that the options are put over**: the defaults, or those of the settings file.
Where the file gives none the defaults stand in for them, so that what comes after the settings can
be asked for its faults nevertheless. -/
inductive Base (libraries : Libraries) (options : ExtractOptions) (host : Host) : Settings → Prop
  /-- There is no settings file. -/
  | default (unset : options.config = none) : Base libraries options host .default
  /-- There is a settings file. -/
  | loaded {path : Path} {settings : Settings} (given : options.config = some path)
      (loads : Settings.Loads libraries host path (.ok settings)) :
        Base libraries options host settings
  /-- There is a settings file that gives no settings. -/
  | standIn {path : Path} {error : Settings.LoadError} (given : options.config = some path)
      (fails : Settings.Loads libraries host path (.error error)) :
        Base libraries options host .default

/-- **The settings in force**: an option counts where it is given, and else what it is put over. -/
structure InForce (libraries : Libraries) (options : ExtractOptions) (host : Host)
    (settings : Settings) : Prop where
  /-- What the options are put over, and where it counts. -/
  basis : ∃ base, Base libraries options host base ∧ settings.wrappers = base.wrappers ∧
    (options.entryPoints = [] → settings.entryPoints = base.entryPoints) ∧
    (options.jobs = none → settings.jobs = base.jobs) ∧
    (options.goPath = none → settings.goPath = base.goPath)
  /-- Entry points that are given count. -/
  entryPoints : options.entryPoints ≠ [] → settings.entryPoints = options.entryPoints
  /-- A number of tasks that is given counts. -/
  jobs : options.jobs ≠ none → settings.jobs = options.jobs
  /-- A toolchain that is given counts. -/
  goPath : options.goPath ≠ none → settings.goPath = options.goPath

/-- The settings in force. -/
def inForce (libraries : Libraries) (options : ExtractOptions) (host : Host) : Settings :=
  match options.settings libraries host with
  | .ok settings => settings
  | .error _ => options.override .default

theorem inForce_of_ok (h : options.settings libraries host = .ok settings) :
    options.inForce libraries host = settings := by
  rw [inForce, h]

theorem exists_base (libraries : Libraries) (options : ExtractOptions) (host : Host) :
    ∃ base, Base libraries options host base ∧
      options.inForce libraries host = options.override base := by
  cases hconfig : options.config with
  | none => exact ⟨_, .default hconfig, by simp [inForce, ExtractOptions.settings, hconfig]⟩
  | some path =>
    cases hload : Settings.loadBy libraries.parseSettings? host path with
    | ok settings =>
      exact ⟨settings, .loaded hconfig (Settings.loads_iff.2 hload),
        by simp [inForce, ExtractOptions.settings, hconfig, hload, Except.map]⟩
    | error error =>
      exact ⟨.default, .standIn hconfig (Settings.loads_iff.2 hload),
        by simp [inForce, ExtractOptions.settings, hconfig, hload, Except.map]⟩

theorem Base.unique {base other : Settings} (h : Base libraries options host base)
    (h' : Base libraries options host other) : base = other := by
  cases h with
  | default unset =>
    cases h' with
    | default => rfl
    | loaded given => rw [given] at unset; cases unset
    | standIn => rfl
  | loaded given loads =>
    cases h' with
    | default unset => rw [given] at unset; cases unset
    | loaded given' loads' =>
      obtain rfl := Option.some.inj (given.symm.trans given')
      have hsame := (Settings.loads_iff.1 loads).symm.trans (Settings.loads_iff.1 loads')
      exact Except.ok.inj hsame
    | standIn given' fails =>
      obtain rfl := Option.some.inj (given.symm.trans given')
      cases (Settings.loads_iff.1 loads).symm.trans (Settings.loads_iff.1 fails)
  | standIn given fails =>
    cases h' with
    | default => rfl
    | loaded given' loads =>
      obtain rfl := Option.some.inj (given.symm.trans given')
      cases (Settings.loads_iff.1 loads).symm.trans (Settings.loads_iff.1 fails)
    | standIn => rfl

/-- **There are settings in force, and no others**: those that the program works with. -/
theorem inForce_iff : InForce libraries options host settings ↔
    options.inForce libraries host = settings := by
  obtain ⟨base, hbase, hinForce⟩ := exists_base libraries options host
  rw [hinForce]
  constructor
  · intro h
    obtain ⟨other, hother, hwrappers, hentries, hjobs, hgo⟩ := h.basis
    obtain rfl := hbase.unique hother
    obtain ⟨entries, wrappers, jobs, go⟩ := settings
    have hentries' := h.entryPoints
    have hjobs' := h.jobs
    have hgo' := h.goPath
    simp only [override, Settings.mk.injEq] at *
    refine ⟨?_, hwrappers.symm, ?_, ?_⟩
    · by_cases hnone : options.entryPoints = []
      · simp [hnone, hentries hnone]
      · simp [hnone, hentries' hnone]
    · cases hnone : options.jobs with
      | none => simp [hjobs hnone]
      | some n => simp [hjobs' (by simp [hnone]), hnone]
    · cases hnone : options.goPath with
      | none => simp [hgo hnone]
      | some go => simp [hgo' (by simp [hnone]), hnone]
  · rintro rfl
    refine ⟨⟨base, hbase, rfl, fun h => ?_, fun h => ?_, fun h => ?_⟩, fun h => ?_, fun h => ?_,
      fun h => ?_⟩
    · simp [override, h]
    · simp [override, h]
    · simp [override, h]
    · simp [override, h]
    · obtain ⟨n, hn⟩ := Option.ne_none_iff_exists'.1 h
      simp [override, hn]
    · obtain ⟨go, hgo⟩ := Option.ne_none_iff_exists'.1 h
      simp [override, hgo]

/-! ### Listings -/

/-- **What opening the source gives.** A listing is a file, which is opened and not yet read. An
executable is read, looked into and handed to the disassembler, whose output is the listing. -/
inductive Opens (libraries : Libraries) (options : ExtractOptions) (host : Host)
    (settings : Settings) : Except ExtractError Stream → Prop
  /-- The input cannot be opened. -/
  | unopened {error : IoError} {reported : SourceError}
      (answer : host.lookUp options.path = .error error)
      (reports : Unavailable options.path error reported) :
      Opens libraries options host settings (.error (.inputUnavailable reported))
  /-- A listing is opened. -/
  | listing {content : Stream} (dumpfile : options.dumpfile = true)
      (answer : host.lookUp options.path = .ok (.file content)) :
      Opens libraries options host settings (.ok content)
  /-- A directory is opened in place of a listing. It cannot be read. -/
  | directory (dumpfile : options.dumpfile = true)
      (answer : host.lookUp options.path = .ok .directory) :
      Opens libraries options host settings (.ok (.broken [] .isADirectory))
  /-- The executable is no file. -/
  | noFile (dumpfile : options.dumpfile = false)
      (answer : host.lookUp options.path = .ok .directory) :
      Opens libraries options host settings (.error (.inputUnavailable (.notFound options.path)))
  /-- The executable cannot be read to its end. -/
  | broken {bytes : List UInt8} {error : IoError} {reported : SourceError}
      (dumpfile : options.dumpfile = false)
      (answer : host.lookUp options.path = .ok (.file (.broken bytes error)))
      (reports : Unavailable options.path error reported) :
      Opens libraries options host settings (.error (.inputUnavailable reported))
  /-- The executable is linked dynamically. -/
  | dynamic {content : List UInt8} (dumpfile : options.dumpfile = false)
      (answer : host.Holds options.path content) (linked : libraries.isDynamic content = true) :
      Opens libraries options host settings
        (.error (.unsupportedBinaryKind (.dynamicallyLinked options.path)))
  /-- The disassembler cannot be started. -/
  | notStarted {content : List UInt8} {go : Path} {error : IoError}
      (dumpfile : options.dumpfile = false)
      (answer : host.Holds options.path content) (linked : libraries.isDynamic content = false)
      (toolchain : settings.Toolchain host go)
      (run : host.run go (Source.disassemblerArguments options.path) = .error error) :
      Opens libraries options host settings
        (.error (.inputUnavailable (.disassembler (Source.notStarted go error))))
  /-- The disassembler does not succeed. -/
  | failed {content : List UInt8} {go : Path} {completed : Completed}
      (dumpfile : options.dumpfile = false)
      (answer : host.Holds options.path content) (linked : libraries.isDynamic content = false)
      (toolchain : settings.Toolchain host go)
      (run : host.run go (Source.disassemblerArguments options.path) = .ok completed)
      (status : completed.status ≠ .code 0) :
      Opens libraries options host settings
        (.error (.inputUnavailable (.disassembler (Source.notDisassembled completed))))
  /-- The disassembler succeeds. -/
  | disassembled {content : List UInt8} {go : Path} {completed : Completed}
      (dumpfile : options.dumpfile = false) (answer : host.Holds options.path content)
      (linked : libraries.isDynamic content = false) (toolchain : settings.Toolchain host go)
      (run : host.run go (Source.disassemblerArguments options.path) = .ok completed)
      (status : completed.status = .code 0) :
      Opens libraries options host settings (.ok (.complete completed.stdout))

theorem isSuccess_iff {status : ExitStatus} : status.isSuccess = true ↔ status = .code 0 := by
  cases status <;> simp [ExitStatus.isSuccess]

/-- What opening the source comes to in an extraction. -/
def opened (libraries : Libraries) (options : ExtractOptions) (host : Host) (settings : Settings) :
    Except ExtractError Stream :=
  (options.source libraries host settings).opened.mapError ExtractError.ofSource

theorem ofSource_of_unavailable {path : Path} {error : IoError} {reported : SourceError}
    (h : Unavailable path error reported) :
    ExtractError.ofSource (.ofIo path error) = .inputUnavailable reported := by
  rw [unavailable_iff.1 h]
  cases h <;> rfl

theorem exists_unavailable (path : Path) (error : IoError) :
    ∃ reported, Unavailable path error reported :=
  ⟨_, unavailable_iff.2 rfl⟩

theorem opened_of_ok {stream : Stream}
    (h : (options.source libraries host settings).opened = .ok stream) :
    options.opened libraries host settings = .ok stream :=
  congrArg (Except.mapError ExtractError.ofSource) h

theorem opened_of_error {error : SourceError}
    (h : (options.source libraries host settings).opened = .error error) :
    options.opened libraries host settings = .error (.ofSource error) :=
  congrArg (Except.mapError ExtractError.ofSource) h

theorem opened_of_disassembled {listing : List UInt8} (hdump : options.dumpfile = false)
    (h : Source.openExecutableBy libraries.isDynamic host options.path (settings.goProgram host) =
      .ok listing) :
    options.opened libraries host settings = .ok (.complete listing) :=
  opened_of_ok (by simp [source, hdump, Source.executableBy, h])

theorem opened_of_refused {error : SourceError} (hdump : options.dumpfile = false)
    (h : Source.openExecutableBy libraries.isDynamic host options.path (settings.goProgram host) =
      .error error) :
    options.opened libraries host settings = .error (.ofSource error) :=
  opened_of_error (by simp [source, hdump, Source.executableBy, h])

/-- An executable that is linked statically is handed to the disassembler. -/
theorem openExecutableBy_of_static {isDynamic : List UInt8 → Bool} {path : Path}
    {content : List UInt8} (hholds : host.Holds path content) (hlinked : isDynamic content = false)
    (go : Path) :
    Source.openExecutableBy isDynamic host path go = Source.disassemble host path go := by
  rw [Host.Holds] at hholds
  simp [Source.openExecutableBy, hholds, hlinked]

/-- What the rules give is what opening the source comes to. -/
theorem Opens.opened_eq {result : Except ExtractError Stream}
    (h : Opens libraries options host settings result) :
    options.opened libraries host settings = result := by
  cases h with
  | unopened answer reports =>
    rw [← ofSource_of_unavailable reports]
    cases hdump : options.dumpfile with
    | true => exact opened_of_error (by simp [source, hdump, Source.dump, answer])
    | false => exact opened_of_refused hdump (by simp [Source.openExecutableBy, answer])
  | listing dumpfile answer =>
    exact opened_of_ok (by simp [source, dumpfile, Source.dump, answer, FileNode.stream])
  | directory dumpfile answer =>
    exact opened_of_ok (by simp [source, dumpfile, Source.dump, answer, FileNode.stream])
  | noFile dumpfile answer =>
    have hrefused (go : Path) : Source.openExecutableBy libraries.isDynamic host options.path go =
        .error (.notFound options.path) := by
      simp [Source.openExecutableBy, answer]
    exact opened_of_refused dumpfile (hrefused _)
  | broken dumpfile answer reports =>
    rw [← ofSource_of_unavailable reports]
    exact opened_of_refused dumpfile (by simp [Source.openExecutableBy, answer])
  | dynamic dumpfile answer linked =>
    have hrefused (go : Path) : Source.openExecutableBy libraries.isDynamic host options.path go =
        .error (.dynamicallyLinked options.path) := by
      rw [Host.Holds] at answer
      simp [Source.openExecutableBy, answer, linked]
    exact opened_of_refused dumpfile (hrefused _)
  | notStarted dumpfile answer linked toolchain run =>
    rw [← Settings.toolchain_iff.1 toolchain] at run ⊢
    have hrefused := openExecutableBy_of_static answer linked (settings.goProgram host)
    rw [Source.disassemble, run] at hrefused
    exact opened_of_refused dumpfile hrefused
  | failed dumpfile answer linked toolchain run status =>
    rw [← Settings.toolchain_iff.1 toolchain] at run
    have hrefused := openExecutableBy_of_static answer linked (settings.goProgram host)
    simp only [Source.disassemble, run, mt isSuccess_iff.1 status] at hrefused
    exact opened_of_refused dumpfile hrefused
  | disassembled dumpfile answer linked toolchain run status =>
    rw [← Settings.toolchain_iff.1 toolchain] at run
    have hopened := openExecutableBy_of_static answer linked (settings.goProgram host)
    simp only [Source.disassemble, run, isSuccess_iff.2 status, if_true] at hopened
    exact opened_of_disassembled dumpfile hopened

/-- The rules cover every answer of the host. -/
theorem exists_opens (libraries : Libraries) (options : ExtractOptions) (host : Host)
    (settings : Settings) : ∃ result, Opens libraries options host settings result := by
  have hgo := Settings.toolchain_iff.2 (rfl : settings.goProgram host = _)
  cases hanswer : host.lookUp options.path with
  | error error =>
    obtain ⟨reported, hreported⟩ := exists_unavailable options.path error
    exact ⟨_, .unopened hanswer hreported⟩
  | ok node =>
    cases hdump : options.dumpfile with
    | true =>
      cases node with
      | file content => exact ⟨_, .listing hdump hanswer⟩
      | directory => exact ⟨_, .directory hdump hanswer⟩
    | false =>
      match node with
      | .directory => exact ⟨_, .noFile hdump hanswer⟩
      | .file (.broken bytes error) =>
        obtain ⟨reported, hreported⟩ := exists_unavailable options.path error
        exact ⟨_, .broken hdump hanswer hreported⟩
      | .file (.complete content) =>
        cases hlinked : libraries.isDynamic content with
        | true => exact ⟨_, .dynamic hdump hanswer hlinked⟩
        | false =>
          cases hrun : host.run (settings.goProgram host)
              (Source.disassemblerArguments options.path) with
          | error error => exact ⟨_, .notStarted hdump hanswer hlinked hgo hrun⟩
          | ok completed =>
            by_cases hstatus : completed.status = .code 0
            · exact ⟨_, .disassembled hdump hanswer hlinked hgo hrun hstatus⟩
            · exact ⟨_, .failed hdump hanswer hlinked hgo hrun hstatus⟩

/-- **The source is opened by the rules.** -/
theorem opens_iff {result : Except ExtractError Stream} :
    Opens libraries options host settings result ↔
      options.opened libraries host settings = result := by
  constructor
  · exact Opens.opened_eq
  · rintro rfl
    obtain ⟨result, h⟩ := exists_opens libraries options host settings
    rw [h.opened_eq]
    exact h

/-- A listing in a file is opened by the rules, whatever reads settings and executables. -/
theorem opened_dump_iff (hdump : options.dumpfile = true) {result : Except ExtractError Stream} :
    (Source.dump host options.path).opened.mapError ExtractError.ofSource = result ↔
      Opens libraries options host settings result := by
  rw [opens_iff, opened, source, if_pos hdump]

/-- An executable is opened by the rules, where dynamic linking is told from its headers. -/
theorem opened_executable_iff (hdump : options.dumpfile = false)
    {result : Except ExtractError Stream} :
    (Source.executable host options.path (settings.goProgram host)).opened.mapError
        ExtractError.ofSource = result ↔
      Opens .standard options host settings result := by
  rw [opens_iff, opened, source, hdump]
  rfl

end ExtractOptions

end SyscallCensus
