import SyscallCensus.Proofs.Inputs
import SyscallCensus.Proofs.ReadBack
import SyscallCensus.Proofs.TemplateGrammar
import SyscallCensus.Proofs.Verdict

/-!
# The stages of the command

About `SPEC_FULL.md`, Section 10.8 (CLI), and Section 10.5: "a failed extraction writes nothing to
stdout".

The command goes through seven stages, and each may fail: the settings are loaded, the template is
read, the source is opened, the listing is read, the entry points are looked up, the graph is
walked, and for a document the input is digested. Any number of them may fail on one input. So the
faults of a stage are said by rules that do not look at the stages before it (`Stage.Fault`), in
terms of the answers of the host (`Proofs.Inputs`). The fault of the first stage that has one
(`FirstFault`) is what the command reports, having written nothing.

Where no stage has a fault the command writes the list of calls once (`Rendering`): a text that is
read back as the report with all of its members and calls (`Proofs.ReadBack`), or what the tokens of
the template mean for each call (`Proofs.TemplateGrammar`), or plain lines.

What the rules give is computed by `Stage.fault?`, in whose terms the command is followed. The
faults of the four stages in the middle are those of the extraction (`findSome?_extraction`), whose
verdict is known under every schedule (`Proofs.Verdict`). For the last stage to fail behind the
others the input has to be lost in between, so the host that is asked for the digest is another one
than the host at the beginning.
-/

namespace SyscallCensus

/-- What could be read. -/
def Stream.readable : Stream → List UInt8
  | .complete bytes => bytes
  | .broken bytes _ => bytes

namespace ExtractOptions

variable {libraries : Libraries} {options : ExtractOptions} {host later : Host} {now : String}
  {stop : Bool} {settings : Settings} {extract : Settings → Source → Extraction}
  {extraction : Extraction} {outcome : CommandOutcome}

/-! ### Faults -/

/-- Where a command may fail. -/
inductive Stage where
  /-- The settings are loaded. -/
  | settings
  /-- The template is read. -/
  | template
  /-- The source is opened. -/
  | opening
  /-- The listing is read to its end. -/
  | reading
  /-- The entry points are looked up. -/
  | entryPoints
  /-- The graph is walked. -/
  | walk
  /-- The input is digested. -/
  | digest
  deriving DecidableEq, Repr

/-- The stages of an extraction, in their order. -/
def Stage.ofExtraction : List Stage := [.opening, .reading, .entryPoints, .walk]

/-- The stages in their order. -/
def Stage.all : List Stage := [.settings, .template] ++ Stage.ofExtraction ++ [.digest]

/-- **The faults of the stages**, whatever other stages do. The walk is at fault if the flag was up
at the end of `extraction`, the digest if `later` cannot read an input that a document is made
of. -/
inductive Stage.Fault (libraries : Libraries) (options : ExtractOptions) (host later : Host)
    (extraction : Extraction) : Stage → CommandError → Prop
  /-- The settings file gives no settings. -/
  | settings {path : Path} {error : Settings.LoadError} (given : options.config = some path)
      (fails : Settings.Loads libraries host path (.error error)) :
      Stage.Fault libraries options host later extraction .settings (.settings error)
  /-- The template cannot be read. -/
  | template {text : String} {error : TemplateError} (given : options.template = some text)
      (fails : Template.parse text.toList = .error error) :
      Stage.Fault libraries options host later extraction .template (.template error)
  /-- The source cannot be opened. -/
  | opening {settings : Settings} {error : ExtractError}
      (inForce : InForce libraries options host settings)
      (fails : Opens libraries options host settings (.error error)) :
      Stage.Fault libraries options host later extraction .opening (.extraction options.path error)
  /-- The listing breaks off. -/
  | reading {settings : Settings} {bytes : List UInt8} {error : IoError} {reported : SourceError}
      (inForce : InForce libraries options host settings)
      (opens : Opens libraries options host settings (.ok (.broken bytes error)))
      (reports : Unavailable options.path error reported) :
      Stage.Fault libraries options host later extraction .reading
        (.extraction options.path (.inputUnavailable reported))
  /-- No entry point has a function in what could be read. -/
  | entryPoints {settings : Settings} {stream : Stream}
      (inForce : InForce libraries options host settings)
      (opens : Opens libraries options host settings (.ok stream))
      (absent : ∀ name ∈ settings.entryPoints,
        (Listing.build .linuxX64 settings.wrappers stream.readable).table.get? name = none) :
      Stage.Fault libraries options host later extraction .entryPoints
        (.extraction options.path (.unsupportedBinaryKind (.noEntryPoint settings.entryPoints)))
  /-- The walk was asked to stop. -/
  | walk (raised : extraction.stop = true) :
      Stage.Fault libraries options host later extraction .walk
        (.extraction options.path (.cancelled extraction.delivered.length))
  /-- The input of a document cannot be read once more. -/
  | digest {error : IoError} (json : options.json = true)
      (fails : later.Unreadable options.path error) :
      Stage.Fault libraries options host later extraction .digest (.hashing options.path error)

/-- **The fault that the command reports**: that of the first stage that has one. -/
def FirstFault (libraries : Libraries) (options : ExtractOptions) (host later : Host)
    (extraction : Extraction) (error : CommandError) : Prop :=
  ∃ before stage after, Stage.all = before ++ stage :: after ∧
    Stage.Fault libraries options host later extraction stage error ∧
    ∀ earlier ∈ before, ∀ other, ¬ Stage.Fault libraries options host later extraction earlier other

/-- No stage has a fault. -/
def Faultless (libraries : Libraries) (options : ExtractOptions) (host later : Host)
    (extraction : Extraction) : Prop :=
  ∀ stage error, ¬ Stage.Fault libraries options host later extraction stage error

/-! ### Faults computed -/

/-- The source under the settings in force. -/
def sourceInForce (libraries : Libraries) (options : ExtractOptions) (host : Host) : Source :=
  options.source libraries host (options.inForce libraries host)

/-- What opening the source comes to under the settings in force. -/
def openedInForce (libraries : Libraries) (options : ExtractOptions) (host : Host) :
    Except ExtractError Stream :=
  options.opened libraries host (options.inForce libraries host)

theorem source_path_and_kind (libraries : Libraries) (options : ExtractOptions) (host : Host)
    (settings : Settings) :
    (options.source libraries host settings).path = options.path ∧
      (options.source libraries host settings).kind =
        if options.dumpfile then .dump else .executable := by
  unfold source Source.executableBy
  split
  · exact ⟨rfl, rfl⟩
  · split <;> exact ⟨rfl, rfl⟩

/-- The fault of a stage. -/
def Stage.fault? (libraries : Libraries) (options : ExtractOptions) (host later : Host)
    (extraction : Extraction) : Stage → Option CommandError
  | .settings =>
    match options.settings libraries host with
    | .error e => some (.settings e)
    | .ok _ => none
  | .template =>
    match options.parsedTemplate with
    | .error e => some (.template e)
    | .ok _ => none
  | .opening =>
    match options.openedInForce libraries host with
    | .error e => some (.extraction options.path e)
    | .ok _ => none
  | .reading =>
    match options.openedInForce libraries host with
    | .ok (.broken _ e) => some (.extraction options.path (.ofSource (.ofIo options.path e)))
    | _ => none
  | .entryPoints =>
    match options.openedInForce libraries host with
    | .ok stream =>
      let settings := options.inForce libraries host
      let table := (Listing.build .linuxX64 settings.wrappers stream.readable).table
      if settings.entryPoints.any table.contains then none
      else some (.extraction options.path
        (.unsupportedBinaryKind (.noEntryPoint settings.entryPoints)))
    | .error _ => none
  | .walk => (Extraction.stopFault? extraction).map (.extraction options.path)
  | .digest =>
    match options.json, later.read options.path with
    | true, .error e => some (.hashing options.path e)
    | _, _ => none

/-- The first fault. -/
def firstFault? (libraries : Libraries) (options : ExtractOptions) (host later : Host)
    (extraction : Extraction) : Option CommandError :=
  Stage.all.findSome? (Stage.fault? libraries options host later extraction)

theorem settings_eq_error_iff {error : Settings.LoadError} :
    options.settings libraries host = .error error ↔
      ∃ path, options.config = some path ∧ Settings.Loads libraries host path (.error error) := by
  unfold ExtractOptions.settings
  cases options.config with
  | none => simp
  | some path =>
    simp only [Option.some.injEq, exists_eq_left', Settings.loads_iff]
    cases Settings.loadBy libraries.parseSettings? host path <;> simp [Except.map]

theorem parsedTemplate_eq_error_iff {error : TemplateError} :
    options.parsedTemplate = .error error ↔
      ∃ text, options.template = some text ∧ Template.parse text.toList = .error error := by
  unfold parsedTemplate
  cases options.template with
  | none => simp
  | some text =>
    simp only [Option.some.injEq, exists_eq_left']
    cases Template.parse text.toList <;> simp [Except.map]

theorem any_contains_eq_false_iff {names : List String} {table : SymbolTable} :
    names.any table.contains = false ↔ ∀ name ∈ names, table.get? name = none := by
  simp [SymbolTable.contains]

theorem Stage.Fault.fault?_eq {stage : Stage} {error : CommandError}
    (h : Stage.Fault libraries options host later extraction stage error) :
    stage.fault? libraries options host later extraction = some error := by
  cases h with
  | settings given fails =>
    rw [Stage.fault?, settings_eq_error_iff.2 ⟨_, given, fails⟩]
  | template given fails =>
    rw [Stage.fault?, parsedTemplate_eq_error_iff.2 ⟨_, given, fails⟩]
  | opening inForce fails =>
    obtain rfl := inForce_iff.1 inForce
    rw [Stage.fault?, openedInForce, opens_iff.1 fails]
  | reading inForce opens reports =>
    obtain rfl := inForce_iff.1 inForce
    simp only [Stage.fault?, openedInForce, opens_iff.1 opens, ofSource_of_unavailable reports]
  | entryPoints inForce opens absent =>
    obtain rfl := inForce_iff.1 inForce
    simp only [Stage.fault?, openedInForce, opens_iff.1 opens, any_contains_eq_false_iff.2 absent]
    rfl
  | walk raised =>
    rw [Stage.fault?, Extraction.stopFault?, if_pos raised]
    rfl
  | digest json fails =>
    rw [Stage.fault?, json, Host.read_eq_error_iff.2 fails]

theorem Stage.fault_of_fault? {stage : Stage} {error : CommandError}
    (h : stage.fault? libraries options host later extraction = some error) :
    Stage.Fault libraries options host later extraction stage error := by
  have hinForce : InForce libraries options host (options.inForce libraries host) :=
    inForce_iff.2 rfl
  cases stage with
  | settings =>
    rw [Stage.fault?] at h
    split at h <;> cases h
    rename_i unloaded hsettings
    obtain ⟨path, hpath, hfails⟩ := settings_eq_error_iff.1 hsettings
    exact .settings hpath hfails
  | template =>
    rw [Stage.fault?] at h
    split at h <;> cases h
    rename_i unread htemplate
    obtain ⟨text, htext, hfails⟩ := parsedTemplate_eq_error_iff.1 htemplate
    exact .template htext hfails
  | opening =>
    rw [Stage.fault?] at h
    split at h <;> cases h
    rename_i unopened hopened
    exact .opening hinForce (opens_iff.2 hopened)
  | reading =>
    rw [Stage.fault?] at h
    split at h <;> cases h
    rename_i bytes unread hopened
    obtain ⟨reported, hreported⟩ := exists_unavailable options.path unread
    rw [ofSource_of_unavailable hreported]
    exact .reading hinForce (opens_iff.2 hopened) hreported
  | entryPoints =>
    rw [Stage.fault?] at h
    split at h
    · rename_i stream hopened
      rw [Option.ite_none_left_eq_some, Bool.not_eq_true, any_contains_eq_false_iff] at h
      obtain ⟨habsent, herror⟩ := h
      cases herror
      exact .entryPoints hinForce (opens_iff.2 hopened) habsent
    · cases h
  | walk =>
    rw [Stage.fault?, Extraction.stopFault?] at h
    split at h <;> cases h
    rename_i hraised
    exact .walk hraised
  | digest =>
    rw [Stage.fault?] at h
    split at h <;> cases h
    rename_i unread hjson hread
    exact .digest hjson (Host.read_eq_error_iff.1 hread)

/-- **The faults that are computed are those of the rules.** -/
theorem Stage.fault?_eq_some_iff {stage : Stage} {error : CommandError} :
    stage.fault? libraries options host later extraction = some error ↔
      Stage.Fault libraries options host later extraction stage error :=
  ⟨Stage.fault_of_fault?, Stage.Fault.fault?_eq⟩

theorem Stage.fault?_eq_none_iff {stage : Stage} :
    stage.fault? libraries options host later extraction = none ↔
      ∀ error, ¬ Stage.Fault libraries options host later extraction stage error := by
  rw [Option.eq_none_iff_forall_ne_some]
  exact forall_congr' fun error => not_congr Stage.fault?_eq_some_iff

theorem firstFault?_eq_some_iff {error : CommandError} :
    firstFault? libraries options host later extraction = some error ↔
      FirstFault libraries options host later extraction error := by
  rw [firstFault?, List.findSome?_eq_some_iff, FirstFault]
  simp only [Stage.fault?_eq_some_iff, Stage.fault?_eq_none_iff]

theorem Stage.mem_all (stage : Stage) : stage ∈ Stage.all := by
  cases stage <;> decide

theorem firstFault?_eq_none_iff :
    firstFault? libraries options host later extraction = none ↔
      Faultless libraries options host later extraction := by
  rw [firstFault?, List.findSome?_eq_none_iff, Faultless]
  constructor
  · intro h stage
    exact Stage.fault?_eq_none_iff.1 (h stage stage.mem_all)
  · intro h stage _
    exact Stage.fault?_eq_none_iff.2 (h stage)

/-- The faults of the stages of an extraction, in the order of the stages, are the faults of the
extraction. -/
theorem findSome?_extraction :
    Stage.ofExtraction.findSome? (Stage.fault? libraries options host later extraction) =
      (Extraction.firstFault? (options.inForce libraries host)
        (options.sourceInForce libraries host) extraction).map (.extraction options.path) := by
  have hpath : (options.sourceInForce libraries host).path = options.path :=
    (source_path_and_kind libraries options host _).1
  rw [Extraction.firstFault?_eq]
  cases hopened : (options.sourceInForce libraries host).opened with
  | error unopened =>
    have hinForce : options.openedInForce libraries host = .error (.ofSource unopened) :=
      opened_of_error hopened
    rw [Extraction.earlyFault?_of_unopened hopened]
    simp [Stage.ofExtraction, Stage.fault?, hinForce]
  | ok stream =>
    have hinForce : options.openedInForce libraries host = .ok stream :=
      opened_of_ok hopened
    cases stream with
    | broken bytes unread =>
      rw [Extraction.earlyFault?_of_broken hopened, hpath]
      simp [Stage.ofExtraction, Stage.fault?, hinForce]
    | complete bytes =>
      have hentry : Stage.entryPoints.fault? libraries options host later extraction =
          (Extraction.entryFault? (options.inForce libraries host)
            (options.sourceInForce libraries host)).map (.extraction options.path) := by
        simp only [Stage.fault?, hinForce, Extraction.entryFault?, Extraction.readable, hopened,
          Stream.readable]
        split <;> rename_i hany <;> simp [hany]
      rw [Extraction.earlyFault?_of_complete hopened]
      simp only [Stage.ofExtraction, List.findSome?_cons, List.findSome?_nil, hentry]
      simp only [Stage.fault?, hinForce]
      cases Extraction.entryFault? (options.inForce libraries host)
          (options.sourceInForce libraries host) <;>
        cases Extraction.stopFault? extraction <;> rfl

/-- The first fault is one of the settings, of the template, of the extraction or of the digest, in
this order. -/
theorem firstFault?_eq :
    firstFault? libraries options host later extraction =
      (Stage.settings.fault? libraries options host later extraction).or
        ((Stage.template.fault? libraries options host later extraction).or
          (((Extraction.firstFault? (options.inForce libraries host)
            (options.sourceInForce libraries host) extraction).map (.extraction options.path)).or
              (Stage.digest.fault? libraries options host later extraction))) := by
  rw [firstFault?, Stage.all, List.findSome?_append, List.findSome?_append, findSome?_extraction]
  simp only [List.findSome?_cons, List.findSome?_nil]
  cases Stage.settings.fault? libraries options host later extraction <;>
    cases Stage.template.fault? libraries options host later extraction <;>
    cases Stage.digest.fault? libraries options host later extraction <;> simp

theorem no_fault_of_firstFault? (h : firstFault? libraries options host later extraction = none) :
    Extraction.firstFault? (options.inForce libraries host) (options.sourceInForce libraries host)
      extraction = none := by
  rw [firstFault?_eq] at h
  simp only [Option.or_eq_none_iff, Option.map_eq_none_iff] at h
  exact h.2.2.1

/-! ### Renderings -/

/-- **What is written for a list of calls**: a document where one is wanted, whether there is a
template or not; else what the template makes of the list; else plain lines. -/
inductive Rendering (libraries : Libraries) (options : ExtractOptions) (later : Host) (now : String)
    (calls : List SystemCall) : String → Prop
  /-- A text that is read back as a report on the input, with all calls in their order. -/
  | document {text : String} {content : List UInt8} (json : options.json = true)
      (input : later.Holds options.path content)
      (read : Json.parse? (Text.Utf8.encode text) = some (.object [
        (some "source", .string (some options.path.text)),
        (some "kind", .string (some (if options.dumpfile then "dump" else "executable"))),
        (some "sha256", .string (some (libraries.digest content))),
        (some "generated_at", .string (some now)),
        (some "syscalls", .array (calls.map fun call => .object [
          (some "id", .number (.natural call.id.toNat)),
          (some "name", .string (some call.name))]))])) :
      Rendering libraries options later now calls text
  /-- What the tokens of the template mean, for each call in turn. -/
  | template {text : String} {wording : Template.Wording} (json : options.json = false)
      (given : options.template = some text) (spelled : text.toList = wording.spelling) :
      Rendering libraries options later now calls (String.join (calls.map wording.meaning))
  /-- The plain text of no call. -/
  | nothing (json : options.json = false) (given : options.template = none) (empty : calls = []) :
      Rendering libraries options later now calls "no system calls were found\n"
  /-- The number of the calls, and a line for each. -/
  | plain (json : options.json = false) (given : options.template = none) (nonempty : calls ≠ []) :
      Rendering libraries options later now calls
        (toString calls.length ++ " system calls found:\n" ++ String.join (calls.map fun call =>
          "    " ++ call.name ++ " (" ++ toString call.id.toNat ++ ")\n"))

theorem parsedTemplate_eq_ok {template : Option Template}
    (h : options.parsedTemplate = .ok template) :
    (options.template = none ∧ template = none) ∨ ∃ text parsed, options.template = some text ∧
      Template.parse text.toList = .ok parsed ∧ template = some parsed := by
  unfold parsedTemplate at h
  split at h
  · rename_i text hgiven
    cases hparsed : Template.parse text.toList with
    | error e =>
      rw [hparsed] at h
      cases h
    | ok parsed =>
      rw [hparsed] at h
      exact .inr ⟨text, parsed, hgiven, hparsed, (Except.ok.inj h).symm⟩
  · rename_i hgiven
    exact .inl ⟨hgiven, (Except.ok.inj h).symm⟩

/-- A result cannot be rendered if the input cannot be digested. -/
theorem renderResult_of_fault {template : Option Template} {kind : SourceKind}
    {calls : List SystemCall} {error : CommandError}
    (h : Stage.digest.fault? libraries options host later extraction = some error) :
    renderResult libraries options later now template kind calls = .error error := by
  rw [Stage.fault?] at h
  split at h <;> cases h
  rename_i unread hjson hread
  simp [renderResult, digestFile, hjson, hread, Except.map]

theorem rendering_document {content : List UInt8} {calls : List SystemCall}
    (hjson : options.json = true) (hread : later.read options.path = .ok content) :
    Rendering libraries options later now calls (Report.lines (Report.document ⟨options.path.text,
      if options.dumpfile then .dump else .executable, libraries.digest content, now, calls⟩)) := by
  refine .document hjson (Host.read_eq_ok_iff.1 hread) ?_
  rw [Report.parse?_report]
  cases options.dumpfile <;> rfl

theorem rendering_template {text : String} {template : Template} {calls : List SystemCall}
    (hjson : options.json = false) (hgiven : options.template = some text)
    (hparsed : Template.parse text.toList = .ok template) :
    Rendering libraries options later now calls (template.render calls) := by
  obtain ⟨wording, hspelled, hrender⟩ := Template.exists_wording_render hparsed
  rw [hrender]
  exact .template hjson hgiven hspelled.symm

theorem rendering_plain {calls : List SystemCall} (hjson : options.json = false)
    (hgiven : options.template = none) :
    Rendering libraries options later now calls (Report.text calls) := by
  by_cases hcalls : calls = []
  · subst hcalls
    exact .nothing hjson hgiven rfl
  · rw [Report.text, if_neg (by simpa using hcalls)]
    exact .plain hjson hgiven hcalls

/-- In all other cases it is rendered, in the form that the options ask for. -/
theorem exists_rendering {template : Option Template} {calls : List SystemCall}
    (htemplate : options.parsedTemplate = .ok template)
    (h : Stage.digest.fault? libraries options host later extraction = none) :
    ∃ text, renderResult libraries options later now template
        (options.source libraries host settings).kind calls = .ok text ∧
      Rendering libraries options later now calls text := by
  rw [(source_path_and_kind libraries options host settings).2]
  cases hjson : options.json with
  | true =>
    cases hread : later.read options.path with
    | error e => simp [Stage.fault?, hjson, hread] at h
    | ok content =>
      refine ⟨_, ?_, rendering_document hjson hread⟩
      simp [renderResult, digestFile, hjson, hread, Except.map]
  | false =>
    obtain ⟨hgiven, rfl⟩ | ⟨text, parsed, hgiven, hparsed, rfl⟩ := parsedTemplate_eq_ok htemplate
    · exact ⟨_, by simp [renderResult, hjson], rendering_plain hjson hgiven⟩
    · exact ⟨_, by simp [renderResult, hjson], rendering_template hjson hgiven hparsed⟩

/-! ### Commands -/

theorem extractCommandBy_of_unloaded {error : Settings.LoadError}
    (hsettings : options.settings libraries host = .error error) :
    extractCommandBy libraries extract options host later now = .failed (.settings error) #[] := by
  rw [extractCommandBy, hsettings]

/-- A template that cannot be read is reported, and `extract` is not asked for anything. -/
theorem extractCommandBy_of_unread {error : TemplateError}
    (hsettings : options.settings libraries host = .ok settings)
    (htemplate : options.parsedTemplate = .error error) :
    extractCommandBy libraries extract options host later now = .failed (.template error) #[] := by
  rw [extractCommandBy, hsettings]
  simp only [htemplate]

/-- With settings and a template, an extraction that fails is reported. -/
theorem extractCommandBy_of_refused {template : Option Template} {error : ExtractError}
    (hsettings : options.settings libraries host = .ok settings)
    (htemplate : options.parsedTemplate = .ok template)
    (hextraction :
      extract (options.inForce libraries host) (options.sourceInForce libraries host) = extraction)
    (hcalls : extraction.calls = .error error) :
    ∃ log, extractCommandBy libraries extract options host later now =
      .failed (.extraction options.path error) log := by
  rw [sourceInForce, inForce_of_ok hsettings] at hextraction
  rw [extractCommandBy, hsettings]
  simp only [htemplate, hextraction, hcalls]
  exact ⟨_, rfl⟩

theorem extractCommandBy_of_extracted {template : Option Template} {calls : List SystemCall}
    (hsettings : options.settings libraries host = .ok settings)
    (htemplate : options.parsedTemplate = .ok template)
    (hextraction :
      extract (options.inForce libraries host) (options.sourceInForce libraries host) = extraction)
    (hcalls : extraction.calls = .ok calls) :
    ∃ log, extractCommandBy libraries extract options host later now =
      match renderResult libraries options later now template
        (options.sourceInForce libraries host).kind calls with
      | .error e => .failed e log
      | .ok text => ⟨.ok (), text, log⟩ := by
  rw [sourceInForce, inForce_of_ok hsettings] at hextraction ⊢
  rw [extractCommandBy, hsettings]
  simp only [htemplate, hextraction, hcalls]
  exact ⟨_, rfl⟩

/-- **A command under any schedule**: its extraction is one under any schedule, and the host may
become `later` before the input is digested. -/
def Occurs (libraries : Libraries) (options : ExtractOptions) (host later : Host) (now : String)
    (stop : Bool) (extraction : Extraction) (outcome : CommandOutcome) : Prop :=
  ∃ extract : Settings → Source → Extraction,
    (∀ settings source, Extraction.Occurs settings source stop (extract settings source)) ∧
    extract (options.inForce libraries host) (options.sourceInForce libraries host) = extraction ∧
    extractCommandBy libraries extract options host later now = outcome

/-- The extraction of `extractCommand`. -/
def extracted (options : ExtractOptions) (host : Host) (stop : Bool) : Extraction :=
  .ofSource (options.inForce .standard host) (options.sourceInForce .standard host) stop

/-- What `extractCommand` computes is a command on a host that stays as it is. -/
theorem occurs_extractCommand (options : ExtractOptions) (host : Host) (now : String)
    (stop : Bool) : options.Occurs .standard host host now stop (options.extracted host stop)
      (extractCommand options host now stop) :=
  ⟨_, fun settings source => Extraction.occurs_ofSource settings source stop, rfl, rfl⟩

theorem Occurs.extraction_occurs
    (h : options.Occurs libraries host later now stop extraction outcome) :
    Extraction.Occurs (options.inForce libraries host) (options.sourceInForce libraries host) stop
      extraction := by
  obtain ⟨extract, hextract, rfl, -⟩ := h
  exact hextract _ _

/-- **A command fails with its first fault, having written nothing, or renders what was handed
over.** -/
theorem Occurs.failed_or_rendered
    (h : options.Occurs libraries host later now stop extraction outcome) :
    (∃ error log, firstFault? libraries options host later extraction = some error ∧
      outcome = .failed error log) ∨
    firstFault? libraries options host later extraction = none ∧ ∃ text log,
      outcome = ⟨.ok (), text, log⟩ ∧
      Rendering libraries options later now extraction.delivered text := by
  have hoccurs := h.extraction_occurs
  obtain ⟨extract, -, hextraction, rfl⟩ := h
  rw [firstFault?_eq]
  cases hsettings : options.settings libraries host with
  | error unloaded =>
    exact .inl ⟨_, _, by simp [Stage.fault?, hsettings], extractCommandBy_of_unloaded hsettings⟩
  | ok settings =>
    cases htemplate : options.parsedTemplate with
    | error unread =>
      exact .inl ⟨_, _, by simp [Stage.fault?, hsettings, htemplate],
        extractCommandBy_of_unread hsettings htemplate⟩
    | ok template =>
      have hloaded : Stage.settings.fault? libraries options host later extraction = none := by
        simp [Stage.fault?, hsettings]
      have hread : Stage.template.fault? libraries options host later extraction = none := by
        simp [Stage.fault?, htemplate]
      rw [hloaded, hread, Option.none_or, Option.none_or]
      cases hfault : Extraction.firstFault? (options.inForce libraries host)
          (options.sourceInForce libraries host) extraction with
      | some error =>
        have hcalls := hoccurs.calls_of_fault hfault
        obtain ⟨log, hcommand⟩ :=
          extractCommandBy_of_refused hsettings htemplate hextraction hcalls
        exact .inl ⟨_, log, rfl, hcommand⟩
      | none =>
        have hcalls := hoccurs.calls_of_no_fault hfault
        obtain ⟨log, hcommand⟩ :=
          extractCommandBy_of_extracted hsettings htemplate hextraction hcalls
        rw [hcommand, Option.map_none, Option.none_or]
        -- The calls are all there, so that only the digest can still be missing.
        cases hdigest : Stage.digest.fault? libraries options host later extraction with
        | some error =>
          rw [renderResult_of_fault hdigest]
          exact .inl ⟨_, log, rfl, rfl⟩
        | none =>
          obtain ⟨text, htext, hrendering⟩ := exists_rendering htemplate hdigest
          rw [sourceInForce, htext]
          exact .inr ⟨rfl, text, log, rfl, hrendering⟩

/-- A command with a fault fails with the first one, and has written nothing. -/
theorem Occurs.result_of_fault
    (h : options.Occurs libraries host later now stop extraction outcome) {error : CommandError}
    (hfault : FirstFault libraries options host later extraction error) :
    outcome.result = .error error ∧ outcome.written = "" := by
  rw [← firstFault?_eq_some_iff] at hfault
  obtain ⟨first, log, hfirst, rfl⟩ | ⟨hnone, -⟩ := h.failed_or_rendered
  · rw [hfirst, Option.some.injEq] at hfault
    rw [← hfault]
    exact ⟨rfl, rfl⟩
  · rw [hnone] at hfault
    cases hfault

/-- A command without a fault succeeds, and has written a rendering of what was handed over. -/
theorem Occurs.rendering_of_faultless
    (h : options.Occurs libraries host later now stop extraction outcome)
    (hfault : Faultless libraries options host later extraction) :
    outcome.result = .ok () ∧
      Rendering libraries options later now extraction.delivered outcome.written := by
  rw [← firstFault?_eq_none_iff] at hfault
  obtain ⟨first, log, hfirst, -⟩ | ⟨-, text, log, rfl, hrendering⟩ := h.failed_or_rendered
  · rw [hfirst] at hfault
    cases hfault
  · exact ⟨rfl, hrendering⟩

/-- Without a fault there is a whole listing under the settings in force. -/
theorem exists_listing_of_faultless (h : Faultless libraries options host later extraction) :
    ∃ settings bytes, InForce libraries options host settings ∧
      Opens libraries options host settings (.ok (.complete bytes)) ∧
      options.inForce libraries host = settings ∧
      (options.sourceInForce libraries host).opened = .ok (.complete bytes) := by
  have hinForce : InForce libraries options host (options.inForce libraries host) :=
    inForce_iff.2 rfl
  obtain ⟨result, hopens⟩ := exists_opens libraries options host (options.inForce libraries host)
  match result with
  | .error error => exact absurd (.opening hinForce hopens) (h .opening _)
  | .ok (.broken bytes error) =>
    obtain ⟨reported, hreported⟩ := exists_unavailable options.path error
    exact absurd (.reading hinForce hopens hreported) (h .reading _)
  | .ok (.complete bytes) =>
    refine ⟨_, bytes, hinForce, hopens, rfl, ?_⟩
    have hopened := opens_iff.1 hopens
    rw [opened] at hopened
    rw [sourceInForce]
    cases hsource : (options.source libraries host (options.inForce libraries host)).opened with
    | error unopened =>
      rw [hsource] at hopened
      cases hopened
    | ok stream =>
      rw [hsource] at hopened
      exact congrArg Except.ok (Except.ok.inj hopened)

/-- What is handed over in a command without a fault is the whole result. -/
theorem Occurs.delivered_of_faultless
    (h : options.Occurs libraries host later now stop extraction outcome)
    (hfault : Faultless libraries options host later extraction) :
    (extraction.delivered.map (·.id)).Nodup ∧ ∃ settings bytes,
      InForce libraries options host settings ∧
      Opens libraries options host settings (.ok (.complete bytes)) ∧
      ∀ call, call ∈ extraction.delivered ↔
        call.name = (Registry.linuxX64.name? call.id).getD "" ∧
        (Listing.build .linuxX64 settings.wrappers bytes).table.Uses settings.entryPoints
          call.id := by
  have hoccurs := h.extraction_occurs
  have hextraction := no_fault_of_firstFault? (firstFault?_eq_none_iff.2 hfault)
  obtain ⟨stats, -, -, hcalls⟩ := hoccurs.ok_of_no_fault hextraction
  obtain ⟨settings, bytes, hinForce, hopens, rfl, hopened⟩ := exists_listing_of_faultless hfault
  rw [Extraction.readable, hopened] at hcalls
  exact ⟨hoccurs.nodup_ids (hoccurs.calls_of_no_fault hextraction), _, bytes, hinForce,
    hopens, hcalls⟩

/-- The walk of `extractCommand` is at fault exactly if the flag is up at the beginning, and then
has handed nothing over. -/
theorem walk_fault_extracted {error : CommandError} :
    Stage.Fault .standard options host later (options.extracted host stop) .walk error ↔
      stop = true ∧ error = .extraction options.path (.cancelled 0) := by
  rw [← Stage.fault?_eq_some_iff, Stage.fault?, Extraction.stopFault?, extracted,
    Extraction.stop_ofSource]
  cases stop with
  | false => simp
  | true =>
    have hraised := Extraction.occurs_ofSource (options.inForce .standard host)
      (options.sourceInForce .standard host) true
    rw [hraised.raised.1]
    simp [eq_comm]

/-- A template is at fault exactly if it is no sequence of tokens. -/
theorem template_fault_iff :
    (∃ error, Stage.Fault libraries options host later extraction .template error) ↔
      ∃ text, options.template = some text ∧
        ∀ wording : Template.Wording, text.toList ≠ wording.spelling := by
  constructor
  · rintro ⟨error, h⟩
    cases h with
    | template given fails =>
      refine ⟨_, given, fun wording hspelled => ?_⟩
      rw [hspelled, wording.parse_spelling] at fails
      cases fails
  · rintro ⟨text, hgiven, hnone⟩
    cases hparse : Template.parse text.toList with
    | error error => exact ⟨_, .template hgiven hparse⟩
    | ok template =>
      obtain ⟨wording, hspelled, -⟩ := Template.exists_wording_of_parse hparse
      exact absurd hspelled.symm (hnone wording)

/-- The settings depend on the host only through the settings file. -/
theorem settings_congr {other : Host}
    (h : ∀ path, options.config = some path → other.lookUp path = host.lookUp path) :
    options.settings libraries other = options.settings libraries host := by
  unfold ExtractOptions.settings
  cases hconfig : options.config with
  | none => rfl
  | some path => simp only [Settings.loadBy, Host.read, h path hconfig]

/-- Where the settings can be had and the template cannot, that is all that matters. -/
theorem extractCommandBy_of_template_fault {error : CommandError} {other : Host}
    (hsettings : ∀ unloaded,
      ¬ Stage.Fault libraries options host later extraction .settings unloaded)
    (htemplate : Stage.Fault libraries options host later extraction .template error)
    (hother : ∀ path, options.config = some path → other.lookUp path = host.lookUp path) :
    extractCommandBy libraries extract options other later now = .failed error #[] := by
  cases htemplate with
  | template given fails =>
    have hread := parsedTemplate_eq_error_iff.2 ⟨_, given, fails⟩
    rw [← Stage.fault?_eq_none_iff, Stage.fault?, ← settings_congr hother] at hsettings
    split at hsettings
    · cases hsettings
    · rename_i settings hloaded
      exact extractCommandBy_of_unread hloaded hread

/-- **The command writes all or nothing and reports the first stage that fails**, for all options,
on every host, whatever reads the settings files, looks into the executables and digests the input,
whatever the host becomes before the input is digested, whatever the flag is at the beginning and
whenever it is raised.

If a stage has a fault, the command fails with the fault of the first one in their order, and has
written nothing. If no stage has one it succeeds, and has written one rendering of all calls that
the entry points lead to in the listing, each with its label and none twice. A template is at fault
if it is no sequence of tokens. If it is, and the settings can be had, the outcome is the same
whatever `extract` does and whatever the host has at other paths than that of the settings file,
also where a document is wanted; and nothing is in the log.

What `extractCommand` computes is such a command. There the flag stays as it is, so that the walk is
at fault exactly if the flag is up at the beginning. -/
theorem command_reports_first_fault (options : ExtractOptions) (host : Host) (now : String)
    (stop : Bool) :
    options.Occurs .standard host host now stop (options.extracted host stop)
      (extractCommand options host now stop) ∧
    (∀ error, Stage.Fault .standard options host host (options.extracted host stop) .walk error ↔
      stop = true ∧ error = .extraction options.path (.cancelled 0)) ∧
    ∀ libraries later extraction outcome,
      options.Occurs libraries host later now stop extraction outcome →
      ((∃ error, FirstFault libraries options host later extraction error) ∨
        Faultless libraries options host later extraction) ∧
      (∀ error, FirstFault libraries options host later extraction error →
        outcome.result = .error error ∧ outcome.written = "") ∧
      (Faultless libraries options host later extraction →
        outcome.result = .ok () ∧
        Rendering libraries options later now extraction.delivered outcome.written ∧
        (extraction.delivered.map (·.id)).Nodup ∧ ∃ settings bytes,
          InForce libraries options host settings ∧
          Opens libraries options host settings (.ok (.complete bytes)) ∧
          ∀ call, call ∈ extraction.delivered ↔
            call.name = (Registry.linuxX64.name? call.id).getD "" ∧
            (Listing.build .linuxX64 settings.wrappers bytes).table.Uses settings.entryPoints
              call.id) ∧
      ((∃ error, Stage.Fault libraries options host later extraction .template error) ↔
        ∃ text, options.template = some text ∧
          ∀ wording : Template.Wording, text.toList ≠ wording.spelling) ∧
      ∀ error, Stage.Fault libraries options host later extraction .template error →
        (∀ unloaded,
          ¬ Stage.Fault libraries options host later extraction .settings unloaded) →
        ∀ extract other,
          (∀ path, options.config = some path → other.lookUp path = host.lookUp path) →
          extractCommandBy libraries extract options other later now = .failed error #[] := by
  refine ⟨occurs_extractCommand options host now stop, fun error => walk_fault_extracted, ?_⟩
  intro libraries later extraction outcome h
  refine ⟨?_, fun error hfault => h.result_of_fault hfault, fun hfault => ?_,
    template_fault_iff, ?_⟩
  · cases hfirst : firstFault? libraries options host later extraction with
    | some error => exact .inl ⟨error, firstFault?_eq_some_iff.1 hfirst⟩
    | none => exact .inr (firstFault?_eq_none_iff.1 hfirst)
  · obtain ⟨hresult, hrendering⟩ := h.rendering_of_faultless hfault
    exact ⟨hresult, hrendering, h.delivered_of_faultless hfault⟩
  · intro error htemplate hsettings extract other hother
    exact extractCommandBy_of_template_fault hsettings htemplate hother

/-- An executable with a settings file, of which a document is wanted although there is a template:
the document is written, with the two calls of the entry point that the settings name. If the input
is lost before it is digested nothing is written, and a template that cannot be read is reported
before that. -/
theorem command_reports_first_fault_of_executable :
    let listing := Text.Utf8.encode
      "TEXT app.run(SB)\n\tMOVL $0x1, AX\n\tSYSCALL\n\tMOVL $0x3c, AX\n\tSYSCALL\n"
    let config := Text.Utf8.encode "\x7b\"entry_points\":[\"app.run\"]\x7d"
    let host : Host :=
      { lookUp := fun path =>
          if path = Path.ofText "app.json" then .ok (.file (.complete config))
          else if path = Path.ofText "app" then .ok (.file (.complete []))
          else .error .noSuchFile
        run := fun _ _ => .ok ⟨.code 0, listing, []⟩
        environment := fun _ => none }
    let later : Host := { host with lookUp := fun _ => .error .noSuchFile }
    let options : ExtractOptions :=
      ⟨"app", false, some "\x7bid\x7d", true, some "app.json", none, [], none⟩
    let extract := fun settings source => Extraction.ofSource settings source false
    let extraction := options.extracted host false
    let unread := { options with template := some "\x7bnumber\x7d" }
    ((extractCommand options host "now" false).result = .ok () ∧
      (extractCommand options host "now" false).written =
        "\x7b\n  \"source\": \"app\",\n  \"kind\": \"executable\",\n  \"sha256\": " ++
        "\"e3b0c44298fc1c149afbf4c8996fb92427ae41e4649b934ca495991b7852b855\",\n" ++
        "  \"generated_at\": \"now\",\n  \"syscalls\": [\n    \x7b\n      \"id\": 1,\n" ++
        "      \"name\": \"write\"\n    \x7d,\n    \x7b\n      \"id\": 60,\n" ++
        "      \"name\": \"exit\"\n    \x7d\n  ]\n\x7d\n" ∧
      Rendering .standard options host "now" [⟨1, "write"⟩, ⟨60, "exit"⟩]
        (extractCommand options host "now" false).written) ∧
    (FirstFault .standard options host later extraction (.hashing "app" .noSuchFile) ∧
      (extractCommandBy .standard extract options host later "now").result =
        .error (.hashing "app" .noSuchFile) ∧
      (extractCommandBy .standard extract options host later "now").written = "") ∧
    ∀ extract, extractCommandBy .standard extract unread host later "now" =
      .failed (.template (.unknownPlaceholder "number".toList)) #[] := by
  intro listing config host later options extract extraction unread
  obtain ⟨hnone, hdelivered, hlost⟩ :
      firstFault? .standard options host host extraction = none ∧
      extraction.delivered = [⟨1, "write"⟩, ⟨60, "exit"⟩] ∧
      firstFault? .standard options host later extraction = some (.hashing "app" .noSuchFile) := by
    decide +kernel +revert
  have hfirst := firstFault?_eq_some_iff.1 hlost
  have hoccurs : options.Occurs .standard host later "now" false extraction
      (extractCommandBy .standard extract options host later "now") :=
    ⟨_, fun settings source => Extraction.occurs_ofSource settings source false, rfl, rfl⟩
  obtain ⟨hcommand, -, hevery⟩ := command_reports_first_fault options host "now" false
  obtain ⟨-, -, hwritten, -⟩ := hevery _ _ _ _ hcommand
  obtain ⟨-, hfails, -⟩ := hevery _ _ _ _ hoccurs
  obtain ⟨hresult, hrendering, -⟩ := hwritten (firstFault?_eq_none_iff.1 hnone)
  refine ⟨⟨hresult, by decide +kernel, hdelivered ▸ hrendering⟩, ⟨hfirst, hfails _ hfirst⟩, ?_⟩
  intro extract'
  obtain ⟨hcommand, -, hevery⟩ := command_reports_first_fault unread host "now" false
  have hoccurs : unread.Occurs .standard host later "now" false (unread.extracted host false)
      (extractCommandBy .standard extract unread host later "now") :=
    ⟨_, fun settings source => Extraction.occurs_ofSource settings source false, rfl, rfl⟩
  obtain ⟨-, -, -, -, htemplate⟩ := hevery _ _ _ _ hoccurs
  refine htemplate _ (.template rfl (by decide +kernel))
    (fun unloaded => ?_) extract' host fun _ _ => rfl
  exact Stage.fault?_eq_none_iff.1 (by decide +kernel) unloaded

end ExtractOptions

end SyscallCensus
