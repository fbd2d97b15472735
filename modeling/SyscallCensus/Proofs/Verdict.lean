import SyscallCensus.Proofs.Exploration
import SyscallCensus.Proofs.Provenance

/-!
# Verdicts

About `SPEC_FULL.md`, Sections 4.4 and 7: which error ends a run, and that errors "produce no
partial result".

How an extraction ends. Four things may be wrong with it: the executable is linked dynamically; the
listing cannot be had; none of the entry points has a function; the walk was asked to stop. Several
of them may be wrong at once, so each is looked for by itself (`dynamicFault?`, `inputFault?`,
`entryFault?`, `stopFault?`), and the first one that applies decides (`firstFault?`). Where none
applies the extraction succeeds.

The first three are found before the walk. Where one of them applies nothing is handed over,
whatever was read before it was found, and whether the flag is up or down. What the source gives
(`Occurs.of_unopened`, `Occurs.of_broken`, `Occurs.of_complete`) and what an extraction from a table
comes to (`OccursOn.of_absent`, `OccursOn.of_present`) make two cases, `Occurs.early_or_walk`, and
from these follows `ends_by_first_fault`.
-/

namespace SyscallCensus

/-- What a first walk hands over that was not asked to stop: the numbers that its entry points lead
to, with their labels. -/
theorem Walk.Session.Walks.mem_calls_iff_uses {table : SymbolTable} {registry : Registry}
    {stop : Bool} {entries : List String} {outcome : Outcome} {session : Session}
    (hwalk : (Session.start stop).Walks table registry entries outcome session)
    (hstop : session.stop = false) (call : SystemCall) :
    call ∈ outcome.calls ↔ call.name = (registry.name? call.id).getD "" ∧
      table.Uses entries call.id := by
  have hall := History.walk (.start stop) hwalk
  rw [History.mem_calls_iff (.start stop) hwalk, hall.mem_deliveredIds_iff hstop,
    given_concat, given_nil, List.nil_append, deliveredIds_nil]
  simp

namespace Extraction

variable {settings : Settings} {table : SymbolTable} {source : Source} {stop : Bool}
  {extraction : Extraction}

/-! ### Extractions from tables -/

/-- **An extraction from a table under any schedule**: the table is walked from the chosen entry
points, in whatever order the tasks make their steps and whenever the flag is raised. -/
def OccursOn (settings : Settings) (table : SymbolTable) (stop : Bool) (extraction : Extraction) :
    Prop :=
  ∃ outcome session,
    (Walk.Session.start stop).Walks table .linuxX64 settings.entryPoints outcome session ∧
    extraction = ofTableBy (fun _ => (outcome, session)) settings table stop

/-- What `ofTable` computes is an extraction. -/
theorem occursOn_ofTable (settings : Settings) (table : SymbolTable) (stop : Bool)
    (stopAfter : Option Nat) :
    OccursOn settings table stop (ofTable settings table stop stopAfter) :=
  ⟨_, _, Walk.Session.walks_walk table _ _ _ stopAfter, rfl⟩

theorem OccursOn.of_absent (h : OccursOn settings table stop extraction)
    (habsent : settings.entryPoints.any table.contains = false) :
    extraction = failed (.unsupportedBinaryKind (.noEntryPoint settings.entryPoints)) stop #[] := by
  obtain ⟨outcome, session, -, rfl⟩ := h
  simp [ofTableBy, habsent]

/-- Where an entry point has a function, the walk is made, and only the flag decides what comes of
it. -/
theorem OccursOn.of_present (h : OccursOn settings table stop extraction)
    (hpresent : settings.entryPoints.any table.contains = true) :
    ∃ outcome session,
      (Walk.Session.start stop).Walks table .linuxX64 settings.entryPoints outcome session ∧
      extraction.delivered = outcome.calls ∧ extraction.stop = session.stop ∧
      extraction.result =
        if session.stop then .error (.cancelled outcome.calls.length) else .ok outcome.stats := by
  obtain ⟨outcome, session, hwalk, rfl⟩ := h
  have hstats := hwalk.stats_eq
  refine ⟨outcome, session, hwalk, ?_⟩
  rw [ofTableBy, if_pos hpresent, ofWalk]
  cases hs : session.stop with
  | true => simp [hstats, hs]
  | false => simp [hstats, hs]

theorem OccursOn.calls_of_absent (h : OccursOn settings table stop extraction)
    (habsent : settings.entryPoints.any table.contains = false) :
    extraction.calls = .error (.unsupportedBinaryKind (.noEntryPoint settings.entryPoints)) := by
  rw [h.of_absent habsent]
  rfl

/-- An extraction from a table with an entry point that is not asked to stop gives all calls that
the entry points lead to. -/
theorem OccursOn.calls_of_present (h : OccursOn settings table stop extraction)
    (hpresent : settings.entryPoints.any table.contains = true) (hdown : extraction.stop = false) :
    ∃ calls, extraction.calls = .ok calls ∧ ∀ call, call ∈ calls ↔
      call.name = (Registry.linuxX64.name? call.id).getD "" ∧
        table.Uses settings.entryPoints call.id := by
  obtain ⟨outcome, session, hwalk, hcalls, hflag, hresult⟩ := h.of_present hpresent
  rw [hflag] at hdown
  rw [hdown, if_neg Bool.false_ne_true] at hresult
  refine ⟨outcome.calls, ?_, hwalk.mem_calls_iff_uses hdown⟩
  rw [calls, hresult, hcalls]
  rfl

/-! ### What the source gives -/

/-- A source that cannot be opened gives its own failure. -/
theorem Occurs.of_unopened (h : Occurs settings source stop extraction) {error : SourceError}
    (hopened : source.opened = .error error) :
    extraction.result = .error (.ofSource error) ∧ extraction.delivered = [] ∧
      extraction.stop = stop := by
  obtain ⟨walk, -, rfl⟩ := h
  simp [ofSourceBy, hopened, failed]

theorem Occurs.of_broken (h : Occurs settings source stop extraction) {bytes : List UInt8}
    {error : IoError} (hopened : source.opened = .ok (.broken bytes error)) :
    extraction.result = .error (.ofSource (.ofIo source.path error)) ∧ extraction.delivered = [] ∧
      extraction.stop = stop := by
  obtain ⟨walk, -, rfl⟩ := h
  simp [ofSourceBy, hopened, ofStreamBy, failed]

theorem Occurs.of_complete (h : Occurs settings source stop extraction) {bytes : List UInt8}
    (hopened : source.opened = .ok (.complete bytes)) :
    ∃ inner, OccursOn settings (Listing.build .linuxX64 settings.wrappers bytes).table stop inner ∧
      extraction.result = inner.result ∧ extraction.delivered = inner.delivered ∧
        extraction.stop = inner.stop := by
  obtain ⟨walk, hwalk, rfl⟩ := h
  refine ⟨ofTableBy walk settings (Listing.build .linuxX64 settings.wrappers bytes).table stop,
    ⟨_, _, hwalk _, rfl⟩, ?_⟩
  simp [ofSourceBy, hopened, ofStreamBy]

/-! ### Faults -/

/-- The bytes of a source that could be read. -/
def readable (source : Source) : List UInt8 :=
  match source.opened with
  | .error _ => []
  | .ok (.broken bytes _) => bytes
  | .ok (.complete bytes) => bytes

/-- The executable is linked dynamically. -/
def dynamicFault? (source : Source) : Option ExtractError :=
  match source.opened with
  | .error (.dynamicallyLinked path) => some (.unsupportedBinaryKind (.dynamicallyLinked path))
  | _ => none

/-- The source cannot be opened, or cannot be read to its end. A missing input and one that must not
be read are told apart from other failures to read. -/
def inputFault? (source : Source) : Option ExtractError :=
  match source.opened with
  | .error error => some (.inputUnavailable error)
  | .ok (.broken _ ⟨.notFound, _⟩) => some (.inputUnavailable (.notFound source.path))
  | .ok (.broken _ ⟨.permissionDenied, _⟩) =>
    some (.inputUnavailable (.permissionDenied source.path))
  | .ok (.broken _ error) => some (.inputUnavailable (.io source.path error))
  | .ok (.complete _) => none

/-- None of the entry points has a function in what could be read. -/
def entryFault? (settings : Settings) (source : Source) : Option ExtractError :=
  if settings.entryPoints.any (Listing.build .linuxX64 settings.wrappers
    (readable source)).table.contains then none
  else some (.unsupportedBinaryKind (.noEntryPoint settings.entryPoints))

/-- The flag was raised before the end. -/
def stopFault? (extraction : Extraction) : Option ExtractError :=
  if extraction.stop then some (.cancelled extraction.delivered.length) else none

/-- **The fault that decides**: the first one that applies. -/
def firstFault? (settings : Settings) (source : Source) (extraction : Extraction) :
    Option ExtractError :=
  [dynamicFault? source, inputFault? source, entryFault? settings source,
    stopFault? extraction].findSome? id

/-- The fault that is found before the walk. -/
def earlyFault? (settings : Settings) (source : Source) : Option ExtractError :=
  [dynamicFault? source, inputFault? source, entryFault? settings source].findSome? id

theorem firstFault?_eq :
    firstFault? settings source extraction =
      (earlyFault? settings source).or (stopFault? extraction) := by
  have hlast : [stopFault? extraction].findSome? id = stopFault? extraction := by
    cases stopFault? extraction <;> rfl
  rw [← hlast, earlyFault?, ← List.findSome?_append]
  rfl

theorem isSome_earlyFault?_iff :
    (earlyFault? settings source).isSome ↔
      (dynamicFault? source).isSome ∨ (inputFault? source).isSome ∨
        (entryFault? settings source).isSome := by
  simp [earlyFault?]

theorem earlyFault?_of_unopened {error : SourceError} (hopened : source.opened = .error error) :
    earlyFault? settings source = some (.ofSource error) := by
  cases error with
  | dynamicallyLinked path => simp [earlyFault?, dynamicFault?, hopened, ExtractError.ofSource]
  | _ => simp [earlyFault?, dynamicFault?, inputFault?, hopened, ExtractError.ofSource]

theorem earlyFault?_of_broken {bytes : List UInt8} {error : IoError}
    (hopened : source.opened = .ok (.broken bytes error)) :
    earlyFault? settings source = some (.ofSource (.ofIo source.path error)) := by
  obtain ⟨kind, text⟩ := error
  cases kind <;> simp [earlyFault?, dynamicFault?, inputFault?, hopened, SourceError.ofIo,
    ExtractError.ofSource]

theorem earlyFault?_of_complete {bytes : List UInt8}
    (hopened : source.opened = .ok (.complete bytes)) :
    earlyFault? settings source = entryFault? settings source := by
  simp only [earlyFault?, dynamicFault?, inputFault?, hopened, List.findSome?_cons,
    List.findSome?_nil, id_eq]
  cases entryFault? settings source <;> rfl

/-! ### Verdicts -/

/-- **An extraction fails before the walk, or gets as far as the walk.** In the first case it fails
with the fault that was found, nothing is handed over, and the flag stays as it is. In the second
case what the walk hands over is handed over, and the flag decides what comes of it. -/
theorem Occurs.early_or_walk (h : Occurs settings source stop extraction) :
    (∃ error, earlyFault? settings source = some error ∧ extraction.result = .error error ∧
      extraction.delivered = [] ∧ extraction.stop = stop) ∨
    earlyFault? settings source = none ∧ ∃ outcome session,
      (Walk.Session.start stop).Walks
        (Listing.build .linuxX64 settings.wrappers (readable source)).table .linuxX64
        settings.entryPoints outcome session ∧
      extraction.delivered = outcome.calls ∧ extraction.stop = session.stop ∧
      extraction.result =
        if session.stop then .error (.cancelled outcome.calls.length) else .ok outcome.stats := by
  cases hopened : source.opened with
  | error unopened => exact .inl ⟨_, earlyFault?_of_unopened hopened, h.of_unopened hopened⟩
  | ok stream =>
    cases stream with
    | broken bytes unread => exact .inl ⟨_, earlyFault?_of_broken hopened, h.of_broken hopened⟩
    | complete bytes =>
      -- The listing is whole, so that only the entry points are looked at.
      obtain ⟨inner, hinner, hresult, hdelivered, hstop⟩ := h.of_complete hopened
      rw [earlyFault?_of_complete hopened, entryFault?, readable, hopened, hresult,
        hdelivered, hstop]
      cases hany : settings.entryPoints.any
          (Listing.build .linuxX64 settings.wrappers bytes).table.contains with
      | false =>
        rw [hinner.of_absent hany]
        exact .inl ⟨_, if_neg Bool.false_ne_true, rfl, rfl, rfl⟩
      | true => exact .inr ⟨if_pos rfl, hinner.of_present hany⟩

/-- A fault that applies is the verdict, if no earlier one applies. -/
theorem Occurs.result_of_fault (h : Occurs settings source stop extraction) {error : ExtractError}
    (hfault : firstFault? settings source extraction = some error) :
    extraction.result = .error error := by
  rw [firstFault?_eq] at hfault
  rcases h.early_or_walk with
    ⟨early, hearly, hresult, -, -⟩ | ⟨hearly, outcome, session, -, hcalls, hflag, hresult⟩
  · rw [hearly, Option.some_or, Option.some.injEq] at hfault
    exact hfault ▸ hresult
  · rw [hearly, Option.none_or, stopFault?, hflag, hcalls, Option.ite_none_right_eq_some,
      Option.some.injEq] at hfault
    rw [hresult, if_pos hfault.1, hfault.2]

/-- Where no fault applies the extraction succeeds, and all calls that the entry points lead to were
handed over. -/
theorem Occurs.ok_of_no_fault (h : Occurs settings source stop extraction)
    (hfault : firstFault? settings source extraction = none) :
    ∃ stats, extraction.result = .ok stats ∧ stats.delivered = extraction.delivered.length ∧
      ∀ call, call ∈ extraction.delivered ↔ call.name = (Registry.linuxX64.name? call.id).getD "" ∧
        (Listing.build .linuxX64 settings.wrappers (readable source)).table.Uses
          settings.entryPoints call.id := by
  rw [firstFault?_eq, Option.or_eq_none_iff] at hfault
  rcases h.early_or_walk with
    ⟨early, hearly, -⟩ | ⟨-, outcome, session, hwalk, hcalls, hflag, hresult⟩
  · rw [hfault.1] at hearly
    cases hearly
  · have hdown : session.stop = false := by
      simpa only [stopFault?, hflag, ite_eq_right_iff, reduceCtorEq, imp_false, Bool.not_eq_true]
        using hfault.2
    refine ⟨outcome.stats, ?_, ?_, fun call => ?_⟩
    · rw [hresult, hdown, if_neg Bool.false_ne_true]
    · rw [hcalls, hwalk.stats_eq]
    · rw [hcalls, hwalk.mem_calls_iff_uses hdown]

theorem Occurs.calls_of_fault (h : Occurs settings source stop extraction) {error : ExtractError}
    (hfault : firstFault? settings source extraction = some error) :
    extraction.calls = .error error := by
  rw [calls, h.result_of_fault hfault]
  rfl

theorem Occurs.calls_of_no_fault (h : Occurs settings source stop extraction)
    (hfault : firstFault? settings source extraction = none) :
    extraction.calls = .ok extraction.delivered := by
  obtain ⟨stats, hresult, -⟩ := h.ok_of_no_fault hfault
  rw [calls, hresult]
  rfl

/-- A fault that is found before the walk leaves nothing to be handed over. -/
theorem Occurs.delivered_eq_nil (h : Occurs settings source stop extraction)
    (hfault : (earlyFault? settings source).isSome) : extraction.delivered = [] := by
  rcases h.early_or_walk with ⟨early, -, -, hnothing, -⟩ | ⟨hearly, -⟩
  · exact hnothing
  · rw [hearly] at hfault
    cases hfault

/-- Under a flag that is up from the beginning nothing is handed over, and the flag stays up. -/
theorem Occurs.raised (h : Occurs settings source true extraction) :
    extraction.delivered = [] ∧ extraction.stop = true := by
  rcases h.early_or_walk with
    ⟨early, -, -, hnothing, hflag⟩ | ⟨-, outcome, session, hwalk, hcalls, hflag, -⟩
  · exact ⟨hnothing, hflag⟩
  · rw [hcalls, hflag]
    exact ⟨(hwalk.refused rfl).1, hwalk.stop_mono rfl⟩

theorem stop_ofSource (settings : Settings) (source : Source) (stop : Bool) :
    (ofSource settings source stop).stop = stop := by
  have hwalk (table : SymbolTable) : (walkFrom settings stop none table).2.stop = stop :=
    Walk.State.stop_settle table .linuxX64 _
  unfold ofSource ofSourceBy
  split
  · rfl
  · rename_i stream _
    cases stream with
    | broken bytes error => rfl
    | complete bytes =>
      simp only [ofStreamBy, ofTableBy, ofWalk]
      split
      · split <;> exact hwalk _
      · rfl

/-- **How an extraction ends**, whatever the source gives, wherever reading it fails, whatever the
flag is at the beginning and whenever it is raised. Every source has an extraction. If a fault
applies the extraction fails with the first one, and gives no list of calls; if none applies it
succeeds and gives all calls that the entry points lead to. If one of the first three faults
applies, nothing is handed over. A flag that is up from the beginning stays up, and then nothing is
handed over either. -/
theorem ends_by_first_fault (settings : Settings) (source : Source) (stop : Bool) :
    (∃ extraction, Occurs settings source stop extraction) ∧
    ∀ extraction, Occurs settings source stop extraction →
      (∀ error, firstFault? settings source extraction = some error →
        extraction.result = .error error ∧ extraction.calls = .error error) ∧
      (firstFault? settings source extraction = none →
        extraction.calls = .ok extraction.delivered ∧
        ∃ stats, extraction.result = .ok stats ∧ stats.delivered = extraction.delivered.length ∧
          ∀ call, call ∈ extraction.delivered ↔
            call.name = (Registry.linuxX64.name? call.id).getD "" ∧
            (Listing.build .linuxX64 settings.wrappers (readable source)).table.Uses
              settings.entryPoints call.id) ∧
      ((dynamicFault? source).isSome ∨ (inputFault? source).isSome ∨
        (entryFault? settings source).isSome → extraction.delivered = []) ∧
      (stop = true → extraction.delivered = [] ∧ extraction.stop = true) := by
  refine ⟨⟨_, occurs_ofSource settings source stop⟩,
    fun extraction h =>
      ⟨fun error hfault => ?_, fun hfault => ?_,
        fun hfault => h.delivered_eq_nil (isSome_earlyFault?_iff.2 hfault), fun hstop => ?_⟩⟩
  · have hresult := h.result_of_fault hfault
    exact ⟨hresult, by rw [calls, hresult]; rfl⟩
  · obtain ⟨stats, hresult, hcount, hcalls⟩ := h.ok_of_no_fault hfault
    exact ⟨by rw [calls, hresult]; rfl, stats, hresult, hcount, hcalls⟩
  · subst hstop
    exact h.raised

/-- Reading fails on the line on which a second function begins, behind a whole entry point that
makes a call, and the flag is up: the failure to read is the verdict, and the call is not handed
over. -/
theorem ends_by_broken_pipe :
    let source : Source := ⟨"sample.dump", .dump, .ok (.failingAfter (Text.Utf8.encode
      "TEXT main.main(SB)\n\tMOVL $0x3c, AX\n\tSYSCALL\n\nTEXT main.helper(SB)\n\tSYSCALL\n") 60
      ⟨.brokenPipe, "gone"⟩), []⟩
    let extraction := ofSource .default source true
    Occurs .default source true extraction ∧
    entryFault? .default source = none ∧ stopFault? extraction = some (.cancelled 0) ∧
    extraction.calls = .error (.inputUnavailable (.io "sample.dump" ⟨.brokenPipe, "gone"⟩)) ∧
    extraction.delivered = [] := by
  intro source extraction
  obtain ⟨hfirst, hentry, hstop⟩ : firstFault? .default source extraction =
        some (.inputUnavailable (.io "sample.dump" ⟨.brokenPipe, "gone"⟩)) ∧
      entryFault? .default source = none ∧ stopFault? extraction = some (.cancelled 0) := by
    decide +kernel +revert
  have hoccurs := occurs_ofSource .default source true
  obtain ⟨hverdict, -, -, hraised⟩ :=
    (ends_by_first_fault .default source true).2 extraction hoccurs
  exact ⟨hoccurs, hentry, hstop, (hverdict _ hfirst).2, (hraised rfl).1⟩

end Extraction

end SyscallCensus
