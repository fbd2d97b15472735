import SyscallCensus.Extraction
import SyscallCensus.Proofs.Blocks
import SyscallCensus.Proofs.Bookkeeping
import SyscallCensus.Proofs.Lookup

/-!
# Where reported calls come from

About `SPEC_FULL.md`, Sections 4.2 to 4.4, as a whole, and the invariant of Section 8 that an
unregistered literal "never produces a spurious result".

Every system call that an extraction reports can be traced back to lines of the listing: to calls
that lead from an entry point to some function, to a load of the call's number in the block of that
function, and to an invocation further down in the same block. The argument goes backwards through
the stages. A reported number belongs to a visited function, and visited functions are reachable
(`Proofs.Bookkeeping`). What the table says about a function, its last block that is not empty says
(`Proofs.Blocks`). Inside a block, an invocation only gets numbers that were loaded before it
(`mem_invokedIds`), and only registered numbers are loaded, whose labels stand in the table
(`Proofs.Lookup`).
-/

namespace SyscallCensus

/-! ### Lines of a block -/

namespace Listing

variable {registry : Registry} {wrappers : List String}

namespace Passage

/-- A line of the block calls `callee`. -/
def HasCall (registry : Registry) (wrappers : List String) (block : Passage) (callee : String) :
    Prop :=
  ∃ line ∈ block.body, classify registry wrappers line = .callTarget callee

/-- A line of the block loads `id`, and a later line of it invokes the system. -/
def HasInvocation (registry : Registry) (wrappers : List String) (block : Passage)
    (id : SyscallId) : Prop :=
  ∃ before load between invocation after,
    block.body = before ++ load :: between ++ invocation :: after ∧
    classify registry wrappers load = .loadCandidate id ∧
    classify registry wrappers invocation = .syscallInvocation

theorem hasCall_of_mem_callees {block : Passage} {callee : String}
    (h : callee ∈ (block.definition registry wrappers).callees) :
    block.HasCall registry wrappers callee := by
  obtain ⟨kind, hkind, hcallee⟩ := List.mem_filterMap.1 h
  obtain ⟨line, hline, rfl⟩ := List.mem_map.1 hkind
  refine ⟨line, hline, ?_⟩
  cases hk : classify registry wrappers line with
  | callTarget name =>
    rw [hk, LineKind.callee?, Option.some.injEq] at hcallee
    rw [hcallee]
  | _ => simp [hk, LineKind.callee?] at hcallee

end Passage

/-- An invocation gets a number that waits. -/
theorem mem_of_invoke {pending : Pending} {id : SyscallId} (h : id ∈ pending.invoke.1) :
    id ∈ pending.newestFirst := by
  obtain ⟨waiting⟩ := pending
  match waiting with
  | [] => cases h
  | [only] => simpa [Pending.invoke, eq_comm] using h
  | newest :: number :: older =>
    have hid : number = id := by simpa [Pending.invoke] using h
    simp [hid]

theorem invoke_subset (pending : Pending) : pending.invoke.2.newestFirst ⊆ pending.newestFirst := by
  obtain ⟨waiting⟩ := pending
  match waiting with
  | [] => exact List.Subset.refl _
  | [only] => exact List.nil_subset _
  | newest :: number :: older => exact fun _ h => List.mem_cons_of_mem _ (List.mem_cons_of_mem _ h)

/-- Somewhere `id` is loaded, and further down the system is invoked. -/
def LoadsThenInvokes (id : SyscallId) (kinds : List LineKind) : Prop :=
  ∃ before between after, kinds = before ++ .loadCandidate id :: between ++
    .syscallInvocation :: after

theorem LoadsThenInvokes.cons {id : SyscallId} {kinds : List LineKind}
    (h : LoadsThenInvokes id kinds) (kind : LineKind) : LoadsThenInvokes id (kind :: kinds) := by
  obtain ⟨before, between, after, rfl⟩ := h
  exact ⟨kind :: before, between, after, rfl⟩

/-- **A number that is invoked** waited from the beginning, or was loaded on an earlier line. -/
theorem mem_invokedIds {pending : Pending} {kinds : List LineKind} {id : SyscallId}
    (h : id ∈ invokedIds pending kinds) :
    (id ∈ pending.newestFirst ∧ LineKind.syscallInvocation ∈ kinds) ∨
      LoadsThenInvokes id kinds := by
  -- The lines that are no loads and no invocations go by.
  have hskip {pending : Pending} {kinds : List LineKind} (kind : LineKind)
      (h : (id ∈ pending.newestFirst ∧ LineKind.syscallInvocation ∈ kinds) ∨
        LoadsThenInvokes id kinds) :
      (id ∈ pending.newestFirst ∧ LineKind.syscallInvocation ∈ kind :: kinds) ∨
        LoadsThenInvokes id (kind :: kinds) :=
    h.imp (And.imp_right (List.mem_cons_of_mem kind)) (·.cons kind)
  fun_induction invokedIds pending kinds with
  | case1 => cases h
  | case2 pending kinds loaded ih =>
    rcases ih h with ⟨hwaits, hinvocation⟩ | hloads
    · rcases List.mem_cons.1 hwaits with rfl | hwaits
      · obtain ⟨between, after, rfl⟩ := List.append_of_mem hinvocation
        exact .inr ⟨[], between, after, rfl⟩
      · exact .inl ⟨hwaits, List.mem_cons_of_mem _ hinvocation⟩
    · exact .inr (hloads.cons _)
  | case3 pending kinds ih =>
    rcases List.mem_append.1 h with hnow | hlater
    · exact .inl ⟨mem_of_invoke (Option.mem_toList.1 hnow), List.mem_cons_self ..⟩
    · rcases ih hlater with ⟨hwaits, -⟩ | hloads
      · exact .inl ⟨invoke_subset pending hwaits, List.mem_cons_self ..⟩
      · exact .inr (hloads.cons _)
  | case4 _ _ _ ih => exact hskip _ (ih h)
  | case5 _ _ _ ih => exact hskip _ (ih h)
  | case6 _ _ ih => exact hskip _ (ih h)

/-- The numbers of a block's function are loaded in the block, above an invocation. -/
theorem Passage.hasInvocation_of_mem_syscalls {block : Passage} {id : SyscallId}
    (h : id ∈ (block.definition registry wrappers).syscalls.toList) :
    block.HasInvocation registry wrappers id := by
  have hinvoked : id ∈ invokedIds .empty (block.kinds registry wrappers) := List.mem_eraseDups.1 h
  rcases mem_invokedIds hinvoked with ⟨hwaits, -⟩ | ⟨before, between, after, hsplit⟩
  · cases hwaits
  · obtain ⟨upper, lower, hbody, hupper, hlower⟩ := List.map_eq_append_iff.1 hsplit
    obtain ⟨first, rest, rfl, -, hrest⟩ := List.map_eq_append_iff.1 hupper
    obtain ⟨load, middle, rfl, hload, -⟩ := List.map_eq_cons_iff.1 hrest
    obtain ⟨invocation, last, rfl, hinvocation, -⟩ := List.map_eq_cons_iff.1 hlower
    exact ⟨first, load, middle, invocation, last, hbody, hload, hinvocation⟩

theorem contains_of_classify_eq_loadCandidate {line : List Char} {id : SyscallId}
    (h : classify registry wrappers line = .loadCandidate id) : registry.contains id = true :=
  (classify_eq_iff.1 h).2.2.2

/-! ### Lines of a listing -/

/-- The listing says that `caller` calls `callee`: a line of the last block of `caller` that is not
empty does. -/
def CallsInText (registry : Registry) (wrappers : List String) (lines : List (List Char))
    (caller callee : String) : Prop :=
  ∃ block, lastPassage? registry wrappers lines caller = some block ∧
    block.HasCall registry wrappers callee

variable {bytes : List UInt8} {name callee : String} {id : SyscallId}

/-- What the table of a listing says about calls, the listing says. -/
theorem callsInText_of_calls (h : (build registry wrappers bytes).table.Calls name callee) :
    CallsInText registry wrappers ((Text.lines bytes).map Text.lineText) name callee := by
  obtain ⟨f, hget, hcallee⟩ := h
  rw [get?_build, Option.map_eq_some_iff] at hget
  obtain ⟨block, hblock, rfl⟩ := hget
  exact ⟨block, hblock, Passage.hasCall_of_mem_callees hcallee⟩

/-- What the table of a listing says about numbers, the listing says. -/
theorem hasInvocation_of_makes (h : (build registry wrappers bytes).table.Makes name id) :
    ∃ block,
      lastPassage? registry wrappers ((Text.lines bytes).map Text.lineText) name = some block ∧
      block.HasInvocation registry wrappers id := by
  obtain ⟨f, hget, hid⟩ := h
  rw [get?_build, Option.map_eq_some_iff] at hget
  obtain ⟨block, hblock, rfl⟩ := hget
  exact ⟨block, hblock, Passage.hasInvocation_of_mem_syscalls hid⟩

end Listing

/-! ### Extractions -/

namespace Extraction

variable {settings : Settings} {source : Source} {stop : Bool} {extraction : Extraction}

/-- **An extraction under any schedule**: its table is walked from the chosen entry points, in
whatever order the tasks make their steps and whenever the flag is raised. -/
def Occurs (settings : Settings) (source : Source) (stop : Bool) (extraction : Extraction) : Prop :=
  ∃ walk : SymbolTable → Walk.Outcome × Walk.Session,
    (∀ table, (Walk.Session.start stop).Walks table .linuxX64 settings.entryPoints
      (walk table).1 (walk table).2) ∧
    extraction = ofSourceBy walk settings source stop

/-- What `ofSource` computes is an extraction. -/
theorem occurs_ofSource (settings : Settings) (source : Source) (stop : Bool) :
    Occurs settings source stop (ofSource settings source stop) :=
  ⟨walkFrom settings stop none, fun table => Walk.Session.walks_walk table _ _ _ none, rfl⟩

/-- A successful extraction reports what a walk over the table of a listing has handed over. -/
theorem Occurs.exists_walk (h : Occurs settings source stop extraction) {calls : List SystemCall}
    (hcalls : extraction.calls = .ok calls) :
    ∃ bytes outcome session, source.opened = .ok (.complete bytes) ∧
      (Walk.Session.start stop).Walks
        (Listing.build .linuxX64 settings.wrappers bytes).table .linuxX64
        settings.entryPoints outcome session ∧ calls = outcome.calls := by
  obtain ⟨walk, hwalk, rfl⟩ := h
  simp only [ofSourceBy] at hcalls
  split at hcalls
  · cases hcalls
  · rename_i stream hopened
    cases stream with
    | broken bytes error => cases hcalls
    | complete bytes =>
      refine ⟨bytes, _, _, hopened, hwalk _, ?_⟩
      simp only [ofStreamBy, ofTableBy, ofWalk] at hcalls
      split at hcalls
      · split at hcalls
        · cases hcalls
        · exact (Except.ok.inj hcalls).symm
      · cases hcalls

theorem Occurs.nodup_ids (h : Occurs settings source stop extraction) {calls : List SystemCall}
    (hcalls : extraction.calls = .ok calls) : (calls.map (·.id)).Nodup := by
  obtain ⟨bytes, outcome, session, -, hwalk, rfl⟩ := h.exists_walk hcalls
  have hhistory := Walk.History.walk (.start stop) hwalk
  simpa [Walk.deliveredIds] using hhistory.nodup_deliveredIds

/-- **Every reported call is justified by the listing.** There is a path of symbols that begins at
an entry point, where the last block of each symbol has a line that calls the next one; the last
block of the symbol at its end has a line that loads the number of the call and, further down, a
line that invokes the system. (Blocks that are empty do not count.) The call stands in the registry,
under a label that is not empty, and no number is reported twice. -/
theorem calls_justified (h : Occurs settings source stop extraction) {calls : List SystemCall}
    (hcalls : extraction.calls = .ok calls) :
    ∃ bytes, source.opened = .ok (.complete bytes) ∧ (calls.map (·.id)).Nodup ∧ ∀ call ∈ calls,
      (call ∈ Registry.linuxX64.toList ∧ Registry.linuxX64.name? call.id = some call.name ∧
        call.name ≠ "") ∧
      ∃ (path : List String) (last : String) (block : Listing.Passage),
        (∃ entry ∈ settings.entryPoints, path.head? = some entry) ∧
        path.IsChain
          (Listing.CallsInText .linuxX64 settings.wrappers ((Text.lines bytes).map Text.lineText)) ∧
        path.getLast? = some last ∧
        Listing.lastPassage? .linuxX64 settings.wrappers
          ((Text.lines bytes).map Text.lineText) last = some block ∧
        block.HasInvocation .linuxX64 settings.wrappers call.id := by
  obtain ⟨bytes, outcome, session, hopened, hwalk, rfl⟩ := h.exists_walk hcalls
  have hhistory := Walk.History.walk (.start stop) hwalk
  have hids : Walk.deliveredIds ([] ++ [⟨settings.entryPoints, outcome⟩]) =
      outcome.calls.map (·.id) := by
    simp [Walk.deliveredIds]
  refine ⟨bytes, hopened, hids ▸ hhistory.nodup_deliveredIds, fun call hcall => ?_⟩
  obtain ⟨last, hreach, hmakes⟩ :=
    hhistory.uses_of_mem_deliveredIds (hids ▸ List.mem_map_of_mem hcall)
  rw [Walk.given_concat, Walk.given_nil, List.nil_append] at hreach
  obtain ⟨path, hchain, hlast, hentry⟩ := hreach.exists_path
  obtain ⟨block, hblock, hinvocation⟩ := Listing.hasInvocation_of_makes hmakes
  have hregistered : Registry.linuxX64.contains call.id = true := by
    obtain ⟨_, load, _, _, _, _, hload, _⟩ := hinvocation
    exact Listing.contains_of_classify_eq_loadCandidate hload
  obtain ⟨hmem, hname⟩ := Registry.label_mem hregistered
  rw [← hwalk.labelled call hcall] at hmem hname
  exact ⟨⟨hmem, hname, Registry.linuxX64_name_ne_empty call hmem⟩, path, last, block, hentry,
    hchain.imp fun _ _ => Listing.callsInText_of_calls, hlast, hblock, hinvocation⟩

/-- A listing with noise, a function whose block is followed by an empty one, and a function that
nothing calls: the one call that is reported is traced back from `main.helper` to `main.main`. -/
theorem calls_justified_exit_group :
    let source : Source := ⟨"sample.dump", .dump, .ok (.complete (Text.Utf8.encode
      ("noise\nTEXT main.main(SB) /src/main.go\n\tMOVL $0x3c, AX\n\tCALL main.helper(SB)\n\n" ++
        "TEXT main.helper(SB)\r\n\tMOVQ $0x0E7, AX\n\tSYSCALL\n\tCALL main.main(SB)\n" ++
        "TEXT main.unused(SB)\n\tMOVL $0x1, AX\n\tSYSCALL\n\nTEXT main.helper(SB)\n"))), []⟩
    Occurs .default source false (ofSource .default source false) ∧
    (ofSource .default source false).calls = .ok [⟨231, "exit_group"⟩] ∧
    ∃ bytes, source.opened = .ok (.complete bytes) ∧
      ∃ (path : List String) (last : String) (block : Listing.Passage),
      (∃ entry ∈ Settings.defaultEntryPoints, path.head? = some entry) ∧
      path.IsChain
        (Listing.CallsInText .linuxX64 Settings.defaultWrappers
          ((Text.lines bytes).map Text.lineText)) ∧
      path.getLast? = some last ∧
      Listing.lastPassage? .linuxX64 Settings.defaultWrappers
        ((Text.lines bytes).map Text.lineText) last =
        some block ∧
      block.HasInvocation .linuxX64 Settings.defaultWrappers 231 := by
  intro source
  have hcalls : (ofSource .default source false).calls = .ok [⟨231, "exit_group"⟩] := by
    decide +kernel +revert
  obtain ⟨bytes, hopened, -, hjustified⟩ :=
    calls_justified (occurs_ofSource .default source false) hcalls
  exact ⟨occurs_ofSource .default source false, hcalls, bytes, hopened,
    (hjustified _ (List.mem_singleton_self _)).2⟩

end Extraction

end SyscallCensus
