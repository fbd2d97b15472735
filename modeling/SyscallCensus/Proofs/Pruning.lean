import SyscallCensus.Proofs.Verdict

/-!
# Leaving out empty functions

About `SPEC_FULL.md`, Section 4.3: a function that neither calls anything nor invokes the system "is
irrelevant to reachability and is dropped".

The table of a listing leaves out the functions that call nothing and make no system call. A walk
does not miss them: it goes to the same symbols and finds the same numbers, since a symbol without a
function leads nowhere and neither does an empty function (`PrunedFrom.uses_iff`). But the table is
looked at once more, before the walk, when an entry point is looked for; and there an entry point
whose function is empty is missed.

`pruning_keeps_outcome_iff` says when an extraction comes to the same with and without the empty
functions: always, except where entry points have functions and all of these are empty. Then the
extraction fails for want of an entry point, where with the empty functions it succeeds and reports
nothing (`empty_main_is_refused` is such a listing).
-/

namespace SyscallCensus

/-! ### Tables without empty functions -/

namespace SymbolTable

variable {table pruned : SymbolTable} {entries : List String} {name callee : String}
  {id : SyscallId}

theorem Reachable.of_calls {other : SymbolTable} (h : table.Reachable entries name)
    (hcalls : ∀ {caller callee}, table.Calls caller callee → other.Calls caller callee) :
    other.Reachable entries name := by
  induction h with
  | entry he => exact .entry he
  | call _ hcall ih => exact .call ih (hcalls hcall)

/-- A table with the functions of another one that are not empty. -/
def PrunedFrom (pruned table : SymbolTable) : Prop :=
  ∀ name f, pruned.get? name = some f ↔ table.get? name = some f ∧ f.isEmpty = false

theorem isEmpty_eq_false_of_mem_callees {f : FunctionDef} (h : callee ∈ f.callees) :
    f.isEmpty = false := by
  cases hc : f.callees with
  | nil => simp [hc] at h
  | cons _ _ => simp [FunctionDef.isEmpty, hc]

theorem isEmpty_eq_false_of_mem_syscalls {f : FunctionDef} (h : id ∈ f.syscalls.toList) :
    f.isEmpty = false := by
  cases hs : f.syscalls.toList with
  | nil => simp [hs] at h
  | cons _ _ => simp [FunctionDef.isEmpty, IdSet.isEmpty, hs]

namespace PrunedFrom

theorem calls_iff (h : pruned.PrunedFrom table) :
    pruned.Calls name callee ↔ table.Calls name callee := by
  constructor
  · rintro ⟨f, hget, hcallee⟩
    exact ⟨f, ((h name f).1 hget).1, hcallee⟩
  · rintro ⟨f, hget, hcallee⟩
    exact ⟨f, (h name f).2 ⟨hget, isEmpty_eq_false_of_mem_callees hcallee⟩, hcallee⟩

theorem makes_iff (h : pruned.PrunedFrom table) : pruned.Makes name id ↔ table.Makes name id := by
  constructor
  · rintro ⟨f, hget, hid⟩
    exact ⟨f, ((h name f).1 hget).1, hid⟩
  · rintro ⟨f, hget, hid⟩
    exact ⟨f, (h name f).2 ⟨hget, isEmpty_eq_false_of_mem_syscalls hid⟩, hid⟩

/-- Nothing is reached over empty functions. -/
theorem reachable_iff (h : pruned.PrunedFrom table) :
    pruned.Reachable entries name ↔ table.Reachable entries name :=
  ⟨fun hname => hname.of_calls h.calls_iff.1, fun hname => hname.of_calls h.calls_iff.2⟩

/-- **The numbers that entry points lead to** are the same with and without empty functions. -/
theorem uses_iff (h : pruned.PrunedFrom table) :
    pruned.Uses entries id ↔ table.Uses entries id := by
  simp only [Uses, h.reachable_iff, h.makes_iff]

theorem contains_of_contains (h : pruned.PrunedFrom table) (hname : pruned.contains name = true) :
    table.contains name = true := by
  rw [contains, Option.isSome_iff_exists] at hname ⊢
  obtain ⟨f, hget⟩ := hname
  exact ⟨f, ((h name f).1 hget).1⟩

end PrunedFrom

end SymbolTable

/-! ### Outcomes -/

namespace Extraction

variable {settings : Settings} {table smaller : SymbolTable} {pruned kept : Extraction}

/-- Two extractions come to the same: both give the same calls, in whatever order, or both fail with
the same error. -/
def SameOutcome (a b : Extraction) : Prop :=
  match a.calls, b.calls with
  | .ok calls, .ok others => ∀ call, call ∈ calls ↔ call ∈ others
  | .error error, .error other => error = other
  | _, _ => False

/-- An entry point of the larger table is enough for one in the smaller table. -/
def KeepsAnEntry (settings : Settings) (smaller table : SymbolTable) : Prop :=
  settings.entryPoints.any table.contains = true → settings.entryPoints.any smaller.contains = true

/-- Where the smaller table has an entry point if the larger one has, both come to the same. -/
theorem sameOutcome_of_keepsAnEntry (h : smaller.PrunedFrom table)
    (hpruned : OccursOn settings smaller false pruned) (hkept : OccursOn settings table false kept)
    (hdown : pruned.stop = false) (hdown' : kept.stop = false)
    (hentry : KeepsAnEntry settings smaller table) : SameOutcome pruned kept := by
  cases hany : settings.entryPoints.any table.contains with
  | true =>
    obtain ⟨calls, hcalls, hmem⟩ := hpruned.calls_of_present (hentry hany) hdown
    obtain ⟨others, hothers, hmem'⟩ := hkept.calls_of_present hany hdown'
    rw [SameOutcome, hcalls, hothers]
    intro call
    rw [hmem, hmem', h.uses_iff]
  | false =>
    have hnone : settings.entryPoints.any smaller.contains = false := by
      rw [List.any_eq_false] at hany ⊢
      exact fun entry he hin => hany entry he (h.contains_of_contains hin)
    rw [SameOutcome, hpruned.calls_of_absent hnone, hkept.calls_of_absent hany]

/-- Where only the larger table has an entry point, the smaller one is refused, and the larger one
gives nothing. -/
theorem refused_of_not_keepsAnEntry (h : smaller.PrunedFrom table)
    (hpruned : OccursOn settings smaller false pruned) (hkept : OccursOn settings table false kept)
    (hdown' : kept.stop = false) (hentry : ¬ KeepsAnEntry settings smaller table) :
    pruned.calls = .error (.unsupportedBinaryKind (.noEntryPoint settings.entryPoints)) ∧
      kept.calls = .ok [] := by
  rw [KeepsAnEntry, Classical.not_imp, Bool.not_eq_true] at hentry
  obtain ⟨hany, hnone⟩ := hentry
  obtain ⟨calls, hcalls, hmem⟩ := hkept.calls_of_present hany hdown'
  have habsent : ∀ entry ∈ settings.entryPoints, smaller.get? entry = none := by
    simpa [SymbolTable.contains] using hnone
  have hnil : calls = [] := by
    refine List.eq_nil_iff_forall_not_mem.2 fun call hcall => ?_
    exact SymbolTable.not_uses_of_absent habsent (h.uses_iff.2 ((hmem call).1 hcall).2)
  exact ⟨hpruned.calls_of_absent hnone, hnil ▸ hcalls⟩

end Extraction

/-! ### Listings -/

namespace Listing

/-- The blocks of a listing, given as bytes. -/
def blocks (bytes : List UInt8) : List Passage := passages ((Text.lines bytes).map Text.lineText)

/-- No symbol has two blocks. -/
def DeclaredOnce (bytes : List UInt8) : Prop := ((blocks bytes).map (·.name)).Nodup

instance (bytes : List UInt8) : Decidable (DeclaredOnce bytes) :=
  inferInstanceAs (Decidable (List.Nodup _))

/-- The table of a listing with the functions of all its blocks, empty ones too. -/
def unprunedTable (registry : Registry) (wrappers : List String) (bytes : List UInt8) :
    SymbolTable :=
  .ofList ((blocks bytes).map (Passage.definition registry wrappers))

/-- Entry points have blocks, and all of these are empty. -/
def OnlyEmptyEntries (settings : Settings) (bytes : List UInt8) : Prop :=
  (∃ block ∈ blocks bytes, block.name ∈ settings.entryPoints) ∧
  ∀ block ∈ blocks bytes, block.name ∈ settings.entryPoints →
    (block.definition .linuxX64 settings.wrappers).isEmpty = true

instance (settings : Settings) (bytes : List UInt8) : Decidable (OnlyEmptyEntries settings bytes) :=
  inferInstanceAs (Decidable (_ ∧ _))

variable {registry : Registry} {wrappers : List String} {bytes : List UInt8} {name : String}
  {f : FunctionDef} {settings : Settings}

/-- The functions of a listing, where no symbol has two blocks: those of its blocks that are not
empty. -/
theorem get?_build_iff (honce : DeclaredOnce bytes) :
    (build registry wrappers bytes).table.get? name = some f ↔
      ∃ block ∈ blocks bytes, block.name = name ∧ f = block.definition registry wrappers ∧
        f.isEmpty = false := by
  rw [get?_build, Option.map_eq_some_iff]
  constructor
  · rintro ⟨block, hlast, rfl⟩
    obtain ⟨before, after, hsplit, hname, hkept, -⟩ := lastPassage?_eq_some_iff.1 hlast
    exact ⟨block, by simp [blocks, hsplit], hname, rfl, hkept⟩
  · rintro ⟨block, hblock, hname, rfl, hkept⟩
    obtain ⟨before, after, hsplit⟩ := List.append_of_mem hblock
    refine ⟨block, lastPassage?_eq_some_iff.2 ⟨before, after, hsplit, hname, hkept,
      fun later hlater hsame => ?_⟩, rfl⟩
    -- Another block of the symbol would be a second one.
    rw [DeclaredOnce, hsplit, List.map_append, List.map_cons, List.nodup_append,
      List.nodup_cons] at honce
    exact absurd (List.mem_map.2 ⟨later, hlater, hsame.trans hname.symm⟩) honce.2.1.1

/-- The functions of a listing with all its blocks. -/
theorem get?_unprunedTable_iff (honce : DeclaredOnce bytes) :
    (unprunedTable registry wrappers bytes).get? name = some f ↔
      ∃ block ∈ blocks bytes, block.name = name ∧ f = block.definition registry wrappers := by
  have hnames : ((blocks bytes).map (Passage.definition registry wrappers)).map (·.name) =
      (blocks bytes).map (·.name) := by
    rw [List.map_map]
    rfl
  rw [unprunedTable, SymbolTable.get?_ofList_iff (hnames ▸ honce), List.mem_map]
  constructor
  · rintro ⟨⟨block, hblock, rfl⟩, hname⟩
    exact ⟨block, hblock, hname, rfl⟩
  · rintro ⟨block, hblock, hname, rfl⟩
    exact ⟨⟨block, hblock, rfl⟩, hname⟩

/-- The table of a listing leaves out the empty functions and nothing else. -/
theorem prunedFrom_unprunedTable (honce : DeclaredOnce bytes) :
    (build registry wrappers bytes).table.PrunedFrom (unprunedTable registry wrappers bytes) := by
  intro name f
  rw [get?_build_iff honce, get?_unprunedTable_iff honce]
  constructor
  · rintro ⟨block, hblock, hname, hf, hkept⟩
    exact ⟨⟨block, hblock, hname, hf⟩, hkept⟩
  · rintro ⟨⟨block, hblock, hname, hf⟩, hkept⟩
    exact ⟨block, hblock, hname, hf, hkept⟩

/-- An entry point is missed where entry points have blocks and all of these are empty. -/
theorem keepsAnEntry_iff (honce : DeclaredOnce bytes) :
    Extraction.KeepsAnEntry settings (build .linuxX64 settings.wrappers bytes).table
      (unprunedTable .linuxX64 settings.wrappers bytes) ↔ ¬ OnlyEmptyEntries settings bytes := by
  have hall :
      settings.entryPoints.any (unprunedTable .linuxX64 settings.wrappers bytes).contains = true ↔
        ∃ block ∈ blocks bytes, block.name ∈ settings.entryPoints := by
    simp only [List.any_eq_true, SymbolTable.contains, Option.isSome_iff_exists,
      get?_unprunedTable_iff honce]
    constructor
    · rintro ⟨entry, he, f, block, hblock, rfl, -⟩
      exact ⟨block, hblock, he⟩
    · rintro ⟨block, hblock, he⟩
      exact ⟨block.name, he, _, block, hblock, rfl, rfl⟩
  have hkept :
      settings.entryPoints.any (build .linuxX64 settings.wrappers bytes).table.contains = true ↔
        ∃ block ∈ blocks bytes, block.name ∈ settings.entryPoints ∧
          (block.definition .linuxX64 settings.wrappers).isEmpty = false := by
    simp only [List.any_eq_true, SymbolTable.contains, Option.isSome_iff_exists,
      get?_build_iff honce]
    constructor
    · rintro ⟨entry, he, f, block, hblock, rfl, rfl, hf⟩
      exact ⟨block, hblock, he, hf⟩
    · rintro ⟨block, hblock, he, hf⟩
      exact ⟨block.name, he, _, block, hblock, rfl, rfl, hf⟩
  rw [Extraction.KeepsAnEntry, hall, hkept, OnlyEmptyEntries, not_and]
  simp only [not_forall, exists_prop, Bool.not_eq_true]

end Listing

/-! ### Extractions from listings -/

namespace Extraction

variable {settings : Settings} {bytes : List UInt8} {pruned kept : Extraction}

/-- **What leaving out empty functions changes.** Take a listing in which no symbol has two blocks,
and two extractions under any schedules that are never asked to stop: one from the table of the
listing, one from the table that has the empty functions too. Both come to the same, except where
entry points have blocks and all of these are empty. There the first one fails for want of an entry
point, and the second one succeeds and gives nothing. -/
theorem pruning_keeps_outcome_iff (honce : Listing.DeclaredOnce bytes)
    (hpruned : OccursOn settings
      (Listing.build .linuxX64 settings.wrappers bytes).table false pruned)
    (hkept : OccursOn settings (Listing.unprunedTable .linuxX64 settings.wrappers bytes) false kept)
    (hdown : pruned.stop = false) (hdown' : kept.stop = false) :
    (SameOutcome pruned kept ↔ ¬ Listing.OnlyEmptyEntries settings bytes) ∧
    (Listing.OnlyEmptyEntries settings bytes →
      pruned.calls = .error (.unsupportedBinaryKind (.noEntryPoint settings.entryPoints)) ∧
        kept.calls = .ok []) := by
  have htable : (Listing.build .linuxX64 settings.wrappers bytes).table.PrunedFrom
      (Listing.unprunedTable .linuxX64 settings.wrappers bytes) :=
    Listing.prunedFrom_unprunedTable honce
  have hrefused (honly : Listing.OnlyEmptyEntries settings bytes) :=
    refused_of_not_keepsAnEntry htable hpruned hkept hdown' fun hentry =>
      (Listing.keepsAnEntry_iff honce).1 hentry honly
  refine ⟨⟨fun hsame honly => ?_, fun honly => ?_⟩, hrefused⟩
  · obtain ⟨hfailed, hok⟩ := hrefused honly
    rw [SameOutcome, hfailed, hok] at hsame
    exact hsame
  · exact sameOutcome_of_keepsAnEntry htable hpruned hkept hdown hdown'
      ((Listing.keepsAnEntry_iff honce).2 honly)

/-- A listing whose entry point calls an empty function: leaving it out changes nothing. -/
theorem pruning_keeps_outcome_of_leaf :
    let bytes := Text.Utf8.encode
      "TEXT main.main(SB)\n\tMOVL $0x3c, AX\n\tSYSCALL\n\tCALL main.leaf(SB)\n\nTEXT main.leaf(SB)\n\tRET\n"
    let table := (Listing.build .linuxX64 Settings.defaultWrappers bytes).table
    let unpruned := Listing.unprunedTable .linuxX64 Settings.defaultWrappers bytes
    let pruned := ofTable .default table false none
    let kept := ofTable .default unpruned false none
    Listing.DeclaredOnce bytes ∧ OccursOn .default table false pruned ∧
      OccursOn .default unpruned false kept ∧
    pruned.stop = false ∧ kept.stop = false ∧
    table.contains "main.leaf" = false ∧ unpruned.contains "main.leaf" = true ∧
    pruned.calls = .ok [⟨60, "exit"⟩] ∧ SameOutcome pruned kept := by
  intro bytes table unpruned pruned kept
  obtain ⟨honce, hdown, hdown', hleaf, hleaf', hcalls, hentry⟩ :
      Listing.DeclaredOnce bytes ∧ pruned.stop = false ∧ kept.stop = false ∧
      table.contains "main.leaf" = false ∧ unpruned.contains "main.leaf" = true ∧
      pruned.calls = .ok [⟨60, "exit"⟩] ∧ ¬ Listing.OnlyEmptyEntries .default bytes := by
    decide +kernel +revert
  have hpruned := occursOn_ofTable .default table false none
  have hkept := occursOn_ofTable .default unpruned false none
  have hsame := (pruning_keeps_outcome_iff honce hpruned hkept hdown hdown').1.2 hentry
  exact ⟨honce, hpruned, hkept, hdown, hdown', hleaf, hleaf', hcalls, hsame⟩

/-- A program whose entry point does nothing: with its empty function the extraction succeeds and
reports nothing, without it the extraction fails, and says that there is no entry point. -/
theorem empty_main_is_refused :
    let bytes := Text.Utf8.encode "TEXT main.main(SB)\n\tRET\n"
    let table := (Listing.build .linuxX64 Settings.defaultWrappers bytes).table
    let unpruned := Listing.unprunedTable .linuxX64 Settings.defaultWrappers bytes
    let pruned := ofTable .default table false none
    let kept := ofTable .default unpruned false none
    Listing.DeclaredOnce bytes ∧ OccursOn .default table false pruned ∧
      OccursOn .default unpruned false kept ∧
    pruned.stop = false ∧ kept.stop = false ∧
    pruned.calls = .error (.unsupportedBinaryKind (.noEntryPoint Settings.defaultEntryPoints)) ∧
    kept.calls = .ok [] ∧ ¬ SameOutcome pruned kept := by
  intro bytes table unpruned pruned kept
  obtain ⟨honce, hdown, hdown', hfailed, hok⟩ :
      Listing.DeclaredOnce bytes ∧ pruned.stop = false ∧ kept.stop = false ∧
      pruned.calls = .error (.unsupportedBinaryKind (.noEntryPoint Settings.defaultEntryPoints)) ∧
      kept.calls = .ok [] := by
    decide +kernel +revert
  refine ⟨honce, occursOn_ofTable .default table false none,
    occursOn_ofTable .default unpruned false none, hdown, hdown', hfailed, hok, fun hsame => ?_⟩
  rw [SameOutcome, hfailed, hok] at hsame
  exact hsame

end Extraction

end SyscallCensus
